import GridSketch.Proofs.Command.Number
import GridSketch.Proofs.Decimal.ReadBack

/-!
# Numbers that are shown and read again

An integer is shown by its digits, and a double by its shortest decimal, with a point or with an
exponent. The grammar of numbers has points and no exponents. So what is shown with a point is a
literal that is worth the same decimal (`Decimal.exists_pointed`), and is read back (`number_text`).
What is shown with an exponent, or in words, has a letter in it and is refused
(`number_text_of_not_plain`). The value alone says which of the two it is (`Number.Plain`).
-/

set_option autoImplicit false

namespace GridSketch

namespace Decimal

open Text (digitsValue isDigit)

variable {ds : List Char} {point : Int}

/-! ## 1. Digits with zeros around them -/

theorem digitsValue_append (cs ds : List Char) :
    digitsValue (cs ++ ds) = digitsValue cs * 10 ^ ds.length + digitsValue ds := by
  induction ds using List.reverseRecOn with
  | nil => simp [digitsValue, Text.ofDigits]
  | append_singleton ds d ih =>
    rw [← List.append_assoc, Text.digitsValue_concat, Text.digitsValue_concat, ih,
      List.length_append, List.length_singleton, pow_succ]
    ring

theorem digitsValue_append_zeros (cs : List Char) (k : Nat) :
    digitsValue (cs ++ List.replicate k '0') = digitsValue cs * 10 ^ k := by
  rw [digitsValue_append, digitsValue_zeros, List.length_replicate, Nat.add_zero]

theorem digitsValue_zeros_append (k : Nat) (cs : List Char) :
    digitsValue (List.replicate k '0' ++ cs) = digitsValue cs := by
  rw [digitsValue_append, digitsValue_zeros, Nat.zero_mul, Nat.zero_add]

/-- The digits of a number are those that are shown and zeros. -/
theorem exists_zeros (n : Nat) :
    ∃ k, Nat.toDigits 10 n = significant n ++ List.replicate k '0' := by
  have hsplit := List.takeWhile_append_dropWhile (p := (· = '0')) (l := (Nat.toDigits 10 n).reverse)
  have hzeros : ∀ c ∈ (Nat.toDigits 10 n).reverse.takeWhile (· = '0'), c = '0' := by
    intro c hc
    simpa using List.mem_takeWhile_imp hc
  obtain ⟨k, hk⟩ : ∃ k, (Nat.toDigits 10 n).reverse.takeWhile (· = '0') = List.replicate k '0' :=
    ⟨_, List.eq_replicate_of_mem hzeros⟩
  refine ⟨k, ?_⟩
  calc Nat.toDigits 10 n = ((Nat.toDigits 10 n).reverse.takeWhile (· = '0') ++
        (Nat.toDigits 10 n).reverse.dropWhile (· = '0')).reverse := by
        rw [hsplit, List.reverse_reverse]
    _ = significant n ++ List.replicate k '0' := by
        rw [List.reverse_append, hk, List.reverse_replicate]
        rfl

theorem isDigit_of_mem_zeros {k : Nat} {c : Char} (hc : c ∈ List.replicate k '0') :
    isDigit c = true := by
  rw [List.eq_of_mem_replicate hc]
  decide

/-! ## 2. Digits with a point -/

/-- A text is digits with a point between them, and is worth a number. -/
structure Pointed (cs : List Char) (v : ℚ) (whole places : List Char) : Prop where
  text : cs = whole ++ '.' :: places
  front : ∀ c ∈ whole, isDigit c = true
  behind : ∀ c ∈ places, isDigit c = true
  digit : whole ≠ []
  value : (digitsValue (whole ++ places) : ℚ) * 10 ^ (-(places.length : Int)) = v

theorem exists_pointed (hds : ds ≠ []) (hdigits : ∀ c ∈ ds, isDigit c = true)
    (hp : positional (point - 1) = true) :
    ∃ whole places, Pointed (layout ds point) (digitsValue ds * 10 ^ (point - ds.length)) whole
      places := by
  have hzero : ['0'] = List.replicate 1 '0' := rfl
  simp only [layout, if_pos hp]
  split
  · -- the point stands in front of all the digits
    rename_i hfront
    refine ⟨['0'], List.replicate (-point).toNat '0' ++ ds, rfl, ?_, ?_, List.cons_ne_nil _ _, ?_⟩
    · exact List.forall_mem_singleton.mpr (by decide)
    · intro c hc
      exact (List.mem_append.mp hc).elim isDigit_of_mem_zeros (hdigits c)
    · have hvalue : digitsValue (['0'] ++ (List.replicate (-point).toNat '0' ++ ds)) =
          digitsValue ds := by
        rw [hzero, digitsValue_zeros_append, digitsValue_zeros_append]
      have hexponent : -((List.replicate (-point).toNat '0' ++ ds).length : Int) =
          point - ds.length := by
        rw [List.length_append, List.length_replicate]
        omega
      rw [hvalue, hexponent]
  · split
    · -- or behind them all
      rename_i hfront hbehind
      refine ⟨ds ++ List.replicate (point.toNat - ds.length) '0', ['0'], by simp, ?_, ?_, ?_, ?_⟩
      · intro c hc
        exact (List.mem_append.mp hc).elim (hdigits c) isDigit_of_mem_zeros
      · exact List.forall_mem_singleton.mpr (by decide)
      · exact List.append_ne_nil_of_left_ne_nil hds _
      · rw [hzero, digitsValue_append_zeros, digitsValue_append_zeros]
        have hexponent : point - ds.length = (point.toNat - ds.length : Nat) := by omega
        rw [hexponent, zpow_natCast, List.length_replicate]
        push_cast
        norm_num
        ring
    · -- or between two of them
      rename_i hfront hbehind
      refine ⟨ds.take point.toNat, ds.drop point.toNat, rfl, ?_, ?_, ?_, ?_⟩
      · exact fun c hc => hdigits c (List.mem_of_mem_take hc)
      · exact fun c hc => hdigits c (List.mem_of_mem_drop hc)
      · intro hnil
        rcases List.take_eq_nil_iff.mp hnil with h | h
        · omega
        · exact hds h
      · have hexponent : -((ds.drop point.toNat).length : Int) = point - ds.length := by
          rw [List.length_drop]
          omega
        rw [List.take_append_drop, hexponent]

/-- What the shown digits are worth where the point is. -/
theorem value_significant (s : Scaled) :
    (digitsValue (significant s.digits) : ℚ) *
      10 ^ ((Nat.toDigits 10 s.digits).length + s.exponent - (significant s.digits).length) =
        s.value := by
  obtain ⟨k, hk⟩ := exists_zeros s.digits
  have hdigits : s.digits = digitsValue (significant s.digits) * 10 ^ k := by
    rw [← digitsValue_append_zeros, ← hk, Command.digitsValue_toDigits]
  have hexponent : ((Nat.toDigits 10 s.digits).length : Int) + s.exponent -
      (significant s.digits).length = k + s.exponent := by
    rw [hk, List.length_append, List.length_replicate]
    omega
  have hcast : (s.digits : ℚ) = digitsValue (significant s.digits) * 10 ^ k := by
    exact_mod_cast hdigits
  rw [hexponent, zpow_add₀ (by norm_num), zpow_natCast, Scaled.value, hcast, mul_assoc]

theorem isDigit_of_mem_significant {n : Nat} {c : Char} (hc : c ∈ significant n) :
    isDigit c = true := by
  obtain ⟨k, hk⟩ := exists_zeros n
  apply Command.isDigit_of_mem_toDigits (n := n)
  rw [hk]
  exact List.mem_append_left _ hc

/-! ## 3. Digits with an exponent -/

theorem mem_exponentText (z : Int) : ∀ c ∈ exponentText z, isDigit c = true ∨ c ∈ ['e', '-', '+'] := by
  intro c hc
  have hds : ∀ c ∈ Nat.toDigits 10 z.natAbs, isDigit c = true :=
    fun _ => Command.isDigit_of_mem_toDigits
  simp only [exponentText, List.mem_cons] at hc
  rcases hc with rfl | hsign | hc
  · exact Or.inr List.mem_cons_self
  · right
    rw [hsign]
    split <;> simp
  · left
    split at hc
    · rcases List.mem_cons.mp hc with rfl | hc
      · decide
      · exact hds c hc
    · exact hds c hc

/-- Outside the exponents that are written with a point there is an exponent, and nothing else that
is no digit but marks. -/
theorem layout_scientific (hds : ds ≠ []) (hdigits : ∀ c ∈ ds, isDigit c = true)
    (hp : ¬ positional (point - 1) = true) :
    'e' ∈ layout ds point ∧
      ∀ c ∈ layout ds point, isDigit c = true ∨ c ∈ ['.', 'e', '-', '+'] := by
  have hexponent : ∀ c ∈ exponentText (point - 1), isDigit c = true ∨ c ∈ ['.', 'e', '-', '+'] :=
    fun c hc => (mem_exponentText _ c hc).imp id (List.mem_cons_of_mem _)
  simp only [layout, if_neg hp]
  match ds, hds with
  | [d], _ =>
    refine ⟨List.mem_cons_of_mem _ List.mem_cons_self, ?_⟩
    intro c hc
    rcases List.mem_cons.mp hc with rfl | hc
    · exact Or.inl (hdigits c List.mem_cons_self)
    · exact hexponent c hc
  | d :: d' :: rest, _ =>
    have he : 'e' ∈ exponentText (point - 1) := List.mem_cons_self
    refine ⟨?_, ?_⟩
    · exact List.mem_cons_of_mem _ (List.mem_cons_of_mem _ (List.mem_append_right _ he))
    · intro c hc
      rcases List.mem_cons.mp hc with rfl | hc
      · exact Or.inl (hdigits c List.mem_cons_self)
      · rcases List.mem_cons.mp hc with rfl | hc
        · exact Or.inr List.mem_cons_self
        · rcases List.mem_append.mp hc with hc | hc
          · exact Or.inl (hdigits c (List.mem_cons_of_mem _ hc))
          · exact hexponent c hc

end Decimal

/-! ## 4. Doubles that are shown -/

/-- A number that is shown without an exponent: an integer, or a double that is zero or is from
0.0001 to below 10000000000000000, whatever its sign. -/
def Number.Plain : Number → Prop
  | .int _ => True
  | .float x =>
    match Decimal.parts x with
    | .finite .. => Decimal.toRat x = 0 ∨
        (10 : ℚ) ^ (-4 : Int) ≤ |Decimal.toRat x| ∧ |Decimal.toRat x| < 10 ^ (16 : Int)
    | .infinite _ | .nan => False

namespace Command

open Decimal (Pointed floatText magnitudeText nearestSigned parts shortest significant toRat)
open Text (digitsValue isBlank isDigit)

variable {cs : List Char} {m : Nat} {e : Int} {negative : Bool} {x : Float}

/-- A sign in front of a text. -/
def withSign (negative : Bool) (cs : List Char) : List Char :=
  if negative then '-' :: cs else cs

theorem withSign_eq (negative : Bool) (cs : List Char) :
    withSign negative cs = (if negative then ['-'] else []) ++ cs := by
  cases negative <;> rfl

/-- A text with a point is read as what it is worth, with its sign. -/
theorem number_of_pointed {v : ℚ} {whole places : List Char} (h : Pointed cs v whole places) :
    number (withSign negative cs) = .ok (.float (nearestSigned negative
      (digitsValue (whole ++ places)) (-(places.length : Int)))) := by
  have hspells : Literal.Spells ⟨negative, whole, some places⟩ (withSign negative cs) := by
    refine ⟨h.front, h.behind, Or.inl h.digit, if negative then ['-'] else [], ?_, ?_⟩
    · cases negative with
      | true => exact Or.inl ⟨rfl, rfl⟩
      | false => exact Or.inr ⟨rfl, List.mem_cons_self⟩
    · rw [withSign_eq, h.text]
      rfl
  rw [number_spelled hspells]
  rfl

/-- A text with a character that stands in no literal is no number. -/
theorem number_of_foreign {c : Char} (hc : c ∈ cs) (hdigit : isDigit c = false)
    (hmark : c ∉ ['.', '-', '+']) (hblank : ∀ c ∈ cs, isBlank c = false) :
    number cs = .error (.invalidNumber (String.ofList cs)) := by
  have htrim := Text.trim_of_not_blank hblank
  have hnone : ¬ ∃ l : Literal, l.Spells (Text.trim cs) := by
    rintro ⟨l, hspells⟩
    rw [htrim] at hspells
    rcases hspells.mem hc with h | h
    · rw [hdigit] at h
      exact nomatch h
    · exact hmark h
  rw [number_of_not_spells hnone, htrim]

/-- The words that doubles without a value are shown by are no numbers. -/
theorem number_word {s : String} (hs : s ∈ ["inf", "-inf", "nan"]) :
    number s.toList = .error (.invalidNumber s) := by
  have hwords : ∀ s ∈ ["inf", "-inf", "nan"],
      'n' ∈ s.toList ∧ s.toList.any isBlank = false := by decide
  obtain ⟨hn, hblank⟩ := hwords s hs
  have hrefused := number_of_foreign hn (by decide) (by decide) fun c hc =>
    Bool.eq_false_of_not_eq_true (List.any_eq_false.mp hblank c hc)
  rwa [String.ofList_toList] at hrefused

theorem number_withSign_scientific (he : 'e' ∈ cs)
    (hmem : ∀ c ∈ cs, isDigit c = true ∨ c ∈ ['.', 'e', '-', '+']) :
    number (withSign negative cs) =
      .error (.invalidNumber (String.ofList (withSign negative cs))) := by
  have hblank : ∀ c ∈ cs, isBlank c = false := fun c hc =>
    (hmem c hc).elim Text.isBlank_of_isDigit isBlank_of_mark
  apply number_of_foreign (c := 'e')
  · rw [withSign_eq]
    exact List.mem_append_right _ he
  · decide
  · decide
  · intro c hc
    rw [withSign_eq] at hc
    rcases List.mem_append.mp hc with hc | hc
    · cases negative with
      | true =>
        rw [List.mem_singleton.mp hc]
        decide
      | false => exact absurd hc List.not_mem_nil
    · exact hblank c hc

theorem toList_floatText (h : parts x = .finite negative m e) :
    (floatText x).toList = withSign negative (magnitudeText m e) := by
  rw [floatText, h]
  exact String.toList_ofList

theorem magnitudeText_zero (e : Int) : Pointed (magnitudeText 0 e) 0 ['0'] ['0'] where
  text := rfl
  front := List.forall_mem_singleton.mpr (by decide)
  behind := List.forall_mem_singleton.mpr (by decide)
  digit := List.cons_ne_nil _ _
  value := by
    have hzero : digitsValue (['0'] ++ ['0']) = 0 := by decide
    rw [hzero, Nat.cast_zero, zero_mul]

theorem nearestSigned_zero (negative : Bool) (z : Int) :
    parts (nearestSigned negative 0 z) = .finite negative 0 (-1074) := by
  have hzero : Decimal.nearest 0 z = 0.0 := if_pos rfl
  rw [nearestSigned, hzero]
  cases negative <;> decide +kernel

/-- What it takes for a finite double to be plain. -/
theorem plain_iff (h : parts x = .finite negative m e) : Number.Plain (.float x) ↔
    m = 0 ∨ (10 : ℚ) ^ (-4 : Int) ≤ m * 2 ^ e ∧ (m * 2 ^ e : ℚ) < 10 ^ (16 : Int) := by
  have hzero : toRat x = 0 ↔ m = 0 := by
    rw [← abs_eq_zero, Decimal.abs_toRat h, mul_eq_zero, Nat.cast_eq_zero]
    exact or_iff_left (Decimal.two_zpow_pos e).ne'
  rw [Number.Plain, h, ← hzero, ← Decimal.abs_toRat h]

/-- A plain double is shown with a point and is read back. -/
theorem number_floatText (h : Number.Plain (.float x)) :
    number (floatText x).toList = .ok (.float x) := by
  cases hparts : parts x with
  | infinite negative =>
    rw [Number.Plain, hparts] at h
    exact h.elim
  | nan =>
    rw [Number.Plain, hparts] at h
    exact h.elim
  | finite negative m e =>
    rw [toList_floatText hparts]
    by_cases hm : m = 0
    · obtain ⟨field, tail, _, _, _, hbits⟩ := Decimal.bits_of_parts hparts
      obtain rfl : e = -1074 := by omega
      rw [hm] at hparts ⊢
      rw [number_of_pointed (magnitudeText_zero _)]
      exact congrArg _ (congrArg _ (Decimal.eq_of_parts (nearestSigned_zero _ _) hparts))
    · have hc := Decimal.canonical_of_parts hparts hm
      have hrange := ((plain_iff hparts).mp h).resolve_left hm
      have hne := Decimal.significant_ne_nil (Decimal.shortest_digits_ne_zero hc)
      obtain ⟨whole, places, hpointed⟩ := Decimal.exists_pointed hne
        (fun _ => Decimal.isDigit_of_mem_significant) ((Decimal.positional_iff hc).mpr hrange)
      rw [Decimal.value_significant] at hpointed
      rw [magnitudeText, if_neg hm, number_of_pointed hpointed,
        Decimal.nearestSigned_shortest hparts hm hpointed.value]

/-- Any other double is shown by a text that is no number. -/
theorem number_floatText_of_not_plain (h : ¬ Number.Plain (.float x)) :
    number (floatText x).toList = .error (.invalidNumber (floatText x)) := by
  cases hparts : parts x with
  | infinite negative =>
    apply number_word
    rw [floatText, hparts]
    cases negative <;> simp
  | nan =>
    apply number_word
    rw [floatText, hparts]
    simp
  | finite negative m e =>
    rw [plain_iff hparts, not_or] at h
    have hc := Decimal.canonical_of_parts hparts h.1
    have hne := Decimal.significant_ne_nil (Decimal.shortest_digits_ne_zero hc)
    obtain ⟨he, hmem⟩ := Decimal.layout_scientific hne
      (fun _ => Decimal.isDigit_of_mem_significant) (mt (Decimal.positional_iff hc).mp h.2)
    have htext := String.ofList_toList (s := floatText x)
    rw [toList_floatText hparts, magnitudeText, if_neg h.1] at htext ⊢
    rw [number_withSign_scientific he hmem, htext]

/-- An integer that is read is short enough to be shown. -/
theorem withinDigitLimit_of_number {n : Int} (h : number cs = .ok (.int n)) :
    Text.withinDigitLimit n := by
  simp only [number] at h
  split at h
  · rename_i l _
    obtain ⟨negative, ds, _ | places⟩ := l
    · simp only [Literal.value, bind_eq_ok, pure_eq_ok] at h
      obtain ⟨k, hk, hn⟩ := h
      have hlt := natural_lt hk
      obtain rfl := Number.int.inj hn
      rw [Text.withinDigitLimit_iff]
      have habs : (Decimal.signed negative k).natAbs = k := by
        cases negative with
        | true => exact Int.natAbs_neg _
        | false => rfl
      rwa [habs]
    · cases h
  · cases h

theorem number_toString {n : Int} (h : Text.withinDigitLimit n) :
    number (toString n).toList = .ok (.int n) := by
  rw [number_spelled (spells_toString n), value_toDigits h]

/-! ## 5. Numbers that are shown -/

variable {v : Number}

/-- A plain number that was read is read again as it is shown. -/
theorem number_text (h : number cs = .ok v) (hplain : v.Plain) : number v.text.toList = .ok v := by
  cases v with
  | int n => exact number_toString (withinDigitLimit_of_number h)
  | float x => exact number_floatText hplain

theorem number_text_of_not_plain (h : ¬ v.Plain) :
    number v.text.toList = .error (.invalidNumber v.text) := by
  cases v with
  | int n => exact absurd trivial h
  | float x => exact number_floatText_of_not_plain h

end Command

end GridSketch
