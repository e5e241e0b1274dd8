import GridSketch.Proofs.Command.Digits
import GridSketch.Proofs.Command.Reading

/-!
# The numbers that can be typed

A number is typed as a literal: a sign that may be left out, digits, and at most one point that may
stand anywhere among them (`Literal.Spells`). The reader takes a literal off the beginning of a text
and has to be left with nothing, which comes to the same as spelling one (`literal?_eq_some`). So a
text stands for an integer, for a double or for no number by what is left of it without white space
around, and the point alone decides between the first two (`number_grammar`).

An integer is shown by a literal of itself, whether it is negative or not (`spells_toString`), so it
is read back whatever white space it stands in.
-/

set_option autoImplicit false

namespace GridSketch.Command

open Text (AllBlank isBlank isDigit)

variable {cs : List Char} {l : Literal}

/-! ## 1. Literals -/

/-- A text is a literal if it spells one. -/
theorem literal?_eq_some : literal? cs = some l ↔ l.Spells cs := by
  constructor
  · intro h
    unfold literal? at h
    split at h
    · rename_i l' hread
      obtain rfl := Option.some.inj h
      obtain ⟨t, hspells, rfl⟩ := Literal.readLiteral_sound hread
      rwa [List.append_nil]
    · exact nomatch h
  · intro h
    have hreads : Reads readLiteral ']' cs l := h.reads (by decide) (by decide)
    have hread := hreads.read [] (by simp)
    rw [List.append_nil] at hread
    rw [literal?, hread]

theorem literal?_eq_none (h : ¬ ∃ l : Literal, l.Spells cs) : literal? cs = none := by
  cases hl : literal? cs with
  | none => rfl
  | some l => exact absurd ⟨l, literal?_eq_some.mp hl⟩ h

/-- There is one literal at most that a text spells. -/
theorem Literal.Spells.unique {l' : Literal} (h : l.Spells cs) (h' : l'.Spells cs) : l = l' := by
  have hread := literal?_eq_some.mpr h
  rw [literal?_eq_some.mpr h'] at hread
  exact (Option.some.inj hread).symm

theorem number_of_spells (h : l.Spells (Text.trim cs)) : number cs = l.value := by
  rw [number, literal?_eq_some.mpr h]

theorem number_of_not_spells (h : ¬ ∃ l : Literal, l.Spells (Text.trim cs)) :
    number cs = .error (.invalidNumber (String.ofList (Text.trim cs))) := by
  rw [number, literal?_eq_none h]

/-- With no run of digits too long, a literal is worth a number. -/
theorem value_of_spells {negative : Bool} {ds : List Char} (hruns : Text.ShortRuns cs)
    (h : Literal.Spells ⟨negative, ds, none⟩ (Text.trim cs)) :
    Literal.value ⟨negative, ds, none⟩ =
      .ok (.int (Decimal.signed negative (Text.digitsValue ds))) := by
  have hrun := (literal?_run (literal?_eq_some.mpr h)).of_part (Text.trim_part cs)
  have hshort : ¬ Text.digitLimit < ds.length := Nat.not_lt.mpr (hruns ds hrun)
  rw [Literal.value]
  simp only [natural, if_neg hshort]
  rfl

/-! ## 2. What is read -/

theorem number_eq_int (hruns : Text.ShortRuns cs) {n : Int} :
    number cs = .ok (.int n) ↔ ∃ negative ds, Literal.Spells ⟨negative, ds, none⟩ (Text.trim cs) ∧
      n = Decimal.signed negative (Text.digitsValue ds) := by
  constructor
  · intro h
    by_cases hspells : ∃ l : Literal, l.Spells (Text.trim cs)
    · obtain ⟨⟨negative, ds, _ | places⟩, hspells⟩ := hspells
      · rw [number_of_spells hspells, value_of_spells hruns hspells] at h
        exact ⟨negative, ds, hspells, (Number.int.inj (Except.ok.inj h)).symm⟩
      · -- with a point it is a double
        rw [number_of_spells hspells] at h
        cases h
    · rw [number_of_not_spells hspells] at h
      cases h
  · rintro ⟨negative, ds, hspells, rfl⟩
    rw [number_of_spells hspells, value_of_spells hruns hspells]

theorem number_eq_float (hruns : Text.ShortRuns cs) {x : Float} :
    number cs = .ok (.float x) ↔
      ∃ negative ds places, Literal.Spells ⟨negative, ds, some places⟩ (Text.trim cs) ∧
        x = Literal.toFloat ⟨negative, ds, some places⟩ := by
  constructor
  · intro h
    by_cases hspells : ∃ l : Literal, l.Spells (Text.trim cs)
    · obtain ⟨⟨negative, ds, _ | places⟩, hspells⟩ := hspells
      · rw [number_of_spells hspells, value_of_spells hruns hspells] at h
        cases h
      · rw [number_of_spells hspells] at h
        exact ⟨negative, ds, places, hspells, (Number.float.inj (Except.ok.inj h)).symm⟩
    · rw [number_of_not_spells hspells] at h
      cases h
  · rintro ⟨negative, ds, places, hspells, rfl⟩
    rw [number_of_spells hspells]
    rfl

theorem number_eq_invalid (hruns : Text.ShortRuns cs) :
    number cs = .error (.invalidNumber (String.ofList (Text.trim cs))) ↔
      ¬ ∃ l : Literal, l.Spells (Text.trim cs) := by
  refine ⟨?_, number_of_not_spells⟩
  rintro h ⟨⟨negative, ds, _ | places⟩, hspells⟩
  · rw [number_of_spells hspells, value_of_spells hruns hspells] at h
    cases h
  · rw [number_of_spells hspells] at h
    cases h

/-! ## 3. Integers that are shown -/

theorem length_toDigits_le {n k : Nat} (hk : 0 < k) (h : n < Nat.pow 10 k) :
    (Nat.toDigits 10 n).length ≤ k := by
  rw [Nat.pow_eq] at h
  rwa [← Nat.toList_repr, String.length_toList, Nat.length_repr_le_iff hk]

/-- The digits of a natural number are a literal, with a sign in front or without. -/
theorem spells_toDigits (n : Nat) {negative : Bool} {sign : List Char}
    (hsign : negative = true ∧ sign = ['-'] ∨ negative = false ∧ sign ∈ [[], ['+']]) :
    Literal.Spells ⟨negative, Nat.toDigits 10 n, none⟩ (sign ++ Nat.toDigits 10 n) where
  whole _ hc := isDigit_of_mem_toDigits hc
  places _ hc := absurd hc List.not_mem_nil
  digit := Or.inl Nat.toDigits_ne_nil
  text := ⟨sign, hsign, by rw [Literal.pointed, List.append_nil]⟩

theorem spells_plus (n : Nat) :
    Literal.Spells ⟨false, Nat.toDigits 10 n, none⟩ ('+' :: Nat.toDigits 10 n) :=
  @spells_toDigits n false ['+'] (Or.inr ⟨rfl, List.mem_cons_of_mem _ List.mem_cons_self⟩)

/-- What stands in a literal. -/
theorem Literal.Spells.mem (h : l.Spells cs) {c : Char} (hc : c ∈ cs) :
    isDigit c = true ∨ c ∈ ['.', '-', '+'] := by
  obtain ⟨negative, ds, places⟩ := l
  obtain ⟨sign, hsign, rfl⟩ := h.text
  rcases List.mem_append.mp hc with hc | hc
  · right
    rcases hsign with ⟨_, rfl⟩ | ⟨_, hsign⟩
    · simp [List.mem_singleton.mp hc]
    · rcases List.mem_cons.mp hsign with rfl | hsign
      · exact absurd hc List.not_mem_nil
      · obtain rfl := List.mem_singleton.mp hsign
        simp [List.mem_singleton.mp hc]
  · rcases List.mem_append.mp hc with hc | hc
    · exact Or.inl (h.whole c hc)
    · cases places with
      | none => exact absurd hc List.not_mem_nil
      | some ps =>
        rcases List.mem_cons.mp hc with rfl | hc
        · exact Or.inr List.mem_cons_self
        · exact Or.inl (h.places c hc)

theorem isBlank_of_mark {c : Char} (hc : c ∈ ['.', 'e', '-', '+']) : isBlank c = false := by
  simp only [List.mem_cons, List.not_mem_nil, or_false] at hc
  rcases hc with rfl | rfl | rfl | rfl <;> decide

/-- There is no white space in a literal. -/
theorem Literal.Spells.trim_eq (h : l.Spells cs) : Text.trim cs = cs := by
  apply Text.trim_of_not_blank
  intro c hc
  rcases h.mem hc with hdigit | hmark
  · exact Text.isBlank_of_isDigit hdigit
  · have hmarks : ['.', '-', '+'] ⊆ ['.', 'e', '-', '+'] := by decide
    exact isBlank_of_mark (hmarks hmark)

theorem number_spelled (h : l.Spells cs) : number cs = l.value := by
  apply number_of_spells
  rwa [h.trim_eq]

/-- A literal is read whatever white space it stands in. -/
theorem number_surrounded {t g g' : List Char} (h : l.Spells t) (hg : AllBlank g)
    (hg' : AllBlank g') : number (g ++ (t ++ g')) = l.value := by
  apply number_of_spells
  rwa [Text.trim_append hg, Text.trim_append_blank hg', h.trim_eq]

/-- An integer is shown by its digits, with a sign only if it is a minus. -/
theorem toList_toString (n : Int) :
    (toString n).toList = (if n < 0 then ['-'] else []) ++ Nat.toDigits 10 n.natAbs := by
  cases n with
  | ofNat k =>
    have hk : ¬ Int.ofNat k < 0 := Int.not_lt.mpr (Int.natCast_nonneg k)
    rw [if_neg hk]
    exact Nat.toList_repr
  | negSucc k =>
    rw [if_pos (Int.negSucc_lt_zero k)]
    exact (String.toList_append ..).trans (congrArg _ Nat.toList_repr)

theorem spells_toString (n : Int) :
    Literal.Spells ⟨decide (n < 0), Nat.toDigits 10 n.natAbs, none⟩ (toString n).toList := by
  rw [toList_toString]
  apply spells_toDigits
  by_cases hn : n < 0
  · exact Or.inl ⟨decide_eq_true hn, if_pos hn⟩
  · exact Or.inr ⟨decide_eq_false hn, by rw [if_neg hn]; exact List.mem_cons_self⟩

theorem signed_natAbs (n : Int) : Decimal.signed (decide (n < 0)) n.natAbs = n := by
  unfold Decimal.signed
  by_cases hn : n < 0
  · rw [if_pos (decide_eq_true hn)]
    omega
  · rw [if_neg (by simpa using hn)]
    omega

theorem value_toDigits {n : Int} (h : Text.withinDigitLimit n) :
    Literal.value ⟨decide (n < 0), Nat.toDigits 10 n.natAbs, none⟩ = .ok (.int n) := by
  have hshort : ¬ Text.digitLimit < (Nat.toDigits 10 n.natAbs).length :=
    Nat.not_lt.mpr (length_toDigits_le (by decide) (Text.withinDigitLimit_iff.mp h))
  rw [Literal.value]
  simp only [natural, if_neg hshort, digitsValue_toDigits, signed_natAbs, bind, Except.bind]
  rfl

/-! ## 4. The grammar of numbers -/

/-- **A text is read as a number exactly by the grammar of literals.** It is an integer, with the
value of its digits, where it is a literal without a point, and a double where it is one with a
point, white space around it dropped; every other text is refused. And an integer that is shown is
read back, in any white space and, if it is not negative, with a plus in front. -/
theorem number_grammar :
    (∀ cs, Text.ShortRuns cs →
      (∀ n, number cs = .ok (.int n) ↔ ∃ negative ds,
        Literal.Spells ⟨negative, ds, none⟩ (Text.trim cs) ∧
          n = Decimal.signed negative (Text.digitsValue ds)) ∧
      (∀ x, number cs = .ok (.float x) ↔ ∃ negative ds places,
        Literal.Spells ⟨negative, ds, some places⟩ (Text.trim cs) ∧
          x = Literal.toFloat ⟨negative, ds, some places⟩) ∧
      (number cs = .error (.invalidNumber (String.ofList (Text.trim cs))) ↔
        ¬ ∃ l : Literal, l.Spells (Text.trim cs))) ∧
    ∀ n, Text.withinDigitLimit n → ∀ g g', AllBlank g → AllBlank g' →
      number (g ++ ((toString n).toList ++ g')) = .ok (.int n) ∧
        (0 ≤ n → number (g ++ ('+' :: (toString n).toList ++ g')) = .ok (.int n)) := by
  constructor
  · intro cs hruns
    exact ⟨fun _ => number_eq_int hruns, fun _ => number_eq_float hruns, number_eq_invalid hruns⟩
  · intro n hn g g' hg hg'
    have hvalue := value_toDigits hn
    refine ⟨(number_surrounded (spells_toString n) hg hg').trans hvalue, ?_⟩
    intro hnonneg
    have hsign : ¬ n < 0 := Int.not_lt.mpr hnonneg
    have hplus := spells_plus n.natAbs
    have htext : (toString n).toList = Nat.toDigits 10 n.natAbs := by
      rw [toList_toString, if_neg hsign, List.nil_append]
    rw [decide_eq_false hsign] at hvalue
    rw [htext]
    exact (number_surrounded hplus hg hg').trans hvalue

/-- Read with a sign and white space around, and shown and read again. -/
theorem number_grammar_seven :
    Text.ShortRuns [' ', '+', '7', '\n'] ∧ number [' ', '+', '7', '\n'] = .ok (.int 7) ∧
      Text.withinDigitLimit (-7) ∧ AllBlank [' '] ∧ AllBlank [] ∧
        number [' ', '-', '7'] = .ok (.int (-7)) := by
  have hruns : Text.ShortRuns [' ', '+', '7', '\n'] := Text.shortRuns_of_length_le (by decide)
  have hspells : Literal.Spells ⟨false, ['7'], none⟩ ['+', '7'] := spells_plus 7
  have hlimit : Text.withinDigitLimit (-7) = true := by decide +kernel
  have hblank : AllBlank [' '] := List.forall_mem_singleton.mpr (by decide)
  refine ⟨hruns, ((number_grammar.1 _ hruns).1 7).mpr ⟨false, ['7'], hspells, rfl⟩, hlimit, hblank,
    Text.allBlank_nil, ?_⟩
  exact (number_grammar.2 (-7) hlimit [' '] [] hblank Text.allBlank_nil).1

end GridSketch.Command
