import GridSketch.Command.Batch
import GridSketch.Proofs.Scene.Success

/-!
# How commands are spelled

A command is a line of tokens with white space between them, none of it needed. The readers of
`Command.Token` do not know where a token ends before they have read it, and the marks at which a
line is taken apart are looked for anywhere. So that a line is read back token by token is a fact
about the tokens: which character a reader stops at, and which characters no earlier token has.

`Spaced ts cs` says that a text is those tokens in order, with white space in front of each and
after the last. Cutting at a mark splits the tokens there (`cut_spaced`), whatever text stands
behind them: a colour or a value is free text and no token. What the readers take off such a text is
said in `Command.Reading`.

Numerals and literals are described by what they are, not by what the readers take: a run of digits
of any script (`IsNumeral`), and a sign, digits and a point with at least one digit around it
(`Literal.Spells`).
-/

set_option autoImplicit false

namespace GridSketch

namespace Text

/-! ## 1. White space -/

/-- White space, or nothing. -/
def AllBlank (cs : List Char) : Prop :=
  ∀ c ∈ cs, isBlank c = true

theorem allBlank_nil : AllBlank [] :=
  fun _ h => nomatch h

theorem isBlank_of_isDigit {c : Char} (h : isDigit c) : isBlank c = false := by
  -- looked up for the ten digits of every script
  have hall : ∀ z ∈ zeros, ∀ k ∈ List.range 10, isBlank (Char.ofNat (z + k)) = false := by
    decide +kernel
  rw [isDigit, digitValue?, List.findSome?_isSome_iff] at h
  obtain ⟨z, hz, hc⟩ := h
  split at hc
  · rename_i hrange
    have hk : c.toNat - z ∈ List.range 10 := List.mem_range.mpr (by omega)
    have hblank := hall z hz _ hk
    rwa [Nat.add_sub_cancel' hrange.1, Char.ofNat_toNat] at hblank
  · exact nomatch hc

theorem isBlank_of_isNameChar {c : Char} (h : Name.isNameChar c) : isBlank c = false := by
  have hrange : 48 ≤ c.toNat ∧ c.toNat ≤ 122 := by
    simp only [Name.isNameChar, Bool.or_eq_true, Bool.and_eq_true, decide_eq_true_eq] at h
    rcases h with ((h | h) | h) | rfl
    · exact ⟨Nat.le_trans (by decide) h.1, Nat.le_trans h.2 (by decide)⟩
    · exact ⟨Nat.le_trans (by decide) h.1, Nat.le_trans h.2 (by decide)⟩
    · exact ⟨Nat.le_trans (by decide) h.1, Nat.le_trans h.2 (by decide)⟩
    · decide
  simp only [isBlank, isPadding, isWideBlank, Bool.or_eq_false_iff, Bool.and_eq_false_iff,
    decide_eq_false_iff_not, beq_eq_false_iff_ne]
  omega

theorem isDigit_of_isBlank {c : Char} (h : isBlank c = true) : isDigit c = false := by
  rw [Bool.eq_false_iff]
  intro hdigit
  rw [isBlank_of_isDigit hdigit] at h
  exact nomatch h

theorem isNameChar_of_isBlank {c : Char} (h : isBlank c = true) : Name.isNameChar c = false := by
  rw [Bool.eq_false_iff]
  intro hname
  rw [isBlank_of_isNameChar hname] at h
  exact nomatch h

theorem skipBlanks_append {g cs : List Char} (hg : AllBlank g) :
    skipBlanks (g ++ cs) = skipBlanks cs :=
  List.dropWhile_append_of_pos hg

theorem skipBlanks_of_head {cs : List Char} (h : ∀ c ∈ cs.head?, isBlank c = false) :
    skipBlanks cs = cs := by
  cases cs with
  | nil => rfl
  | cons c cs => exact List.dropWhile_cons_of_neg (by simpa using h c rfl)

theorem trim_append {g cs : List Char} (hg : AllBlank g) : trim (g ++ cs) = trim cs := by
  rw [trim, strip, List.dropWhile_append_of_pos hg]
  rfl

theorem trim_append_blank {cs g : List Char} (hg : AllBlank g) : trim (cs ++ g) = trim cs := by
  have hend : ∀ ds, dropEnd isBlank (ds ++ g) = dropEnd isBlank ds := by
    intro ds
    rw [dropEnd, List.reverse_append, List.dropWhile_append_of_pos]
    · rfl
    · intro c hc
      exact hg c (List.mem_reverse.mp hc)
  rw [trim, strip, List.dropWhile_append]
  split
  · rename_i hnone
    have hcs : cs.dropWhile isBlank = [] := List.isEmpty_iff.mp hnone
    have hgs : g.dropWhile isBlank = [] := by
      rw [← List.append_nil g, List.dropWhile_append_of_pos hg]
      rfl
    rw [trim, strip, hcs, hgs]
  · exact hend _

theorem trim_of_not_blank {cs : List Char} (h : ∀ c ∈ cs, isBlank c = false) : trim cs = cs := by
  have hkeep : ∀ ds : List Char, (∀ c ∈ ds, isBlank c = false) → ds.dropWhile isBlank = ds := by
    intro ds hds
    exact skipBlanks_of_head fun c hc => hds c (List.mem_of_mem_head? hc)
  rw [trim, strip, hkeep cs h, dropEnd, hkeep _ fun c hc => h c (List.mem_reverse.mp hc),
    List.reverse_reverse]

/-! ## 2. Marks -/

theorem contains_singleton (c : Char) (cs : List Char) : contains [c] cs = decide (c ∈ cs) := by
  induction cs with
  | nil => rfl
  | cons d cs ih => simp [contains, ih, List.isPrefixOf, Bool.beq_eq_decide_eq]

theorem isPrefixOf_cons_of_ne {c d : Char} (h : c ≠ d) (m cs : List Char) :
    (c :: m).isPrefixOf (d :: cs) = false := by
  simp [List.isPrefixOf, h]

/-- A mark does not begin in a text that its first character is not in. -/
theorem contains_append {c : Char} {m cs rest : List Char} (h : c ∉ cs) :
    contains (c :: m) (cs ++ rest) = contains (c :: m) rest := by
  induction cs with
  | nil => rfl
  | cons d cs ih =>
    obtain ⟨hd, hcs⟩ := List.ne_and_not_mem_of_not_mem_cons h
    rw [List.cons_append, contains, isPrefixOf_cons_of_ne hd, Bool.false_or, ih hcs]

theorem contains_mark (c : Char) (m rest : List Char) :
    contains (c :: m) (c :: m ++ rest) = true := by
  simp [contains, List.isPrefixOf_iff_prefix]

theorem contains_of_not_mem {c : Char} {m cs : List Char} (h : c ∉ cs) :
    contains (c :: m) cs = false := by
  have hnil : contains (c :: m) (cs ++ []) = contains (c :: m) [] := contains_append h
  rwa [List.append_nil] at hnil

theorem cut_append_mark {c : Char} {m cs rest : List Char} (h : c ∉ cs) :
    cut (c :: m) (cs ++ (c :: m ++ rest)) = (cs, rest) := by
  induction cs with
  | nil =>
    have hp : (c :: m).isPrefixOf (c :: m ++ rest) = true :=
      List.isPrefixOf_iff_prefix.mpr (List.prefix_append _ _)
    simp only [List.nil_append, List.cons_append] at hp ⊢
    rw [cut, if_pos hp, ← List.cons_append, List.drop_left]
  | cons d cs ih =>
    obtain ⟨hd, hcs⟩ := List.ne_and_not_mem_of_not_mem_cons h
    rw [List.cons_append, cut, isPrefixOf_cons_of_ne hd, if_neg Bool.false_ne_true, ih hcs]

/-! ## 3. Runs -/

/-- A run of one class of characters ends where another character follows. -/
theorem takeWhile_run {p : Char → Bool} {t rest : List Char} (ht : ∀ c ∈ t, p c = true)
    (hr : ∀ c ∈ rest.head?, p c = false) :
    (t ++ rest).takeWhile p = t ∧ (t ++ rest).dropWhile p = rest := by
  rw [List.takeWhile_append_of_pos ht, List.dropWhile_append_of_pos ht]
  cases rest with
  | nil => simp
  | cons c rest => simp [hr c rfl]

end Text

namespace Command

open Text (AllBlank isBlank isDigit)

/-! ## 4. Tokens -/

/-- A text is these tokens, with white space in front of each and behind the last. -/
inductive Spaced : List (List Char) → List Char → Prop where
  | nil {g : List Char} (hg : AllBlank g) : Spaced [] g
  | cons {g t cs : List Char} {ts : List (List Char)} (hg : AllBlank g) (h : Spaced ts cs) :
      Spaced (t :: ts) (g ++ (t ++ cs))

namespace Spaced

variable {ts ts' : List (List Char)} {cs : List Char}

theorem allBlank (h : Spaced [] cs) : AllBlank cs := by
  cases h with
  | nil hg => exact hg

theorem append_blank {g : List Char} (h : Spaced ts cs) (hg : AllBlank g) :
    Spaced ts (cs ++ g) := by
  induction h with
  | nil hg' =>
    apply nil
    intro c hc
    rcases List.mem_append.mp hc with hc | hc
    · exact hg' c hc
    · exact hg c hc
  | cons hg' _ ih =>
    rw [List.append_assoc, List.append_assoc]
    exact cons hg' ih

theorem flatten (ts : List (List Char)) : Spaced ts ts.flatten := by
  induction ts with
  | nil => exact nil Text.allBlank_nil
  | cons t ts ih => exact cons (g := []) Text.allBlank_nil ih

theorem split (h : Spaced (ts ++ ts') cs) :
    ∃ front rest, cs = front ++ rest ∧ Spaced ts front ∧ Spaced ts' rest := by
  induction ts generalizing cs with
  | nil => exact ⟨[], cs, rfl, nil Text.allBlank_nil, h⟩
  | cons t ts ih =>
    cases h with
    | cons hg h =>
      obtain ⟨front, rest, rfl, hfront, hrest⟩ := ih h
      exact ⟨_ ++ (t ++ front), rest, by simp only [List.append_assoc], cons hg hfront, hrest⟩

theorem mem (h : Spaced ts cs) {c : Char} (hc : c ∈ cs) : isBlank c = true ∨ ∃ t ∈ ts, c ∈ t := by
  induction h with
  | nil hg => exact Or.inl (hg c hc)
  | cons hg _ ih =>
    rcases List.mem_append.mp hc with hc | hc
    · exact Or.inl (hg c hc)
    · rcases List.mem_append.mp hc with hc | hc
      · exact Or.inr ⟨_, List.mem_cons_self, hc⟩
      · rcases ih hc with hblank | ⟨t, ht, hct⟩
        · exact Or.inl hblank
        · exact Or.inr ⟨t, List.mem_cons_of_mem _ ht, hct⟩

theorem not_mem (h : Spaced ts cs) {c : Char} (hc : isBlank c = false) (hts : ∀ t ∈ ts, c ∉ t) :
    c ∉ cs := by
  intro hmem
  rcases h.mem hmem with hblank | ⟨t, ht, hct⟩
  · rw [hc] at hblank
    exact nomatch hblank
  · exact hts t ht hct

theorem mem_of_token (h : Spaced ts cs) {t : List Char} {c : Char} (ht : t ∈ ts) (hc : c ∈ t) :
    c ∈ cs := by
  induction h with
  | nil => exact nomatch ht
  | cons _ _ ih =>
    rcases List.mem_cons.mp ht with rfl | ht
    · exact List.mem_append_right _ (List.mem_append_left _ hc)
    · exact List.mem_append_right _ (List.mem_append_right _ (ih ht))

end Spaced

/-- Cutting at a mark parts the tokens at it, if no token before has its first character. What
stands behind the tokens is not looked at. -/
theorem cut_spaced {c : Char} {m cs : List Char} {ts ts' : List (List Char)}
    (h : Spaced (ts ++ (c :: m) :: ts') cs) (hc : isBlank c = false) (hts : ∀ t ∈ ts, c ∉ t)
    (free : List Char) :
    Text.contains (c :: m) (cs ++ free) = true ∧
      ∃ front rest, Spaced ts front ∧ Spaced ts' rest ∧
        Text.cut (c :: m) (cs ++ free) = (front, rest ++ free) := by
  obtain ⟨front, rest, rfl, hfront, hrest⟩ := h.split
  cases hrest with
  | @cons g _ rest _ hg hrest =>
    have hfront := hfront.append_blank hg
    have hc' : c ∉ front ++ g := hfront.not_mem hc hts
    have hassoc : front ++ (g ++ (c :: m ++ rest)) ++ free =
        front ++ g ++ (c :: m ++ (rest ++ free)) := by simp only [List.append_assoc]
    rw [hassoc]
    refine ⟨?_, front ++ g, rest, hfront, hrest, Text.cut_append_mark hc'⟩
    rw [Text.contains_append hc', Text.contains_mark]

/-! ## 5. Numerals, cells and pairs -/

/-- Digits that spell a natural number, and no more of them than are read. -/
structure IsNumeral (ds : List Char) (n : Nat) : Prop where
  ne_nil : ds ≠ []
  digits : ∀ c ∈ ds, isDigit c = true
  short : ds.length ≤ Text.digitLimit
  value : Text.digitsValue ds = n

theorem IsNumeral.natural {ds : List Char} {n : Nat} (h : IsNumeral ds n) :
    natural ds = .ok n := by
  rw [Command.natural, if_neg (Nat.not_lt.mpr h.short), h.value]

/-- An item of a pair reads a token, however the text goes on behind it: with a comma, with the
closing mark or with white space. -/
structure Reads {α : Type} (item : List Char → Option (α × List Char)) (closing : Char)
    (t : List Char) (a : α) : Prop where
  ne_nil : t ≠ []
  head : ∀ c ∈ t.head?, isBlank c = false
  read : ∀ rest : List Char, (∀ c ∈ rest.head?, c = ',' ∨ c = closing ∨ isBlank c = true) →
    item (t ++ rest) = some (a, rest)

def cellTokens (name row col : List Char) : List (List Char) :=
  [name, ['['], row, [']'], ['['], col, [']']]

def pairTokens (opening closing : Char) (first second : List Char) : List (List Char) :=
  [[opening], first, [','], second, [closing]]

namespace Literal

/-- The point of a literal with the digits behind it, if it has one. -/
def pointed (l : Literal) : List Char :=
  match l.places with
  | some ds => '.' :: ds
  | none => []

/-- A text spells a literal: its sign, where only a minus is needed, the digits in front of its
point and, where it has a point, that and the digits behind it. One digit there must be. -/
structure Spells (l : Literal) (cs : List Char) : Prop where
  whole : ∀ c ∈ l.whole, isDigit c = true
  places : ∀ c ∈ l.places.getD [], isDigit c = true
  digit : l.whole ≠ [] ∨ l.places.getD [] ≠ []
  text : ∃ sign, (l.negative = true ∧ sign = ['-'] ∨ l.negative = false ∧ sign ∈ [[], ['+']]) ∧
    cs = sign ++ (l.whole ++ l.pointed)

variable {l : Literal} {cs : List Char}

/-- What stands behind the sign begins with a digit or with the point. -/
theorem Spells.head (h : l.Spells cs) :
    ∀ c ∈ (l.whole ++ l.pointed).head?, isDigit c = true ∨ c = '.' := by
  obtain ⟨_, whole, places⟩ := l
  intro c hc
  cases whole with
  | cons d ds => exact Or.inl (Option.some.inj hc ▸ h.whole d List.mem_cons_self)
  | nil =>
    cases places with
    | none => exact nomatch hc
    | some ds => exact Or.inr (Option.some.inj hc).symm

theorem Spells.ne_nil (h : l.Spells cs) : l.whole ++ l.pointed ≠ [] := by
  obtain ⟨_, whole, places⟩ := l
  rcases h.digit with hd | hd
  · exact fun e => hd (List.append_eq_nil_iff.mp e).1
  · cases places with
    | none => exact absurd rfl hd
    | some ds => simp [pointed]

theorem Spells.readUnsigned (h : l.Spells cs) {rest : List Char}
    (hr : ∀ c ∈ rest.head?, isDigit c = false ∧ c ≠ '.') :
    Command.readUnsigned l.negative (l.whole ++ l.pointed ++ rest) = some (l, rest) := by
  obtain ⟨negative, whole, places⟩ := l
  have hdigit : ∀ x ∈ rest.head?, isDigit x = false := fun x hx => (hr x hx).1
  cases places with
  | some ds =>
    have hpoint : ∀ x ∈ ('.' :: (ds ++ rest)).head?, isDigit x = false := by
      intro x hx
      obtain rfl := Option.some.inj hx
      decide
    obtain ⟨htake, hdrop⟩ := Text.takeWhile_run h.whole hpoint
    obtain ⟨htake', hdrop'⟩ := Text.takeWhile_run h.places hdigit
    simp only [Option.getD_some] at htake' hdrop'
    have hne : ¬ (whole.isEmpty ∧ ds.isEmpty) := by
      rintro ⟨hw, hd⟩
      rcases h.digit with hdig | hdig
      · exact hdig (List.isEmpty_iff.mp hw)
      · exact hdig (List.isEmpty_iff.mp hd)
    have htext : whole ++ pointed ⟨negative, whole, some ds⟩ ++ rest =
        whole ++ '.' :: (ds ++ rest) := by simp [pointed]
    rw [htext, Command.readUnsigned, Text.takeDigits, htake, hdrop]
    simp only [Text.takeDigits, htake', hdrop', if_neg hne]
  | none =>
    have hw : whole ≠ [] := h.digit.elim id fun hd => absurd rfl hd
    obtain ⟨htake, hdrop⟩ := Text.takeWhile_run h.whole hdigit
    have htext : whole ++ pointed ⟨negative, whole, none⟩ ++ rest = whole ++ rest := by
      simp [pointed]
    rw [htext, Command.readUnsigned, Text.takeDigits, htake, hdrop]
    split
    · -- the text does not go on with a point
      rename_i rest' hpair
      obtain ⟨_, hrest⟩ := Prod.mk.inj hpair
      exact absurd rfl (hr '.' (by rw [hrest]; rfl)).2
    · rename_i w r _ hpair
      obtain ⟨rfl, rfl⟩ := Prod.mk.inj hpair
      rw [if_neg (by simpa using hw)]

theorem Spells.reads (h : l.Spells cs) {closing : Char} (hc : isDigit closing = false)
    (hp : closing ≠ '.') : Reads readLiteral closing cs l where
  ne_nil := by
    obtain ⟨sign, _, rfl⟩ := h.text
    exact fun e => h.ne_nil (List.append_eq_nil_iff.mp e).2
  head := by
    obtain ⟨sign, hsign, rfl⟩ := h.text
    have hbody : ∀ c ∈ (l.whole ++ l.pointed).head?, isBlank c = false := by
      intro c hc
      rcases h.head c hc with hdigit | rfl
      · exact Text.isBlank_of_isDigit hdigit
      · decide
    intro c hc'
    rcases hsign with ⟨_, rfl⟩ | ⟨_, hsign⟩
    · obtain rfl := Option.some.inj hc'
      decide
    · rcases List.mem_cons.mp hsign with rfl | hsign
      · exact hbody c hc'
      · obtain rfl := List.mem_singleton.mp hsign
        obtain rfl := Option.some.inj hc'
        decide
  read := by
    intro rest hrest
    have hstop : ∀ c ∈ rest.head?, isDigit c = false ∧ c ≠ '.' := by
      intro c hc'
      rcases hrest c hc' with rfl | rfl | hblank
      · exact ⟨by decide, by decide⟩
      · exact ⟨hc, hp⟩
      · constructor
        · exact Text.isDigit_of_isBlank hblank
        · intro hpoint
          rw [hpoint] at hblank
          exact absurd hblank (by decide)
    have hread := h.readUnsigned hstop
    obtain ⟨sign, hsign, rfl⟩ := h.text
    have hsplit : Text.takeSign (sign ++ (l.whole ++ l.pointed) ++ rest) =
        (l.negative, l.whole ++ l.pointed ++ rest) := by
      rcases hsign with ⟨hneg, rfl⟩ | ⟨hneg, hsign⟩
      · rw [hneg]
        rfl
      · rw [hneg]
        rcases List.mem_cons.mp hsign with rfl | hsign
        · -- the first character is a digit or a point, and so no sign
          obtain ⟨d, ds, hd⟩ := List.exists_cons_of_ne_nil h.ne_nil
          have hfirst := h.head d (by rw [hd]; rfl)
          rw [List.nil_append, hd]
          unfold Text.takeSign
          split
          · rename_i heq
            rw [(List.cons.inj heq).1] at hfirst
            exact absurd hfirst (by decide)
          · rename_i heq
            rw [(List.cons.inj heq).1] at hfirst
            exact absurd hfirst (by decide)
          · rfl
        · obtain rfl := List.mem_singleton.mp hsign
          rfl
    rw [readLiteral, hsplit]
    exact hread

end Literal

/-! ## 6. Decimal numerals -/

theorem digitsValue_toDigits (n : Nat) : Text.digitsValue (Nat.toDigits 10 n) = n := by
  have hdigit : ∀ k, k < 10 → Text.digitValue? k.digitChar = some k := by decide
  induction n using Nat.strongRecOn with
  | ind n ih =>
    rcases Nat.lt_or_ge n 10 with hsmall | hlarge
    · rw [Nat.toDigits_of_lt_base hsmall, Text.digitsValue]
      simp [hdigit n hsmall, Text.ofDigits]
    · have hprev := ih (n / 10) (Nat.div_lt_self (by omega) (by decide))
      have hlast : n % 10 < 10 := Nat.mod_lt n (by decide)
      rw [Text.digitsValue] at hprev
      rw [Nat.toDigits_of_base_le (by decide) hlarge, Text.digitsValue, List.map_append,
        List.map_singleton, Text.ofDigits_concat, hprev, hdigit _ hlast]
      exact Nat.div_add_mod n 10

theorem isDigit_of_mem_toDigits {c : Char} {n : Nat} (h : c ∈ Nat.toDigits 10 n) :
    isDigit c = true := by
  have hall : ∀ k ∈ List.range 10, isDigit (Char.ofNat (48 + k)) = true := by decide
  have hc : c.isDigit = true := Nat.isDigit_of_mem_toDigits (by decide) (by decide) h
  simp only [Char.isDigit, Bool.and_eq_true, decide_eq_true_eq] at hc
  have hrange : 48 ≤ c.toNat ∧ c.toNat ≤ 57 := hc
  have hdigit := hall (c.toNat - 48) (List.mem_range.mpr (by omega))
  rwa [Nat.add_sub_cancel' hrange.1, Char.ofNat_toNat] at hdigit

/-- Every natural number that is not too long is spelled by its decimal digits. -/
theorem isNumeral_toString {n : Nat} (h : (toString n).length ≤ Text.digitLimit) :
    IsNumeral (toString n).toList n := by
  rw [← String.length_toList] at h
  rw [Nat.toString_eq_repr, Nat.toList_repr] at h ⊢
  exact ⟨Nat.toDigits_ne_nil, fun _ => isDigit_of_mem_toDigits, h, digitsValue_toDigits n⟩

end Command

end GridSketch
