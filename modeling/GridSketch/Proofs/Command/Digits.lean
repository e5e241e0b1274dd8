import GridSketch.Command.Batch
import Mathlib.Data.List.Induction

/-!
# The digits in a command

The readers of a command look for their tokens and return the digits of the numerals in them, and
how long a numeral may be is checked afterwards. Wherever a reader finds its token, the digits stand
together in the line: they are a *run* of it (`Text.IsRun`). So a text in which no run of digits is
too long (`Text.ShortRuns`) has no command in which a numeral is.

Each reader has two lemmas in one. What it reads is a run of its text, and what it leaves is the end
of its text (`readDigits_run`, `readIndex_run`, …), so that the runs of the rest are runs of the
whole (`IsRun.of_part`), up to the line and the text that the token was looked for in.
-/

set_option autoImplicit false

namespace GridSketch

namespace Text

/-! ## 1. Runs and parts of a text -/

/-- Digits that stand together in a text, not necessarily all that do. -/
structure IsRun (ds cs : List Char) : Prop where
  part : ds <:+: cs
  digits : ∀ c ∈ ds, isDigit c

theorem IsRun.of_part {ds cs cs' : List Char} (h : IsRun ds cs) (hp : cs <:+: cs') :
    IsRun ds cs' :=
  ⟨h.part.trans hp, h.digits⟩

theorem IsRun.of_suffix {ds cs cs' : List Char} (h : IsRun ds cs) (hs : cs <:+ cs') :
    IsRun ds cs' :=
  h.of_part hs.isInfix

/-- No run of digits in a text is too long to be a numeral. -/
def ShortRuns (cs : List Char) : Prop :=
  ∀ ds, IsRun ds cs → ds.length ≤ digitLimit

theorem ShortRuns.of_part {cs cs' : List Char} (h : ShortRuns cs') (hp : cs <:+: cs') :
    ShortRuns cs :=
  fun ds hds => h ds (hds.of_part hp)

theorem shortRuns_of_length_le {cs : List Char} (h : cs.length ≤ digitLimit) : ShortRuns cs :=
  fun _ hds => Nat.le_trans hds.part.length_le h

theorem skipBlanks_suffix (cs : List Char) : skipBlanks cs <:+ cs :=
  List.dropWhile_suffix _

theorem takeDigits_run (cs : List Char) :
    IsRun (takeDigits cs).1 cs ∧ (takeDigits cs).2 <:+ cs :=
  ⟨⟨(List.takeWhile_prefix _).isInfix, fun _ hc => isDigit_of_mem_takeDigits hc⟩,
    List.dropWhile_suffix _⟩

theorem takeSign_suffix (cs : List Char) : (takeSign cs).2 <:+ cs := by
  unfold takeSign
  split
  · exact List.suffix_cons _ _
  · exact List.suffix_cons _ _
  · exact List.suffix_refl _

theorem trim_part (cs : List Char) : trim cs <:+: cs := by
  have hend : trim cs <+: skipBlanks cs := by
    have h := List.reverse_prefix.mpr (List.dropWhile_suffix isBlank (l := (skipBlanks cs).reverse))
    rwa [List.reverse_reverse] at h
  exact hend.isInfix.trans (skipBlanks_suffix cs).isInfix

theorem cut_parts (mark cs : List Char) : (cut mark cs).1 <:+: cs ∧ (cut mark cs).2 <:+: cs := by
  cases hc : contains mark cs with
  | true =>
    have happend := cut_append hc
    constructor
    · exact ⟨[], mark ++ (cut mark cs).2, by rw [List.nil_append, ← List.append_assoc, happend]⟩
    · exact ⟨(cut mark cs).1 ++ mark, [], by rw [List.append_nil, happend]⟩
  | false =>
    rw [cut_of_not_contains (by rw [hc]; exact Bool.false_ne_true)]
    exact ⟨List.infix_refl cs, List.nil_infix⟩

/-- The first line begins the text, and the others stand somewhere in it. -/
theorem lines_part {cs : List Char} :
    (∀ l ∈ (lines cs).head?, l <+: cs) ∧ ∀ l ∈ lines cs, l <:+: cs := by
  induction cs with
  | nil => simp [lines]
  | cons c cs ih =>
    obtain ⟨hfirst, hall⟩ := ih
    have hcs : cs <:+: c :: cs := (List.suffix_cons c cs).isInfix
    rw [lines]
    by_cases hc : c = '\n'
    · rw [if_pos hc]
      refine ⟨by simp, ?_⟩
      intro l hl
      rcases List.mem_cons.mp hl with rfl | hl
      · exact List.nil_infix
      · exact (hall l hl).trans hcs
    · rw [if_neg hc]
      obtain ⟨first, rest, hlines⟩ := List.exists_cons_of_ne_nil (lines_ne_nil cs)
      rw [hlines] at hfirst hall ⊢
      have hhead : c :: first <+: c :: cs :=
        List.cons_prefix_cons.mpr ⟨rfl, hfirst first rfl⟩
      refine ⟨by simpa using hhead, ?_⟩
      intro l hl
      rcases List.mem_cons.mp hl with rfl | hl
      · exact hhead.isInfix
      · exact (hall l (List.mem_cons_of_mem _ hl)).trans hcs

/-- A text without a line feed is one line. -/
theorem lines_of_not_mem {cs : List Char} (h : '\n' ∉ cs) : lines cs = [cs] := by
  induction cs with
  | nil => rfl
  | cons c cs ih =>
    rw [List.mem_cons, not_or] at h
    rw [lines, if_neg (Ne.symm h.1), ih h.2]

/-- What is found in a text is read off one of its ends. -/
theorem findFirst_suffix {α : Type} {read : List Char → Option α} {cs : List Char} {a : α}
    (h : findFirst read cs = some a) : ∃ cs', cs' <:+ cs ∧ read cs' = some a := by
  induction cs with
  | nil => exact ⟨[], List.suffix_refl _, h⟩
  | cons c cs ih =>
    rw [findFirst] at h
    cases hr : read (c :: cs) with
    | some b =>
      rw [hr] at h
      exact ⟨c :: cs, List.suffix_refl _, hr.trans h⟩
    | none =>
      rw [hr] at h
      obtain ⟨cs', hs, hr'⟩ := ih h
      exact ⟨cs', hs.trans (List.suffix_cons c cs), hr'⟩

/-! ## 2. The number that digits denote -/

theorem digitValue?_lt {c : Char} {v : Nat} (h : digitValue? c = some v) : v < 10 := by
  obtain ⟨z, _, hz⟩ := List.exists_of_findSome?_eq_some h
  split at hz
  · have hv := Option.some.inj hz
    omega
  · exact nomatch hz

theorem digitsValue_concat (cs : List Char) (c : Char) :
    digitsValue (cs ++ [c]) = 10 * digitsValue cs + (digitValue? c).getD 0 := by
  rw [digitsValue, List.map_append, List.map_singleton, ofDigits_concat]
  rfl

theorem digitsValue_lt (cs : List Char) : digitsValue cs < Nat.pow 10 cs.length := by
  induction cs using List.reverseRecOn with
  | nil => exact Nat.one_pos
  | append_singleton cs c ih =>
    have hc : (digitValue? c).getD 0 < 10 := by
      cases hv : digitValue? c with
      | none => exact Nat.succ_pos 9
      | some v => exact digitValue?_lt hv
    have hpow : Nat.pow 10 (cs.length + 1) = Nat.pow 10 cs.length * 10 := rfl
    rw [digitsValue_concat, List.length_append, List.length_singleton, hpow]
    omega

theorem pow_le {k l : Nat} (h : k ≤ l) : Nat.pow 10 k ≤ Nat.pow 10 l :=
  Nat.pow_le_pow_right (Nat.succ_pos 9) h

end Text

namespace Command

open Text (IsRun)

variable {cs rest ds : List Char}

/-! ## 3. Readers -/

/-- A numeral that is turned into an integer is short enough to be printed again. -/
theorem natural_lt {n : Nat} (h : natural ds = .ok n) : n < Nat.pow 10 Text.digitLimit := by
  unfold natural at h
  split at h
  · exact nomatch h
  · rename_i hshort
    rw [← Except.ok.inj h]
    exact Nat.lt_of_lt_of_le (Text.digitsValue_lt ds) (Text.pow_le (Nat.le_of_not_lt hshort))

theorem dropMark_suffix {mark : Char} (h : dropMark mark cs = some rest) : rest <:+ cs := by
  unfold dropMark at h
  split at h
  · exact nomatch h
  · rename_i c rest' hskip
    split at h
    · obtain rfl := Option.some.inj h
      have hcons : rest' <:+ Text.skipBlanks cs := hskip ▸ List.suffix_cons c rest'
      exact hcons.trans (Text.skipBlanks_suffix cs)
    · exact nomatch h

theorem readDigits_run (h : readDigits cs = some (ds, rest)) : IsRun ds cs ∧ rest <:+ cs := by
  obtain ⟨hrun, hrest⟩ := Text.takeDigits_run (Text.skipBlanks cs)
  have hskip := Text.skipBlanks_suffix cs
  have hread : Text.takeDigits (Text.skipBlanks cs) = (ds, rest) := by
    unfold readDigits at h
    split at h
    · exact nomatch h
    · exact Option.some.inj h
  rw [hread] at hrun hrest
  exact ⟨hrun.of_suffix hskip, hrest.trans hskip⟩

theorem readIndex_run (h : readIndex cs = some (ds, rest)) : IsRun ds cs ∧ rest <:+ cs := by
  simp only [readIndex, Option.bind_eq_bind, Option.bind_eq_some_iff] at h
  obtain ⟨inner, hopen, ⟨ds', rest'⟩, hdigits, rest'', hclose, hresult⟩ := h
  obtain ⟨rfl, rfl⟩ := Prod.mk.inj (Option.some.inj hresult)
  obtain ⟨hrun, hrest⟩ := readDigits_run hdigits
  have hinner := dropMark_suffix hopen
  exact ⟨hrun.of_suffix hinner, ((dropMark_suffix hclose).trans hrest).trans hinner⟩

theorem readName_suffix {name : List Char} (h : readName cs = some (name, rest)) : rest <:+ cs := by
  unfold readName at h
  split at h
  · exact nomatch h
  · obtain ⟨_, rfl⟩ := Prod.mk.inj (Option.some.inj h)
    exact List.dropWhile_suffix _

theorem readCell_run {c : CellText} (h : readCell cs = some c) : IsRun c.row cs ∧ IsRun c.col cs := by
  simp only [readCell, Option.bind_eq_bind, Option.bind_eq_some_iff] at h
  obtain ⟨⟨name, rest⟩, hname, ⟨row, rest'⟩, hrow, ⟨col, rest''⟩, hcol, hresult⟩ := h
  obtain rfl := Option.some.inj hresult
  have hrest := readName_suffix hname
  obtain ⟨hrun, hrest'⟩ := readIndex_run hrow
  obtain ⟨hrun', _⟩ := readIndex_run hcol
  exact ⟨hrun.of_suffix hrest, hrun'.of_suffix (hrest'.trans hrest)⟩

theorem readSize_run {r c : List Char} (h : readPair '[' ']' readDigits cs = some (r, c)) :
    IsRun r cs ∧ IsRun c cs := by
  cases cs with
  | nil => exact nomatch h
  | cons x inner =>
    simp only [readPair] at h
    split at h
    · simp only [Option.bind_eq_bind, Option.bind_eq_some_iff] at h
      obtain ⟨_, ⟨rfl⟩, ⟨r', rest⟩, hrow, rest', hcomma, ⟨c', rest''⟩, hcol, _, _, hresult⟩ := h
      obtain ⟨rfl, rfl⟩ := Prod.mk.inj (Option.some.inj hresult)
      obtain ⟨hrun, hrest⟩ := readDigits_run hrow
      obtain ⟨hrun', _⟩ := readDigits_run hcol
      have hskip := (Text.skipBlanks_suffix inner).trans (List.suffix_cons x inner)
      exact ⟨hrun.of_suffix hskip, hrun'.of_suffix ((Text.skipBlanks_suffix rest').trans
        ((dropMark_suffix hcomma).trans (hrest.trans hskip)))⟩
    · exact nomatch h

theorem literal?_run {l : Literal} (h : literal? cs = some l) : IsRun l.whole cs := by
  have hread : ∃ rest, readLiteral cs = some (l, rest) := by
    unfold literal? at h
    split at h
    · rename_i l' hl
      obtain rfl := Option.some.inj h
      exact ⟨[], hl⟩
    · exact nomatch h
  obtain ⟨rest, hread⟩ := hread
  -- with a point or without, the whole part is the digits that come first after the sign
  have hwhole : l.whole = (Text.takeDigits (Text.takeSign cs).2).1 := by
    simp only [readLiteral, readUnsigned] at hread
    split at hread
    · rename_i whole rest' htake
      split at hread
      · exact nomatch hread
      · obtain ⟨rfl, _⟩ := Prod.mk.inj (Option.some.inj hread)
        rw [htake]
    · rename_i whole rest' _ htake
      split at hread
      · exact nomatch hread
      · obtain ⟨rfl, _⟩ := Prod.mk.inj (Option.some.inj hread)
        rw [htake]
  rw [hwhole]
  exact (Text.takeDigits_run _).1.of_suffix (Text.takeSign_suffix cs)

end Command

end GridSketch
