import GridSketch.Proofs.Command.Spelling

/-!
# What the readers of a command take

A reader takes a token off the beginning of a text and leaves the rest. What it takes, and when it
takes anything at all, is said here for each of them in one equivalence, without saying how it goes
about it: the text begins with certain tokens and goes on with the rest (`Opens`). Readers are run
one after the other, and so are the tokens (`Opens.append`, `Opens.uncons`); the only thing to know
about two tokens that meet is that the first does not go on with what the second begins with.

Cells, sizes and positions are looked for, at the first place of a text where one stands
(`FirstIn`). What stands in front of that place and what stands behind the tokens is not looked at.
The readers of the model drop the rest behind, and with it one could not say what that is. So they
are read off scanners, which keep it (`scanCell`, `scanPair`), and one theorem about scanners
(`Scans.find_eq_some`) says where anything is found.

A text of nothing but the tokens, with white space between them, has what is looked for at its
beginning and nothing but white space around it (`Scans.firstIn_of_spaced`). Since there is but one
first place (`FirstIn.unique`), this is the case of which `Command.Line` speaks, and what stands
around a cell otherwise is what strays in a line.
-/

set_option autoImplicit false

namespace GridSketch

namespace Text

variable {α : Type} {read : List Char → Option α} {cs : List Char} {a : α}

/-! ## 1. The first place -/

/-- What is found in a text is what is read at the first place where anything is. -/
theorem findFirst_eq_some : findFirst read cs = some a ↔
    ∃ front text, cs = front ++ text ∧ read text = some a ∧
      ∀ front' text' b, cs = front' ++ text' → read text' = some b →
        front.length ≤ front'.length := by
  induction cs with
  | nil =>
    constructor
    · intro h
      exact ⟨[], [], rfl, h, fun _ _ _ _ _ => Nat.zero_le _⟩
    · rintro ⟨front, text, hsplit, h, _⟩
      obtain ⟨rfl, rfl⟩ := List.append_eq_nil_iff.mp hsplit.symm
      exact h
  | cons c cs ih =>
    rw [findFirst]
    cases hread : read (c :: cs) with
    | some b =>
      constructor
      · intro h
        obtain rfl := Option.some.inj h
        exact ⟨[], c :: cs, rfl, hread, fun _ _ _ _ _ => Nat.zero_le _⟩
      · rintro ⟨front, text, hsplit, h, hfirst⟩
        have hle : front.length ≤ 0 := hfirst [] (c :: cs) b rfl hread
        obtain rfl := List.length_eq_zero_iff.mp (Nat.le_zero.mp hle)
        obtain rfl : c :: cs = text := hsplit
        exact hread.symm.trans h
    | none =>
      rw [ih]
      constructor
      · rintro ⟨front, text, rfl, h, hfirst⟩
        refine ⟨c :: front, text, rfl, h, ?_⟩
        intro front' text' b hsplit hb
        cases front' with
        | nil =>
          obtain rfl : c :: (front ++ text) = text' := hsplit
          exact nomatch hread.symm.trans hb
        | cons x front' => exact Nat.succ_le_succ (hfirst _ _ _ (List.cons.inj hsplit).2 hb)
      · rintro ⟨front, text, hsplit, h, hfirst⟩
        cases front with
        | nil =>
          obtain rfl : c :: cs = text := hsplit
          exact nomatch hread.symm.trans h
        | cons x front =>
          obtain ⟨rfl, rfl⟩ := List.cons.inj hsplit
          refine ⟨front, text, rfl, h, ?_⟩
          intro front' text' b hsplit' hb
          have hle := hfirst (c :: front') text' b (by rw [hsplit']; rfl) hb
          exact Nat.le_of_succ_le_succ hle

theorem exists_blank_skipBlanks (cs : List Char) :
    ∃ g, AllBlank g ∧ cs = g ++ skipBlanks cs := by
  refine ⟨cs.takeWhile isBlank, ?_, List.takeWhile_append_dropWhile.symm⟩
  intro c hc
  exact List.all_eq_true.mp List.all_takeWhile c hc

end Text

namespace Command

open Text (AllBlank isBlank isDigit)

/-! ## 2. Texts that begin with tokens -/

/-- A text begins with these tokens, with white space in front of each, and goes on with a rest. -/
inductive Opens : List (List Char) → List Char → List Char → Prop where
  | nil (rest : List Char) : Opens [] rest rest
  | cons {g t cs rest : List Char} {ts : List (List Char)} (hg : AllBlank g) (h : Opens ts cs rest) :
      Opens (t :: ts) (g ++ (t ++ cs)) rest

namespace Opens

variable {ts us : List (List Char)} {t u cs mid rest : List Char}

theorem append (h : Opens ts cs mid) (h' : Opens us mid rest) : Opens (ts ++ us) cs rest := by
  induction h with
  | nil => exact h'
  | cons hg _ ih => exact cons hg (ih h')

theorem split (h : Opens (ts ++ us) cs rest) : ∃ mid, Opens ts cs mid ∧ Opens us mid rest := by
  induction ts generalizing cs with
  | nil => exact ⟨cs, nil cs, h⟩
  | cons t ts ih =>
    cases h with
    | cons hg h =>
      obtain ⟨mid, hts, hus⟩ := ih h
      exact ⟨mid, cons hg hts, hus⟩

theorem uncons (h : Opens (t :: us) cs rest) : ∃ mid, Opens [t] cs mid ∧ Opens us mid rest := by
  cases h with
  | cons hg h => exact ⟨_, cons hg (nil _), h⟩

/-- White space in front of the first token may be left out. -/
theorem of_skipBlanks (h : Opens (t :: ts) (Text.skipBlanks cs) rest) :
    Opens (t :: ts) cs rest := by
  obtain ⟨g, hg, hcs⟩ := Text.exists_blank_skipBlanks cs
  generalize Text.skipBlanks cs = text at h hcs
  cases h with
  | @cons g' _ cs' _ _ hg' h =>
    rw [hcs, ← List.append_assoc]
    apply cons _ h
    intro c hc
    rcases List.mem_append.mp hc with hc | hc
    · exact hg c hc
    · exact hg' c hc

theorem spaced (h : Opens ts cs rest) (hrest : AllBlank rest) : Spaced ts cs := by
  induction h with
  | nil => exact .nil hrest
  | cons hg _ ih => exact .cons hg (ih hrest)

theorem of_spaced (h : Spaced ts cs) : ∃ rest, AllBlank rest ∧ Opens ts cs rest := by
  induction h with
  | nil hg => exact ⟨_, hg, nil _⟩
  | cons hg _ ih =>
    obtain ⟨rest, hrest, h⟩ := ih
    exact ⟨rest, hrest, cons hg h⟩

/-- Where a mark comes first, the text begins with it or with white space. -/
theorem head_mark {c : Char} (h : Opens ([c] :: ts) cs rest) :
    ∀ x ∈ cs.head?, x = c ∨ isBlank x = true := by
  cases h with
  | @cons g _ _ _ _ hg _ =>
    cases g with
    | nil => exact fun x hx => Or.inl (Option.some.inj hx).symm
    | cons b g =>
      intro x hx
      obtain rfl := Option.some.inj hx
      exact Or.inr (hg _ List.mem_cons_self)

end Opens

/-- The same with nothing in front of the first token. -/
inductive Stands : List (List Char) → List Char → List Char → Prop where
  | intro (t : List Char) {cs rest : List Char} {ts : List (List Char)} (h : Opens ts cs rest) :
      Stands (t :: ts) (t ++ cs) rest

/-! ## 3. Readers -/

section

variable {cs rest ds : List Char}

theorem dropMark_eq_some {mark : Char} (hmark : isBlank mark = false) :
    dropMark mark cs = some rest ↔ Opens [[mark]] cs rest := by
  constructor
  · intro h
    apply Opens.of_skipBlanks
    unfold dropMark at h
    split at h
    · exact nomatch h
    · rename_i c rest' hskip
      split at h
      · rename_i hc
        obtain rfl := Option.some.inj h
        rw [hskip, hc]
        exact .cons Text.allBlank_nil (.nil _)
      · exact nomatch h
  · intro h
    cases h with
    | @cons g _ cs' _ _ hg h =>
      cases h with
      | nil =>
        have hskip : Text.skipBlanks (g ++ ([mark] ++ rest)) = mark :: rest := by
          rw [Text.skipBlanks_append hg, Text.skipBlanks_of_head]
          · rfl
          · intro x hx
            exact Option.some.inj hx ▸ hmark
        rw [dropMark, hskip]
        simp

/-- Digits, and at least one of them. -/
structure IsDigits (ds : List Char) : Prop where
  ne_nil : ds ≠ []
  digits : ∀ c ∈ ds, isDigit c = true

theorem IsNumeral.isDigits {n : Nat} (h : IsNumeral ds n) : IsDigits ds :=
  ⟨h.ne_nil, h.digits⟩

theorem natural_eq_ok {n : Nat} (h : IsDigits ds) : natural ds = .ok n ↔ IsNumeral ds n := by
  unfold natural
  split
  · rename_i hlong
    exact iff_of_false nofun fun h => Nat.not_lt.mpr h.short hlong
  · rename_i hshort
    rw [Except.ok.injEq]
    exact ⟨fun hn => ⟨h.ne_nil, h.digits, Nat.le_of_not_lt hshort, hn⟩, fun hn => hn.value⟩

theorem IsDigits.skip (h : IsDigits ds) (rest : List Char) :
    Text.skipBlanks (ds ++ rest) = ds ++ rest := by
  obtain ⟨d, ds', rfl⟩ := List.exists_cons_of_ne_nil h.ne_nil
  apply Text.skipBlanks_of_head
  intro x hx
  exact Option.some.inj hx ▸ Text.isBlank_of_isDigit (h.digits d List.mem_cons_self)

/-- As many digits are taken as there are. -/
theorem readDigits_eq_some : readDigits cs = some (ds, rest) ↔
    IsDigits ds ∧ Opens [ds] cs rest ∧ ∀ c ∈ rest.head?, isDigit c = false := by
  constructor
  · intro h
    have htake : Text.takeDigits (Text.skipBlanks cs) = (ds, rest) ∧ ds ≠ [] := by
      unfold readDigits at h
      split at h
      · exact nomatch h
      · rename_i hne
        have hpair := Option.some.inj h
        refine ⟨hpair, ?_⟩
        rintro rfl
        exact hne rest hpair
    obtain ⟨htake, hne⟩ := htake
    have happend := Text.takeDigits_append (Text.skipBlanks cs)
    have hdigits : ∀ c ∈ (Text.takeDigits (Text.skipBlanks cs)).1, isDigit c = true :=
      fun _ hc => Text.isDigit_of_mem_takeDigits hc
    rw [htake] at happend hdigits
    refine ⟨⟨hne, hdigits⟩, ?_, ?_⟩
    · apply Opens.of_skipBlanks
      rw [← happend]
      exact .cons Text.allBlank_nil (.nil _)
    · intro c hc
      cases rest with
      | nil => exact nomatch hc
      | cons x rest =>
        obtain rfl := Option.some.inj hc
        exact Text.takeDigits_stops (congrArg Prod.snd htake)
  · rintro ⟨hds, h, hrest⟩
    cases h with
    | @cons g _ cs' _ _ hg h =>
      cases h with
      | nil =>
        obtain ⟨htake, hdrop⟩ := Text.takeWhile_run hds.digits hrest
        rw [readDigits, Text.skipBlanks_append hg, hds.skip, Text.takeDigits, htake, hdrop]
        obtain ⟨d, ds', rfl⟩ := List.exists_cons_of_ne_nil hds.ne_nil
        rfl

def indexTokens (ds : List Char) : List (List Char) :=
  [['['], ds, [']']]

theorem readIndex_eq_some :
    readIndex cs = some (ds, rest) ↔ IsDigits ds ∧ Opens (indexTokens ds) cs rest := by
  simp only [readIndex, Option.bind_eq_bind, Option.bind_eq_some_iff]
  constructor
  · rintro ⟨inner, hopen, ⟨ds', rest'⟩, hread, rest'', hclose, hresult⟩
    obtain ⟨rfl, rfl⟩ := Prod.mk.inj (Option.some.inj hresult)
    obtain ⟨hds, hdigits, _⟩ := readDigits_eq_some.mp hread
    have hopen := (dropMark_eq_some (by decide)).mp hopen
    have hclose := (dropMark_eq_some (by decide)).mp hclose
    exact ⟨hds, hopen.append (hdigits.append hclose)⟩
  · rintro ⟨hds, h⟩
    obtain ⟨inner, hopen, h⟩ := h.uncons
    obtain ⟨rest', hdigits, hclose⟩ := h.uncons
    refine ⟨inner, (dropMark_eq_some (by decide)).mpr hopen, (ds, rest'), ?_, rest,
      (dropMark_eq_some (by decide)).mpr hclose, rfl⟩
    refine readDigits_eq_some.mpr ⟨hds, hdigits, ?_⟩
    intro c hc
    rcases hclose.head_mark c hc with rfl | hblank
    · decide
    · exact Text.isDigit_of_isBlank hblank

/-- Characters of names, and at least one of them. -/
structure IsName (cs : List Char) : Prop where
  ne_nil : cs ≠ []
  chars : ∀ c ∈ cs, Name.isNameChar c = true

theorem isName_of_wellFormed {name : String} (h : Name.WellFormed name) : IsName name.toList :=
  ⟨h.ne_nil, h.chars⟩

/-- As much of a name is taken as there is. -/
theorem readName_eq_some {name : List Char} : readName cs = some (name, rest) ↔
    IsName name ∧ cs = name ++ rest ∧ ∀ c ∈ rest.head?, Name.isNameChar c = false := by
  constructor
  · intro h
    unfold readName at h
    split at h
    · exact nomatch h
    · rename_i hne
      obtain ⟨rfl, rfl⟩ := Prod.mk.inj (Option.some.inj h)
      refine ⟨⟨fun hnil => hne hnil, ?_⟩, List.takeWhile_append_dropWhile.symm, ?_⟩
      · intro c hc
        exact List.all_eq_true.mp List.all_takeWhile c hc
      · intro c hc
        have hstop := List.head?_dropWhile_not Name.isNameChar cs
        rw [Option.mem_def.mp hc] at hstop
        simpa using hstop
  · rintro ⟨hname, rfl, hrest⟩
    obtain ⟨htake, hdrop⟩ := Text.takeWhile_run hname.chars hrest
    rw [readName, htake, hdrop]
    obtain ⟨c, name', rfl⟩ := List.exists_cons_of_ne_nil hname.ne_nil
    rfl

end

/-! ### Items of pairs -/

/-- What an item of a pair takes, with a mark for the end of the pair: a token that stands for what
it reads. -/
structure Item {α : Type} (read : List Char → Option (α × List Char)) (closing : Char)
    (Is : α → List Char → Prop) : Prop where
  sound : ∀ {cs rest : List Char} {a : α}, read cs = some (a, rest) → ∃ t, Is a t ∧ Opens [t] cs rest
  reads : ∀ {a : α} {t : List Char}, Is a t → Reads read closing t a

/-- Digits stand for themselves. -/
def Verbatim (ds t : List Char) : Prop :=
  ds = t ∧ IsDigits t

theorem item_readDigits {closing : Char} (hc : isDigit closing = false) :
    Item readDigits closing Verbatim where
  sound := by
    intro cs rest ds h
    obtain ⟨hds, hopens, _⟩ := readDigits_eq_some.mp h
    exact ⟨ds, ⟨rfl, hds⟩, hopens⟩
  reads := by
    rintro ds _ ⟨rfl, hds⟩
    refine ⟨hds.ne_nil, ?_, ?_⟩
    · intro c hc'
      exact Text.isBlank_of_isDigit (hds.digits c (List.mem_of_mem_head? hc'))
    · intro rest hrest
      refine readDigits_eq_some.mpr ⟨hds, .cons Text.allBlank_nil (.nil rest), ?_⟩
      intro x hx
      rcases hrest x hx with rfl | rfl | hblank
      · decide
      · exact hc
      · exact Text.isDigit_of_isBlank hblank

namespace Literal

variable {l : Literal} {cs rest : List Char}

theorem readUnsigned_sound {negative : Bool} (h : readUnsigned negative cs = some (l, rest)) :
    l.negative = negative ∧ (∀ c ∈ l.whole, isDigit c = true) ∧
      (∀ c ∈ l.places.getD [], isDigit c = true) ∧ (l.whole ≠ [] ∨ l.places.getD [] ≠ []) ∧
      cs = l.whole ++ l.pointed ++ rest := by
  have hdigits : ∀ cs, ∀ c ∈ (Text.takeDigits cs).1, isDigit c = true :=
    fun _ _ hc => Text.isDigit_of_mem_takeDigits hc
  have hwhole := hdigits cs
  have happend := Text.takeDigits_append cs
  simp only [readUnsigned] at h
  split at h
  · rename_i whole behind htake
    rw [htake] at hwhole happend
    have happend' := Text.takeDigits_append behind
    split at h
    · cases h
    · rename_i hne
      obtain ⟨rfl, rfl⟩ := Prod.mk.inj (Option.some.inj h)
      refine ⟨rfl, hwhole, hdigits behind, ?_, ?_⟩
      · rw [List.isEmpty_iff, List.isEmpty_iff] at hne
        exact Decidable.not_and_iff_not_or_not.mp hne
      · rw [← happend]
        simp [pointed, happend']
  · rename_i whole behind _ htake
    rw [htake] at hwhole happend
    split at h
    · cases h
    · rename_i hne
      obtain ⟨rfl, rfl⟩ := Prod.mk.inj (Option.some.inj h)
      refine ⟨rfl, hwhole, ?_, Or.inl (by simpa using hne), ?_⟩
      · intro c hc
        exact absurd hc List.not_mem_nil
      · rw [← happend]
        simp [pointed]

theorem readLiteral_sound (h : readLiteral cs = some (l, rest)) :
    ∃ t, l.Spells t ∧ cs = t ++ rest := by
  have hsign : ∃ sign, cs = sign ++ (Text.takeSign cs).2 ∧
      ((Text.takeSign cs).1 = true ∧ sign = ['-'] ∨
        (Text.takeSign cs).1 = false ∧ sign ∈ [[], ['+']]) := by
    unfold Text.takeSign
    split
    · exact ⟨['+'], rfl, Or.inr ⟨rfl, by simp⟩⟩
    · exact ⟨['-'], rfl, Or.inl ⟨rfl, rfl⟩⟩
    · exact ⟨[], rfl, Or.inr ⟨rfl, by simp⟩⟩
  obtain ⟨sign, hcs, hsign⟩ := hsign
  have h : readUnsigned (Text.takeSign cs).1 (Text.takeSign cs).2 = some (l, rest) := h
  obtain ⟨hnegative, hwhole, hplaces, hdigit, htext⟩ := readUnsigned_sound h
  refine ⟨sign ++ (l.whole ++ l.pointed), ⟨hwhole, hplaces, hdigit, sign, ?_, rfl⟩, ?_⟩
  · rw [hnegative]
    exact hsign
  · rw [hcs, htext]
    simp only [List.append_assoc]

end Literal

theorem item_readLiteral {closing : Char} (hc : isDigit closing = false) (hp : closing ≠ '.') :
    Item readLiteral closing Literal.Spells where
  sound := by
    intro cs rest l h
    obtain ⟨t, ht, rfl⟩ := Literal.readLiteral_sound h
    exact ⟨t, ht, .cons Text.allBlank_nil (.nil rest)⟩
  reads h := h.reads hc hp

namespace Item

variable {α : Type} {read : List Char → Option (α × List Char)} {closing : Char}
  {Is : α → List Char → Prop} {a : α} {t u cs rest : List Char} {ts : List (List Char)}

/-- An item is read where its token stands and a comma or the closing mark follows. -/
theorem complete (h : Item read closing Is) (ha : Is a t) (hopens : Opens [t] cs rest)
    {mark : Char} (hmark : mark = ',' ∨ mark = closing) {rest' : List Char}
    (hnext : Opens ([mark] :: ts) rest rest') : read (Text.skipBlanks cs) = some (a, rest) := by
  have hreads := h.reads ha
  cases hopens with
  | @cons g _ _ _ _ hg hnil =>
    cases hnil with
    | nil =>
      have hskip : Text.skipBlanks (t ++ rest) = t ++ rest := by
        apply Text.skipBlanks_of_head
        obtain ⟨c, t', rfl⟩ := List.exists_cons_of_ne_nil hreads.ne_nil
        exact hreads.head
      rw [Text.skipBlanks_append hg, hskip]
      apply hreads.read
      intro c hc
      rcases hnext.head_mark c hc with rfl | hblank
      · rcases hmark with rfl | rfl
        · exact Or.inl rfl
        · exact Or.inr (Or.inl rfl)
      · exact Or.inr (Or.inr hblank)

end Item

/-! ## 4. Scanners -/

/-- The cell at the beginning of a text, with what is behind it. -/
def scanCell (cs : List Char) : Option (CellText × List Char) := do
  let (name, rest) ← readName cs
  let (row, rest) ← readIndex rest
  let (col, rest) ← readIndex rest
  pure (⟨name, row, col⟩, rest)

/-- The pair at the beginning of a text, with what is behind it. -/
def scanPair {α : Type} (opening closing : Char) (item : List Char → Option (α × List Char)) :
    List Char → Option ((α × α) × List Char)
  | [] => none
  | c :: inner =>
    if c = opening then do
      let (a, rest) ← item (Text.skipBlanks inner)
      let rest ← dropMark ',' rest
      let (b, rest) ← item (Text.skipBlanks rest)
      let rest ← dropMark closing rest
      pure ((a, b), rest)
    else none

theorem readCell_eq (cs : List Char) : readCell cs = (scanCell cs).map Prod.fst := by
  simp only [readCell, scanCell, bind, pure, Option.map_bind, Function.comp_def, Option.map_some]

theorem readPair_eq {α : Type} (opening closing : Char)
    (item : List Char → Option (α × List Char)) (cs : List Char) :
    readPair opening closing item cs = (scanPair opening closing item cs).map Prod.fst := by
  cases cs with
  | nil => rfl
  | cons c inner =>
    by_cases hc : c = opening
    · simp only [readPair, scanPair, hc, if_true, bind, pure, Option.bind_some, Option.map_bind,
        Function.comp_def, Option.map_some]
    · simp [readPair, scanPair, hc]

/-- The tokens of a cell as it is spelled. -/
def CellText.Tokens (c : CellText) (ts : List (List Char)) : Prop :=
  IsName c.name ∧ IsDigits c.row ∧ IsDigits c.col ∧ ts = cellTokens c.name c.row c.col

/-- The tokens of a pair, each of its items spelled by one. -/
def PairTokens {α : Type} (opening closing : Char) (Is : α → List Char → Prop) (p : α × α)
    (ts : List (List Char)) : Prop :=
  ∃ s t, Is p.1 s ∧ Is p.2 t ∧ ts = pairTokens opening closing s t

/-- What a scanner takes: the tokens of what it reads, where they stand at the beginning of the
text. The first of them begins with no white space. -/
structure Scans {α : Type} (scan : List Char → Option (α × List Char))
    (Is : α → List (List Char) → Prop) : Prop where
  eq_some : ∀ {cs rest : List Char} {a : α},
    scan cs = some (a, rest) ↔ ∃ ts, Is a ts ∧ Stands ts cs rest
  head : ∀ {a : α} {ts : List (List Char)}, Is a ts →
    ∃ c t ts', ts = (c :: t) :: ts' ∧ isBlank c = false

theorem scans_cell : Scans scanCell CellText.Tokens where
  eq_some := by
    intro cs rest c
    simp only [scanCell, Option.bind_eq_bind, Option.bind_eq_some_iff]
    constructor
    · rintro ⟨⟨name, rest₁⟩, hname, ⟨row, rest₂⟩, hrow, ⟨col, rest₃⟩, hcol, hresult⟩
      obtain ⟨rfl, rfl⟩ := Prod.mk.inj (Option.some.inj hresult)
      obtain ⟨hisName, rfl, _⟩ := readName_eq_some.mp hname
      obtain ⟨hrowDigits, hopens⟩ := readIndex_eq_some.mp hrow
      obtain ⟨hcolDigits, hopens'⟩ := readIndex_eq_some.mp hcol
      exact ⟨_, ⟨hisName, hrowDigits, hcolDigits, rfl⟩, .intro name (hopens.append hopens')⟩
    · rintro ⟨_, ⟨hname, hrow, hcol, rfl⟩, hstands⟩
      cases hstands with
      | @intro _ tail _ _ hopens =>
        have hstop : ∀ x ∈ tail.head?, Name.isNameChar x = false := by
          intro x hx
          rcases hopens.head_mark x hx with rfl | hblank
          · decide
          · exact Text.isNameChar_of_isBlank hblank
        have hopens : Opens (indexTokens c.row ++ indexTokens c.col) tail rest := hopens
        obtain ⟨rest₂, hfirst, hsecond⟩ := hopens.split
        exact ⟨(c.name, tail), readName_eq_some.mpr ⟨hname, rfl, hstop⟩,
          (c.row, rest₂), readIndex_eq_some.mpr ⟨hrow, hfirst⟩,
          (c.col, rest), readIndex_eq_some.mpr ⟨hcol, hsecond⟩, rfl⟩
  head := by
    rintro ⟨name, row, col⟩ _ ⟨hname, _, _, rfl⟩
    obtain ⟨c, name', hcons⟩ := List.exists_cons_of_ne_nil hname.ne_nil
    obtain rfl : name = c :: name' := hcons
    exact ⟨c, name', _, rfl, Text.isBlank_of_isNameChar (hname.chars c List.mem_cons_self)⟩

section

variable {α : Type} {item : List Char → Option (α × List Char)} {opening closing : Char}
  {Is : α → List Char → Prop} {p : α × α} {ts : List (List Char)} {cs rest : List Char}

theorem scanPair_sound (hitem : Item item closing Is) (hc : isBlank closing = false)
    (h : scanPair opening closing item cs = some (p, rest)) :
    ∃ ts, PairTokens opening closing Is p ts ∧ Stands ts cs rest := by
  cases cs with
  | nil => exact nomatch h
  | cons c inner =>
    rw [scanPair] at h
    split at h
    · rename_i hopening
      simp only [Option.bind_eq_bind, Option.bind_eq_some_iff] at h
      obtain ⟨⟨a, rest₁⟩, ha, rest₂, hcomma, ⟨b, rest₃⟩, hb, rest₄, hclosing, hresult⟩ := h
      obtain ⟨rfl, rfl⟩ := Prod.mk.inj (Option.some.inj hresult)
      obtain ⟨s, hs, hopens⟩ := hitem.sound ha
      obtain ⟨t, ht, hopens'⟩ := hitem.sound hb
      have hcomma := (dropMark_eq_some (by decide)).mp hcomma
      have hclosing := (dropMark_eq_some hc).mp hclosing
      have htail := hopens.of_skipBlanks.append
        (hcomma.append (hopens'.of_skipBlanks.append hclosing))
      rw [hopening]
      exact ⟨_, ⟨s, t, hs, ht, rfl⟩, .intro [opening] htail⟩
    · exact nomatch h

theorem scanPair_complete (hitem : Item item closing Is) (hc : isBlank closing = false)
    (hts : PairTokens opening closing Is p ts) (hstands : Stands ts cs rest) :
    scanPair opening closing item cs = some (p, rest) := by
  obtain ⟨s, t, hs, ht, rfl⟩ := hts
  cases hstands with
  | @intro _ inner _ _ hopens =>
    obtain ⟨rest₁, hfirst, hopens⟩ := hopens.uncons
    obtain ⟨rest₂, hcomma, hopens'⟩ := hopens.uncons
    obtain ⟨rest₃, hsecond, hclosing⟩ := hopens'.uncons
    have ha := hitem.complete hs hfirst (Or.inl rfl) hopens
    have hb := hitem.complete ht hsecond (Or.inr rfl) hclosing
    have hcomma := (dropMark_eq_some (by decide)).mpr hcomma
    have hclosing := (dropMark_eq_some hc).mpr hclosing
    simp [scanPair, ha, hb, hcomma, hclosing]

theorem scans_pair (hitem : Item item closing Is) (ho : isBlank opening = false)
    (hc : isBlank closing = false) :
    Scans (scanPair opening closing item) (PairTokens opening closing Is) where
  eq_some := by
    intro cs rest p
    constructor
    · exact scanPair_sound hitem hc
    · rintro ⟨_, hts, hstands⟩
      exact scanPair_complete hitem hc hts hstands
  head := by
    rintro p _ ⟨s, t, _, _, rfl⟩
    exact ⟨opening, [], _, rfl, ho⟩

end

/-! ## 5. Where anything is found -/

/-- `a` is the first thing of its kind that stands in a text, and this is what stands in front of it
and behind its tokens. -/
structure FirstIn {α : Type} (Is : α → List (List Char) → Prop) (a : α)
    (text front behind : List Char) : Prop where
  stands : ∃ ts cs, Is a ts ∧ Stands ts cs behind ∧ text = front ++ cs
  first : ∀ {b : α} {ts : List (List Char)} {front' cs behind' : List Char}, Is b ts →
    Stands ts cs behind' → text = front' ++ cs → front.length ≤ front'.length

section

variable {α : Type} {scan : List Char → Option (α × List Char)}
  {Is : α → List (List Char) → Prop} {a b : α} {text front behind front' behind' : List Char}
  {ts : List (List Char)}

theorem Scans.find_eq_some (h : Scans scan Is) {read : List Char → Option α}
    (hread : ∀ cs, read cs = (scan cs).map Prod.fst) :
    Text.findFirst read text = some a ↔ ∃ front behind, FirstIn Is a text front behind := by
  have hsome : ∀ {cs b}, read cs = some b ↔ ∃ ts behind, Is b ts ∧ Stands ts cs behind := by
    intro cs b
    rw [hread, Option.map_eq_some_iff]
    constructor
    · rintro ⟨⟨b', behind⟩, hscan, rfl⟩
      obtain ⟨ts, hts, hstands⟩ := h.eq_some.mp hscan
      exact ⟨ts, behind, hts, hstands⟩
    · rintro ⟨ts, behind, hts, hstands⟩
      exact ⟨(b, behind), h.eq_some.mpr ⟨ts, hts, hstands⟩, rfl⟩
  rw [Text.findFirst_eq_some]
  constructor
  · rintro ⟨front, cs, hsplit, hfound, hfirst⟩
    obtain ⟨ts, behind, hts, hstands⟩ := hsome.mp hfound
    refine ⟨front, behind, ⟨ts, cs, hts, hstands, hsplit⟩, ?_⟩
    intro b us front' cs' behind' hus hstands' hsplit'
    exact hfirst front' cs' b hsplit' (hsome.mpr ⟨us, behind', hus, hstands'⟩)
  · rintro ⟨front, behind, ⟨ts, cs, hts, hstands, hsplit⟩, hfirst⟩
    refine ⟨front, cs, hsplit, hsome.mpr ⟨ts, behind, hts, hstands⟩, ?_⟩
    intro front' cs' b hsplit' hb
    obtain ⟨us, behind', hus, hstands'⟩ := hsome.mp hb
    exact hfirst hus hstands' hsplit'

/-- There is something in a text in which anything stands. -/
theorem FirstIn.ne_nil (h : Scans scan Is) (ha : FirstIn Is a text front behind) : text ≠ [] := by
  obtain ⟨ts, cs, hts, hstands, rfl⟩ := ha.stands
  obtain ⟨c, t, ts', rfl, _⟩ := h.head hts
  cases hstands with
  | intro _ _ => simp

/-- There is but one first place, and one thing to read there. -/
theorem FirstIn.unique (h : Scans scan Is) (ha : FirstIn Is a text front behind)
    (hb : FirstIn Is b text front' behind') : a = b ∧ front = front' ∧ behind = behind' := by
  obtain ⟨ts, cs, hts, hstands, hsplit⟩ := ha.stands
  obtain ⟨us, cs', hus, hstands', hsplit'⟩ := hb.stands
  have hlength : front.length = front'.length :=
    Nat.le_antisymm (ha.first hus hstands' hsplit') (hb.first hts hstands hsplit)
  obtain ⟨rfl, rfl⟩ := List.append_inj (hsplit.symm.trans hsplit') hlength
  have hscan := h.eq_some.mpr ⟨ts, hts, hstands⟩
  have hscan' := h.eq_some.mpr ⟨us, hus, hstands'⟩
  obtain ⟨rfl, rfl⟩ := Prod.mk.inj (Option.some.inj (hscan.symm.trans hscan'))
  exact ⟨rfl, rfl, rfl⟩

/-- Where a text is the tokens of something, with white space between them, that is found, with
nothing but white space around it. -/
theorem Scans.firstIn_of_spaced (h : Scans scan Is) (ha : Is a ts) (hspaced : Spaced ts text) :
    ∃ front behind, FirstIn Is a text front behind ∧ AllBlank front ∧ AllBlank behind := by
  obtain ⟨c, t, ts', rfl, _⟩ := h.head ha
  cases hspaced with
  | @cons g _ cs _ hg hspaced =>
    obtain ⟨rest, hrest, hopens⟩ := Opens.of_spaced hspaced
    refine ⟨g, rest, ⟨⟨_, _, ha, .intro (c :: t) hopens, rfl⟩, ?_⟩, hg, hrest⟩
    intro b us front' text' behind' hus hstands hsplit
    obtain ⟨c', t', us', rfl, hc'⟩ := h.head hus
    cases hstands with
    | @intro _ tail _ _ _ =>
      -- a place further to the front would begin in the white space
      rcases Nat.lt_or_ge front'.length g.length with hlt | hge
      · have hchar : (g ++ (c :: t ++ cs))[front'.length]? = some c' := by
          rw [hsplit]
          simp
        rw [List.getElem?_append_left hlt] at hchar
        have hblank := hg c' (List.mem_of_getElem? hchar)
        exact nomatch hblank.symm.trans hc'
      · exact hge

/-- In a text that is the tokens of anything, nothing but white space is around what is found. -/
theorem FirstIn.blank (h : Scans scan Is) (ha : FirstIn Is a text front behind) (hb : Is b ts)
    (hspaced : Spaced ts text) : AllBlank front ∧ AllBlank behind := by
  obtain ⟨front', behind', hfirst, hblank, hblank'⟩ := h.firstIn_of_spaced hb hspaced
  obtain ⟨_, rfl, rfl⟩ := ha.unique h hfirst
  exact ⟨hblank, hblank'⟩

/-- With nothing but white space around it, the text is its tokens. -/
theorem FirstIn.spaced (ha : FirstIn Is a text front behind) (hfront : AllBlank front)
    (hbehind : AllBlank behind) : ∃ ts, Is a ts ∧ Spaced ts text := by
  obtain ⟨ts, cs, hts, hstands, rfl⟩ := ha.stands
  refine ⟨ts, hts, ?_⟩
  cases hstands with
  | intro t hopens => exact .cons hfront (hopens.spaced hbehind)

end

/-! ## 6. Cells, sizes and positions -/

/-- The tokens of a size, and those of a position. -/
def SizeTokens : List Char × List Char → List (List Char) → Prop :=
  PairTokens '[' ']' Verbatim

def PositionTokens : Literal × Literal → List (List Char) → Prop :=
  PairTokens '(' ')' Literal.Spells

theorem sizeTokens {rs cs : List Char} (hrs : IsDigits rs) (hcs : IsDigits cs) :
    SizeTokens (rs, cs) (pairTokens '[' ']' rs cs) :=
  ⟨rs, cs, ⟨rfl, hrs⟩, ⟨rfl, hcs⟩, rfl⟩

theorem positionTokens {x y : Literal} {xs ys : List Char} (hx : x.Spells xs) (hy : y.Spells ys) :
    PositionTokens (x, y) (pairTokens '(' ')' xs ys) :=
  ⟨xs, ys, hx, hy, rfl⟩

theorem scans_size : Scans (scanPair '[' ']' readDigits) SizeTokens :=
  scans_pair (item_readDigits (by decide)) (by decide) (by decide)

theorem scans_position : Scans (scanPair '(' ')' readLiteral) PositionTokens :=
  scans_pair (item_readLiteral (by decide) (by decide)) (by decide) (by decide)

variable {part : List Char}

theorem findFirst_cell {c : CellText} : Text.findFirst readCell part = some c ↔
    ∃ front behind, FirstIn CellText.Tokens c part front behind :=
  scans_cell.find_eq_some readCell_eq

theorem findFirst_size {p : List Char × List Char} :
    Text.findFirst (readPair '[' ']' readDigits) part = some p ↔
      ∃ front behind, FirstIn SizeTokens p part front behind :=
  scans_size.find_eq_some (readPair_eq _ _ _)

theorem findFirst_position {p : Literal × Literal} :
    Text.findFirst (readPair '(' ')' readLiteral) part = some p ↔
      ∃ front behind, FirstIn PositionTokens p part front behind :=
  scans_position.find_eq_some (readPair_eq _ _ _)

/-- A cell is read off a part of a line where the first cell in it has indices that are not too
long. -/
theorem cell_eq_ok {role : String} {r : CellRef} : cell part role = .ok r ↔
    ∃ c front behind i j, FirstIn CellText.Tokens c part front behind ∧
      IsNumeral c.row i ∧ IsNumeral c.col j ∧ r = .ofText (String.ofList c.name) i j := by
  unfold cell
  constructor
  · intro h
    split at h
    · exact nomatch h
    · rename_i c hfind
      obtain ⟨front, behind, hfirst⟩ := findFirst_cell.mp hfind
      obtain ⟨_, _, ⟨_, hrow, hcol, _⟩, _⟩ := hfirst.stands
      simp only [bind_eq_ok, pure_eq_ok] at h
      obtain ⟨i, hi, j, hj, rfl⟩ := h
      exact ⟨c, front, behind, i, j, hfirst, (natural_eq_ok hrow).mp hi,
        (natural_eq_ok hcol).mp hj, rfl⟩
  · rintro ⟨c, front, behind, i, j, hfirst, hi, hj, rfl⟩
    have hfind := findFirst_cell.mpr ⟨front, behind, hfirst⟩
    simp [hfind, hi.natural, hj.natural, bind, Except.bind, pure, Except.pure]

/-- A size is read in the same way. -/
theorem size_eq_ok {rows cols : Nat} : size part = .ok (rows, cols) ↔
    ∃ rs cs front behind, FirstIn SizeTokens (rs, cs) part front behind ∧
      IsNumeral rs rows ∧ IsNumeral cs cols := by
  unfold size
  constructor
  · intro h
    split at h
    · exact nomatch h
    · rename_i rs cs hfind
      obtain ⟨front, behind, hfirst⟩ := findFirst_size.mp hfind
      obtain ⟨_, _, ⟨_, _, ⟨rfl, hrs⟩, ⟨rfl, hcs⟩, _⟩, _⟩ := hfirst.stands
      simp only [bind_eq_ok, pure_eq_ok] at h
      obtain ⟨i, hi, j, hj, hsize⟩ := h
      obtain ⟨rfl, rfl⟩ := Prod.mk.inj hsize
      exact ⟨rs, cs, front, behind, hfirst, (natural_eq_ok hrs).mp hi, (natural_eq_ok hcs).mp hj⟩
  · rintro ⟨rs, cs, front, behind, hfirst, hrows, hcols⟩
    have hfind := findFirst_size.mpr ⟨front, behind, hfirst⟩
    simp [hfind, hrows.natural, hcols.natural, bind, Except.bind, pure, Except.pure]

/-- Of a position the numbers may be of any length. -/
theorem position_eq_ok {p : Point Float} : position part = .ok p ↔
    ∃ x y front behind, FirstIn PositionTokens (x, y) part front behind ∧
      p = ⟨x.toFloat, y.toFloat⟩ := by
  unfold position
  constructor
  · intro h
    split at h
    · exact nomatch h
    · rename_i x y hfind
      obtain ⟨front, behind, hfirst⟩ := findFirst_position.mp hfind
      exact ⟨x, y, front, behind, hfirst, (Except.ok.inj h).symm⟩
  · rintro ⟨x, y, front, behind, hfirst, rfl⟩
    rw [findFirst_position.mpr ⟨front, behind, hfirst⟩]

/-! ### Parts that are nothing but tokens -/

theorem cell_spaced {name : String} {row col : List Char} {i j : Nat}
    (h : Spaced (cellTokens name.toList row col) part) (hname : IsName name.toList)
    (hrow : IsNumeral row i) (hcol : IsNumeral col j) (role : String) :
    cell part role = .ok (.ofText name i j) := by
  have htokens : CellText.Tokens ⟨name.toList, row, col⟩ (cellTokens name.toList row col) :=
    ⟨hname, hrow.isDigits, hcol.isDigits, rfl⟩
  obtain ⟨front, behind, hfirst, _⟩ := scans_cell.firstIn_of_spaced htokens h
  exact cell_eq_ok.mpr ⟨_, front, behind, i, j, hfirst, hrow, hcol, by rw [String.ofList_toList]⟩

theorem size_spaced {rs cs : List Char} {rows cols : Nat} (h : Spaced (pairTokens '[' ']' rs cs) part)
    (hrows : IsNumeral rs rows) (hcols : IsNumeral cs cols) : size part = .ok (rows, cols) := by
  obtain ⟨front, behind, hfirst, _⟩ :=
    scans_size.firstIn_of_spaced (sizeTokens hrows.isDigits hcols.isDigits) h
  exact size_eq_ok.mpr ⟨rs, cs, front, behind, hfirst, hrows, hcols⟩

theorem position_spaced {xs ys : List Char} {x y : Literal}
    (h : Spaced (pairTokens '(' ')' xs ys) part) (hx : x.Spells xs) (hy : y.Spells ys) :
    position part = .ok ⟨x.toFloat, y.toFloat⟩ := by
  obtain ⟨front, behind, hfirst, _⟩ := scans_position.firstIn_of_spaced (positionTokens hx hy) h
  exact position_eq_ok.mpr ⟨x, y, front, behind, hfirst, rfl⟩

end Command

end GridSketch
