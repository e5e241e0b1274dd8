import GridSketch.Scene.Drawing

/-!
# What it takes for an operation on a drawing to succeed

The operations of a drawing are chains of checks, any of which may refuse. Here each of them is
inverted once: where it answers, which checks have passed and what the answer is. Whoever works
with a successful operation cites its lemma (`matrix_eq_ok`, `requireCell_eq_ok`, `rename_eq_some`,
…) and does not open the chain again; `bind_eq_ok` is the one step by which a chain is peeled.

The second half is about names. A value that a text is the same as is that text (`eq_str_of_beq`),
so in a drawing whose names are texts a matrix is found by nothing but its name, whatever it was
asked for by. And a name that was typed and let through is spelled with the characters of names
alone (`validate_trim`): the line feed that `Name.validate` lets pass at the end was trimmed before.
-/

set_option autoImplicit false

namespace GridSketch

/-! ## 1. Peeling a chain -/

theorem bind_eq_ok {ε α β : Type} {x : Except ε α} {f : α → Except ε β} {b : β} :
    (x >>= f) = .ok b ↔ ∃ a, x = .ok a ∧ f a = .ok b := by
  cases x with
  | error e => exact ⟨nofun, fun ⟨_, h, _⟩ => nomatch h⟩
  | ok a => exact ⟨fun h => ⟨a, rfl, h⟩, fun ⟨_, h, hf⟩ => Except.ok.inj h ▸ hf⟩

theorem pure_eq_ok {α : Type} {a b : α} : (pure a : Except Fault α) = .ok b ↔ a = b :=
  ⟨Except.ok.inj, congrArg _⟩

theorem throw_ne_ok {ε α : Type} {f : ε} {a : α} : (throw f : Except ε α) ≠ .ok a :=
  nofun

theorem mapError_eq_ok {ε α : Type} {g : ε → Fault} {x : Except ε α} {a : α} :
    x.mapError g = .ok a ↔ x = .ok a := by
  cases x with
  | error e => exact ⟨nofun, nofun⟩
  | ok a' =>
    exact ⟨fun h => congrArg _ (Except.ok.inj h), fun h => congrArg _ (Except.ok.inj h)⟩

/-! ## 2. Names as values -/

/-- What a text is the same as is that text. -/
theorem Json.eq_str_of_beq {j : Json} {s : String} (h : j == .str s) : j = .str s := by
  rw [Json.beq_iff] at h
  cases j with
  | str t =>
    simp only [Json.marksOf, List.cons.injEq, Json.Mark.text.injEq, and_true] at h
    rw [h]
  | null | bool | num | arr | obj => simp [Json.marksOf] at h

/-- What is found under a text is stored under it. -/
theorem Roster.mem_of_find?_str {α : Type} {r : Roster Json α} {name : String} {a : α}
    (h : r.find? (.str name) = some a) : (.str name, a) ∈ r.entries := by
  obtain ⟨key, hmem, hkey⟩ := Keyed.mem_of_find? h
  obtain rfl := Json.eq_str_of_beq hkey
  exact hmem

/-- A well-formed name: characters of names, at least one, and no reserved word. -/
structure Name.WellFormed (name : String) : Prop where
  ne_nil : name.toList ≠ []
  chars : ∀ c ∈ name.toList, Name.isNameChar c
  free : name ∉ Name.reserved

/-- What is let through after trimming is the trimmed text, and well-formed. -/
theorem Name.validate_trim {cs : List Char} {name : String}
    (h : Name.validate (.str (String.ofList (Text.trim cs))) = .ok name) :
    name = String.ofList (Text.trim cs) ∧ Name.WellFormed name := by
  -- a line feed is white space, and so it is not the last character of a trimmed text
  have hbody : Name.body (Text.trim cs) = Text.trim cs := by
    rw [Name.body, if_neg]
    intro hl
    have hb := Text.getLast?_dropEnd hl
    exact absurd hb (by decide)
  simp only [Name.validate, bind_eq_ok, Name.checkReserved_str, Json.asSubject_str] at h
  obtain ⟨_, hfree, _, ⟨rfl⟩, hspelled⟩ := h
  split at hspelled
  · rename_i hw
    obtain rfl := Except.ok.inj hspelled
    simp only [Name.wellSpelled, String.toList_ofList, hbody, Bool.and_eq_true,
      Bool.not_eq_eq_eq_not, Bool.not_true, List.isEmpty_eq_false_iff, List.all_eq_true] at hw
    refine ⟨rfl, ⟨by simpa using hw.1, by simpa using hw.2, ?_⟩⟩
    intro hm
    rw [if_pos hm] at hfree
    exact nomatch hfree
  · exact absurd hspelled throw_ne_ok

/-- What is let through from a form is well-formed. -/
theorem Name.clean_wellFormed {field : Json} {name : String} (h : Name.clean field = .ok name) :
    Name.WellFormed name := by
  simp only [Name.clean, bind_eq_ok] at h
  obtain ⟨s, _, hs⟩ := h
  split at hs
  · exact absurd hs throw_ne_ok
  · exact (Name.validate_trim hs).2

/-- The names in the first drawing. -/
theorem Name.wellFormed_initial : WellFormed "A" ∧ WellFormed "B" := by
  constructor <;> exact ⟨by simp, by simp [isNameChar], by simp [reserved]⟩

theorem Name.WellFormed.checkReserved {name : String} (h : Name.WellFormed name) :
    Name.checkReserved (.str name) = .ok () := by
  rw [Name.checkReserved_str, if_neg h.free]

theorem Name.WellFormed.validate {name : String} (h : Name.WellFormed name) :
    Name.validate (.str name) = .ok name := by
  have hbody : Name.body name.toList = name.toList := by
    rw [Name.body, if_neg]
    intro hl
    exact absurd (h.chars _ (List.mem_of_getLast? hl)) (by decide)
  have hspelled : Name.wellSpelled name = true := by
    simp only [Name.wellSpelled, hbody, Bool.and_eq_true, Bool.not_eq_eq_eq_not, Bool.not_true,
      List.isEmpty_eq_false_iff, List.all_eq_true]
    exact ⟨h.ne_nil, h.chars⟩
  simp [Name.validate, h.checkReserved, hspelled, bind, Except.bind, pure, Except.pure]

/-! ## 3. Operations on drawings -/

namespace Drawing

variable {d d' : Drawing}

theorem matrix_eq_ok {name : Json} {m : Matrix} (h : d.matrix name = .ok m) :
    d.matrices.find? name = some m := by
  simp only [matrix, find?, bind_eq_ok, pure_eq_ok] at h
  obtain ⟨_, ⟨_, _, rfl⟩, hm⟩ := h
  split at hm
  · rename_i m' hf
    rw [hf, Except.ok.inj hm]
  · exact absurd hm throw_ne_ok

theorem matrix_of_find? {name : Json} {m : Matrix} (hkey : name.checkKey = .ok ())
    (hm : d.matrices.find? name = some m) : d.matrix name = .ok m := by
  simp [matrix, find?, hkey, hm, bind, Except.bind, pure, Except.pure]

theorem matrix_of_find?_none {name : Json} (hkey : name.checkKey = .ok ())
    (hm : d.matrices.find? name = none) :
    d.matrix name = .error (.showing [name] (.unknownMatrix name.shown)) := by
  simp [matrix, find?, hkey, hm, bind, Except.bind, pure, Except.pure, throw, throwThe,
    MonadExceptOf.throw]

/-- A cell that is there. -/
def HasCell (d : Drawing) (r : CellRef) : Prop :=
  ∃ m, d.matrices.find? r.matrix = some m ∧ m.contains r.row r.col = .ok true

theorem requireCell_eq_ok {r : CellRef} {role : String} {m : Matrix}
    (h : d.requireCell r role = .ok m) :
    d.matrices.find? r.matrix = some m ∧ m.contains r.row r.col = .ok true := by
  simp only [requireCell, bind_eq_ok] at h
  obtain ⟨m', hm', b, hb, hr⟩ := h
  cases b with
  | false => exact absurd hr throw_ne_ok
  | true =>
    obtain rfl := Except.ok.inj hr
    exact ⟨matrix_eq_ok hm', hb⟩

theorem requireCell_of_find? {r : CellRef} {m : Matrix} (hkey : r.matrix.checkKey = .ok ())
    (hm : d.matrices.find? r.matrix = some m) (hcell : m.contains r.row r.col = .ok true)
    (role : String) : d.requireCell r role = .ok m := by
  simp [requireCell, matrix_of_find? hkey hm, hcell, bind, Except.bind, pure, Except.pure]

theorem hasCell_of_requireCell {r : CellRef} {role : String} {m : Matrix}
    (h : d.requireCell r role = .ok m) : d.HasCell r :=
  ⟨m, requireCell_eq_ok h⟩

theorem has_of_find? {name : Json} {m : Matrix} (h : d.matrices.find? name = some m) :
    d.matrices.has name := by
  rw [Roster.has, h]
  rfl

theorem HasCell.has {r : CellRef} (h : d.HasCell r) : d.matrices.has r.matrix :=
  h.elim fun _ hm => has_of_find? hm.1

theorem putMatrix_eq_ok {name : Json} {m : Matrix} (h : d.putMatrix name m = .ok d') :
    d' = { d with matrices := d.matrices.put name m } := by
  simp only [putMatrix, bind_eq_ok, pure_eq_ok] at h
  obtain ⟨_, _, rfl⟩ := h
  rfl

theorem rename_eq_some {old new : Json} (h : d.rename old new = .ok (some d')) :
    ∃ m, d.matrices.find? old = some m ∧ old.equals new = false ∧
      d' =
        { matrices := (d.others old).put new m
          arrows := d.arrows.map (Arrow.renamed old new)
          tints := d.tints.map (Tint.renamed old new) } := by
  simp only [rename, bind_eq_ok] at h
  obtain ⟨m, hm, _, _, hr⟩ := h
  split at hr
  · exact nomatch hr
  · rename_i he
    simp only [pure_eq_ok, Option.some.injEq] at hr
    exact ⟨m, matrix_eq_ok hm, by simpa using he, hr.symm⟩

/-- Nothing changes where the matrix has that name already. -/
theorem rename_eq_none {old new : Json} (h : d.rename old new = .ok none) :
    old.equals new = true := by
  simp only [rename, bind_eq_ok] at h
  obtain ⟨_, _, _, _, hr⟩ := h
  split at hr
  · assumption
  · exact nomatch hr

theorem delete_eq_ok {name : Json} {found : Option Drawing} (h : d.delete name = .ok found) :
    found = if d.matrices.has name then
      some
        { matrices := d.others name
          arrows := d.arrows.filter fun a => !a.touches name
          tints := d.tints.filter fun t => !t.cell.matrix.equals name }
      else none := by
  simp only [delete, bind_eq_ok] at h
  obtain ⟨_, _, hr⟩ := h
  split at hr
  · rename_i hh
    rw [if_pos hh]
    exact (pure_eq_ok.mp hr).symm
  · rename_i hh
    rw [if_neg hh]
    exact (pure_eq_ok.mp hr).symm

theorem delete_eq_some {name : Json} (h : d.delete name = .ok (some d')) :
    d.matrices.has name ∧
      d' =
        { matrices := d.others name
          arrows := d.arrows.filter fun a => !a.touches name
          tints := d.tints.filter fun t => !t.cell.matrix.equals name } := by
  have hfound := delete_eq_ok h
  split at hfound
  · rename_i hh
    exact ⟨hh, Option.some.inj hfound⟩
  · exact nomatch hfound

theorem checkIndex_eq_ok {α : Type} {items : List α} {use : Indexing} {index : Json}
    {what : String} {i : Nat} (h : checkIndex items use index what = .ok i) :
    index.indexBelow use items.length = .ok (some i) := by
  simp only [checkIndex, bind_eq_ok] at h
  obtain ⟨found, hfound, h⟩ := h
  cases found with
  | none => exact absurd h throw_ne_ok
  | some k => exact pure_eq_ok.mp h ▸ hfound

theorem updateArrow_eq_ok {index : Json} {a : Arrow} (h : d.updateArrow index a = .ok d') :
    ∃ i, index.indexBelow .replace d.arrows.length = .ok (some i) ∧
      d' = { d with arrows := d.arrows.set i a } := by
  simp only [updateArrow, bind_eq_ok, pure_eq_ok] at h
  obtain ⟨i, hi, rfl⟩ := h
  exact ⟨i, checkIndex_eq_ok hi, rfl⟩

theorem deleteArrow_eq_ok {index : Json} (h : d.deleteArrow index = .ok d') :
    ∃ i, d' = { d with arrows := d.arrows.eraseIdx i } := by
  simp only [deleteArrow, bind_eq_ok, pure_eq_ok] at h
  obtain ⟨i, _, rfl⟩ := h
  exact ⟨i, rfl⟩

theorem updateTint_eq_ok {index : Json} {t : Tint} (h : d.updateTint index t = .ok d') :
    (∃ i : Nat, index.whole? = some i ∧ i < d.tints.length ∧ d' =
      { d with
        tints := tintsElsewhere t.cell (d.tints.take i) ++
          t :: tintsElsewhere t.cell (d.tints.drop (i + 1)) }) ∨
      (index.whole? = none ∧ d' = { d with tints := tintsElsewhere t.cell d.tints }) := by
  simp only [updateTint, bind_eq_ok] at h
  obtain ⟨b, hb, hr⟩ := h
  cases b with
  | false => exact absurd hr throw_ne_ok
  | true =>
    simp only [if_true] at hr
    split at hr
    · rename_i k hk
      rw [Json.isBelow_of_whole hk] at hb
      simp only [Except.ok.injEq, Bool.and_eq_true, decide_eq_true_eq] at hb
      obtain ⟨i, rfl⟩ := Int.eq_ofNat_of_zero_le hb.1
      exact Or.inl ⟨i, hk, Int.ofNat_lt.mp hb.2, (pure_eq_ok.mp hr).symm⟩
    · rename_i hk
      exact Or.inr ⟨hk, (pure_eq_ok.mp hr).symm⟩

theorem deleteTint_eq_ok {index : Json} (h : d.deleteTint index = .ok d') :
    ∃ i, d' = { d with tints := d.tints.eraseIdx i } := by
  simp only [deleteTint, bind_eq_ok, pure_eq_ok] at h
  obtain ⟨i, _, rfl⟩ := h
  exact ⟨i, rfl⟩

theorem clearTint_eq_some {r : CellRef} (h : d.clearTint r = some d') :
    ∃ i, d' = { d with tints := d.tints.eraseIdx i } := by
  obtain ⟨i, _, rfl⟩ := Option.map_eq_some_iff.mp h
  exact ⟨i, rfl⟩

end Drawing

end GridSketch
