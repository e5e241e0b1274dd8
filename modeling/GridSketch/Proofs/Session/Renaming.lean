import GridSketch.Proofs.Session.Tints

/-!
# When renaming is relabelling

Giving a matrix another name should change what it is called and nothing else (`Scene.Relabels`):
the scene has as many matrices, arrows and tints as before, the matrix is under its new name what it
was under the old, the other matrices are under theirs what they were, and references that spoke of
two cells do not speak of one now. References are the ends of the arrows, the cells of the tints and
the cell under the pointer.

It is, unless the new name is in use. If a matrix has it, that one is replaced. And a name may be
spoken of without a matrix that has it; then two references to cells in one row and column can come
together (`Scene.Collides`). These two are the only ways in which a renaming is no relabelling
(`relabels_rename_iff`). The first is there in the first drawing already (`not_relabels_initial`).
-/

set_option autoImplicit false

namespace GridSketch

/-! ## 1. Taking one entry away -/

/-- No key occurs twice, so one entry goes where there is one to take away. -/
theorem Keyed.length_erase {κ α : Type} [BEq κ] [PartialEquivBEq κ] {k : κ} {es : List (κ × α)}
    (hd : Distinct (keys es)) (h : (keys es).any (· == k) = true) :
    (erase k es).length + 1 = es.length := by
  induction es with
  | nil => exact nomatch h
  | cons e es ih =>
    obtain ⟨hhead, htail⟩ := List.pairwise_cons.mp hd
    cases hk : e.1 == k with
    | true =>
      -- the keys behind this one are others, so all their entries stay
      have hrest : (keys es).any (· == k) = false := by
        refine List.any_eq_false.mpr fun x hx hxk => ?_
        have hsame : e.1 == x := BEq.trans hk (BEq.symm hxk)
        rw [hhead x hx] at hsame
        exact nomatch hsame
      have hskip : erase k (e :: es) = erase k es := by simp [erase, hk]
      rw [hskip, erase_of_not_any hrest, List.length_cons]
    | false =>
      have hkeep : erase k (e :: es) = e :: erase k es := by simp [erase, hk]
      have hany : (keys es).any (· == k) = true := by simpa [keys_cons, hk] using h
      rw [hkeep, List.length_cons, List.length_cons, ih htail hany]

/-- Moving an entry to another key leaves as many entries, unless there is one under that key. -/
theorem Roster.length_erase_put {κ α : Type} [BEq κ] [PartialEquivBEq κ] {r : Roster κ α} {k x : κ}
    (a : α) (hk : r.has k) (hne : (k == x) = false) :
    ((r.erase k).put x a).names.length = if r.has x then r.names.length - 1 else r.names.length := by
  have herase : (r.erase k).names.length + 1 = r.names.length := by
    have hany : (Keyed.keys r.entries).any (· == k) = true := (has_eq r k).symm.trans hk
    have hlength := Keyed.length_erase r.distinct hany
    rw [length_names, length_names]
    exact hlength
  rw [names_put, has_erase, hne, Bool.not_false, Bool.true_and]
  split
  · omega
  · rw [List.length_append, List.length_singleton, herase]

namespace Scene

/-! ## 2. References -/

/-- All references to cells in a scene. -/
def references (s : Scene) : List CellRef :=
  s.arrows.flatMap (fun a => [a.source, a.target]) ++ s.tints.map Tint.cell ++ s.hovered.toList

/-- A scene is another in which one matrix has got another name. -/
structure Relabels (s s' : Scene) (old new : String) : Prop where
  matrices : s'.matrices.names.length = s.matrices.names.length
  arrows : s'.arrows.length = s.arrows.length
  tints : s'.tints.length = s.tints.length
  hovered : s'.hovered.isSome = s.hovered.isSome
  moved : s'.matrices.find? (.str new) = s.matrices.find? (.str old)
  others : ∀ name m, (name == Json.str old) = false → s.matrices.find? name = some m →
    s'.matrices.find? name = some m
  apart : (s.references.zip s'.references).Pairwise fun r q =>
    (r.1 == q.1) = false → (r.2 == q.2) = false

/-- A reference with the old name and one with the new are to cells in one row and column. -/
def Collides (s : Scene) (old new : String) : Prop :=
  ∃ r ∈ s.references, ∃ q ∈ s.references, (r.matrix == .str old) ∧ (q.matrix == .str new) ∧
    (r.row == q.row) ∧ (r.col == q.col)

variable {s s' : Scene} {old new : String}

theorem apart_map_iff (rs : List CellRef) (f : CellRef → CellRef) :
    ((rs.zip (rs.map f)).Pairwise fun r q => (r.1 == q.1) = false → (r.2 == q.2) = false) ↔
      rs.Pairwise fun r q => (r == q) = false → (f r == f q) = false := by
  have hzip : rs.zip (rs.map f) = rs.map fun r => (r, f r) := by
    have hmap := List.zip_map' (f := id) (g := f) (l := rs)
    rwa [List.map_id] at hmap
  rw [hzip, List.pairwise_map]

theorem relabels_self (s : Scene) (name : String) : s.Relabels s name name where
  matrices := rfl
  arrows := rfl
  tints := rfl
  hovered := rfl
  moved := rfl
  others := fun _ _ _ hm => hm
  apart := by
    have happart := (apart_map_iff s.references id).mpr (List.pairwise_of_forall fun _ _ => id)
    rwa [List.map_id] at happart

/-! ## 3. Renaming -/

/-- What a renaming that is done has done, where the names are two. -/
structure Renamed (s s' : Scene) (old new : String) (m : Matrix) : Prop where
  found : s.matrices.find? (.str old) = some m
  matrices : s'.matrices = (s.matrices.erase (.str old)).put (.str new) m
  arrows : s'.arrows = s.arrows.map (Arrow.renamed (.str old) (.str new))
  tints : s'.tints = s.tints.map (Tint.renamed (.str old) (.str new))
  hovered : s'.hovered = s.hovered.map (CellRef.renamed (.str old) (.str new))

theorem rename_eq_ok {change : Option Scene}
    (h : s.rename (.str old) (.str new) = .ok change) :
    (old = new ∧ change = none) ∨
      (old ≠ new ∧ ∃ s' m, change = some s' ∧ s.Renamed s' old new m) := by
  obtain ⟨c, hc, hchange⟩ := bind_eq_ok.mp h
  obtain rfl := Except.ok.inj hchange
  cases c with
  | none => exact Or.inl ⟨by simpa using Drawing.rename_eq_none hc, rfl⟩
  | some d =>
    obtain ⟨m, hm, hne, rfl⟩ := Drawing.rename_eq_some hc
    refine Or.inr ⟨?_, _, m, rfl, hm, ?_, rfl, rfl, rfl⟩
    · rintro rfl
      simp at hne
    · rw [Drawing.others_str]

namespace Renamed

variable {m : Matrix}

theorem references (h : s.Renamed s' old new m) :
    s'.references = s.references.map (CellRef.renamed (.str old) (.str new)) := by
  rw [Scene.references, Scene.references, h.arrows, h.tints, h.hovered, List.map_append,
    List.map_append, List.map_flatMap, List.flatMap_map, List.map_map, List.map_map]
  cases s.hovered with
  | none => rfl
  | some r => rfl

theorem beq_names (hne : old ≠ new) : (Json.str old == Json.str new) = false := by
  simpa using hne

/-- A matrix is lost where the new name was taken. -/
theorem length_names (h : s.Renamed s' old new m) (hne : old ≠ new) :
    s'.matrices.names.length = s.matrices.names.length ↔ s.matrices.has (.str new) = false := by
  have hold : s.matrices.has (.str old) = true := Drawing.has_of_find? h.found
  have hpos : 0 < s.matrices.names.length := by
    rw [Roster.has_eq] at hold
    obtain ⟨name, hname, _⟩ := List.any_eq_true.mp hold
    exact List.length_pos_of_mem hname
  rw [h.matrices, Roster.length_erase_put m hold (beq_names hne)]
  cases s.matrices.has (.str new) with
  | true =>
    rw [if_pos rfl]
    constructor
    · intro hlength
      omega
    · intro hfalse
      exact nomatch hfalse
  | false => exact ⟨fun _ => rfl, fun _ => if_neg Bool.false_ne_true⟩

/-- References that are apart are brought together by a collision, and by nothing else. -/
theorem apart_iff (h : s.Renamed s' old new m) (hne : old ≠ new) :
    ((s.references.zip s'.references).Pairwise fun r q =>
      (r.1 == q.1) = false → (r.2 == q.2) = false) ↔ ¬ s.Collides old new := by
  rw [h.references, apart_map_iff]
  constructor
  · rintro hp ⟨r, hr, q, hq, hrold, hqnew, hrow, hcol⟩
    have hdiffer : (r.matrix == q.matrix) = false := by
      rw [BEq.congr_left hrold, BEq.congr_right hqnew]
      exact beq_names hne
    have hbefore : (r == q) = false := by
      rw [Bool.eq_false_iff]
      intro hsame
      rw [(CellRef.beq_iff.mp hsame).1] at hdiffer
      exact nomatch hdiffer
    have hmember : r ≠ q := by
      rintro rfl
      rw [BEq.rfl] at hbefore
      exact nomatch hbefore
    have hsymm : Std.Symm fun r q : CellRef => (r == q) = false →
        (r.renamed (.str old) (.str new) == q.renamed (.str old) (.str new)) = false :=
      ⟨fun _ _ hrq hqr => BEq.comm.trans (hrq (BEq.comm.trans hqr))⟩
    have hafter := hp.forall hr hq hmember hbefore
    -- the first reference gets the name that the second has
    have hrenamed : r.matrix.equals (.str old) = true := by rwa [Json.equals_str]
    have hkept : ¬ q.matrix.equals (.str old) = true := by
      rw [Json.equals_str, BEq.congr_left hqnew, BEq.comm, beq_names hne]
      exact Bool.false_ne_true
    rw [Drawing.renamed_of_equals hrenamed, Drawing.renamed_of_not_equals hkept] at hafter
    have hsame : ({ r with matrix := .str new } : CellRef) == q :=
      CellRef.beq_iff.mpr ⟨BEq.symm hqnew, hrow, hcol⟩
    rw [hsame] at hafter
    exact nomatch hafter
  · intro hfree
    refine List.pairwise_of_forall_mem_list fun r hr q hq hbefore => ?_
    rw [Bool.eq_false_iff]
    intro hafter
    rcases Drawing.beq_of_renamed_beq hafter with hsame | ⟨hrow, hcol, ⟨hrold, hqnew⟩ | ⟨hqold, hrnew⟩⟩
    · rw [hsame] at hbefore
      exact nomatch hbefore
    · exact hfree ⟨r, hr, q, hq, Json.beq_of_equals hrold, hqnew, hrow, hcol⟩
    · exact hfree ⟨q, hq, r, hr, Json.beq_of_equals hqold, hrnew, BEq.symm hrow, BEq.symm hcol⟩

theorem others (h : s.Renamed s' old new m) (hnew : s.matrices.has (.str new) = false)
    {name : Json} {m' : Matrix} (hname : (name == Json.str old) = false)
    (hm : s.matrices.find? name = some m') : s'.matrices.find? name = some m' := by
  have hother : (Json.str new == name) = false := by
    rw [Bool.eq_false_iff]
    intro hsame
    have hhas : s.matrices.has name = true := Drawing.has_of_find? hm
    rw [Roster.has_eq] at hhas hnew
    obtain ⟨x, hx, hxname⟩ := List.any_eq_true.mp hhas
    have hxnew : (x == Json.str new) = true := BEq.trans hxname (BEq.symm hsame)
    have hnot := List.any_eq_false.mp hnew x hx
    exact hnot hxnew
  rw [h.matrices, Roster.find?_put, Roster.find?_erase, hother, if_neg Bool.false_ne_true,
    BEq.comm, hname, if_neg Bool.false_ne_true, hm]

end Renamed

/-- **A renaming is a relabelling, unless the new name is in use**: unless a matrix has it, or a
reference with it comes together with one with the old name. Where the names are one, nothing is
done. -/
theorem relabels_rename_iff (s : Scene) (old new : String) (change : Option Scene)
    (h : s.rename (.str old) (.str new) = .ok change) :
    s.Relabels (change.getD s) old new ↔
      old = new ∨ (s.matrices.has (.str new) = false ∧ ¬ s.Collides old new) := by
  rcases rename_eq_ok h with ⟨rfl, rfl⟩ | ⟨hne, s', m, rfl, hs'⟩
  · exact ⟨fun _ => Or.inl rfl, fun _ => relabels_self s old⟩
  · rw [Option.getD_some]
    constructor
    · intro hlabels
      exact Or.inr ⟨(hs'.length_names hne).mp hlabels.matrices, (hs'.apart_iff hne).mp hlabels.apart⟩
    · intro hfree
      obtain ⟨hnew, hcollides⟩ := hfree.resolve_left hne
      exact {
        matrices := (hs'.length_names hne).mpr hnew
        arrows := by rw [hs'.arrows, List.length_map]
        tints := by rw [hs'.tints, List.length_map]
        hovered := by rw [hs'.hovered, Option.isSome_map]
        moved := by rw [hs'.matrices, Roster.find?_put, if_pos BEq.rfl, hs'.found]
        others := fun name m' hname hm => hs'.others hnew hname hm
        apart := (hs'.apart_iff hne).mpr hcollides }

/-- A matrix that is there can be given any name that is not reserved. -/
theorem exists_rename {m : Matrix} (new : String) (hm : s.matrices.find? (.str old) = some m)
    (hfree : Name.checkReserved (.str new) = .ok ()) :
    ∃ change, s.rename (.str old) (.str new) = .ok change := by
  have hmatrix : s.toDrawing.matrix (.str old) = .ok m := Drawing.matrix_of_find? rfl hm
  cases hr : s.toDrawing.rename (.str old) (.str new) with
  | ok c => exact ⟨_, bind_eq_ok.mpr ⟨c, hr, rfl⟩⟩
  | error f =>
    simp only [Drawing.rename, hmatrix, hfree, bind, Except.bind] at hr
    split at hr
    · cases hr
    · cases hr

/-! ### The first drawing -/

def firstLight : Scene :=
  fresh initial .light

theorem find?_firstLight : ∃ m, firstLight.matrices.find? (.str "A") = some m := by
  simp [firstLight, fresh, initial]

/-- Under a name that is not in use. -/
theorem relabels_rename_initial :
    ∃ change, firstLight.rename (.str "A") (.str "C") = .ok change ∧
      firstLight.Relabels (change.getD firstLight) "A" "C" := by
  obtain ⟨m, hm⟩ := find?_firstLight
  obtain ⟨change, hchange⟩ := exists_rename "C" hm rfl
  have hempty : (Roster.empty : Roster Json Matrix).find? (.str "C") = none := rfl
  have hnew : firstLight.matrices.has (.str "C") = false := by
    simp [firstLight, fresh, initial, Roster.has, hempty]
  have hcollides : ¬ firstLight.Collides "A" "C" := by
    rintro ⟨_, _, q, hq, _, hqnew, _⟩
    have hq : q = .ofText "A" 0 0 ∨ q = .ofText "B" 0 0 ∨ q = .ofText "A" 1 1 := by
      simpa [references, firstLight, fresh, initial] using hq
    rcases hq with rfl | rfl | rfl
    · simp [CellRef.ofText] at hqnew
    · simp [CellRef.ofText] at hqnew
    · simp [CellRef.ofText] at hqnew
  exact ⟨change, hchange,
    (relabels_rename_iff firstLight "A" "C" change hchange).mpr (Or.inr ⟨hnew, hcollides⟩)⟩

/-- Under the name of the other matrix, which is lost. -/
theorem not_relabels_initial :
    ∃ change, firstLight.rename (.str "A") (.str "B") = .ok change ∧
      ¬ firstLight.Relabels (change.getD firstLight) "A" "B" := by
  obtain ⟨m, hm⟩ := find?_firstLight
  obtain ⟨change, hchange⟩ := exists_rename "B" hm rfl
  refine ⟨change, hchange, ?_⟩
  have hne : "A" ≠ "B" := by decide
  rcases rename_eq_ok hchange with ⟨hsame, _⟩ | ⟨_, s', m', rfl, hs'⟩
  · exact absurd hsame hne
  · intro hlabels
    have hnot := (hs'.length_names hne).mp hlabels.matrices
    have htaken : firstLight.matrices.has (.str "B") = true := by
      simp [firstLight, fresh, initial, Roster.has]
    exact Bool.noConfusion (htaken.symm.trans hnot)

end Scene

end GridSketch
