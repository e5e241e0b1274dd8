import GridSketch.Proofs.Session.Renaming

/-!
# Renaming and back

A name that nothing in a scene uses can be tried out. Once a matrix has it nothing uses the old name
any more, and renaming back gives what there was before: the arrows, the tints, what is under the
pointer and what is selected, down to the last field. Only the matrix comes last among the matrices
now, since it was taken away and put again.

The name of a matrix stands in the ends of arrows, in tints, in the cell under the pointer and in
the selection, besides the roster of the matrices. A scene uses a name if it is in one of these
places (`Scene.Unused` says that it is not). Whether a place is rewritten is decided there by
itself, so each has its own short argument, and the scenes follow from them
(`renamed_renamed`).
-/

set_option autoImplicit false

namespace GridSketch

variable {old new : String}

/-! ## 1. The places of a name -/

theorem CellRef.renamed_back {r : CellRef} (h : (r.matrix == .str new) = false) :
    (r.renamed (.str old) (.str new)).renamed (.str new) (.str old) = r := by
  by_cases hold : r.matrix.equals (.str old)
  · have hmatrix : r.matrix = .str old := Json.eq_str_of_beq (Json.beq_of_equals hold)
    have hnew : (Json.str new).equals (.str new) = true := by simp
    rw [Drawing.renamed_of_equals hold, Drawing.renamed_of_equals hnew, ← hmatrix]
  · have hnew : ¬ r.matrix.equals (.str new) = true := by simp [h]
    rw [Drawing.renamed_of_not_equals hold, Drawing.renamed_of_not_equals hnew]

/-- The old name is gone from a reference. -/
theorem CellRef.matrix_renamed_ne (hne : old ≠ new) (r : CellRef) :
    ((r.renamed (.str old) (.str new)).matrix == .str old) = false := by
  by_cases hold : r.matrix.equals (.str old)
  · rw [Drawing.renamed_of_equals hold]
    simpa using Ne.symm hne
  · rw [Drawing.renamed_of_not_equals hold]
    simpa using hold

theorem Arrow.touches_str (name : String) (a : Arrow) :
    a.touches (.str name) = (a.source.matrix == .str name || a.target.matrix == .str name) := by
  simp [touches]

theorem Arrow.renamed_back {a : Arrow} (h : a.touches (.str new) = false) :
    (a.renamed (.str old) (.str new)).renamed (.str new) (.str old) = a := by
  rw [touches_str, Bool.or_eq_false_iff] at h
  simp only [renamed, CellRef.renamed_back h.1, CellRef.renamed_back h.2]

theorem Arrow.not_touches_renamed (hne : old ≠ new) (a : Arrow) :
    (a.renamed (.str old) (.str new)).touches (.str old) = false := by
  rw [touches_str, Bool.or_eq_false_iff]
  exact ⟨CellRef.matrix_renamed_ne hne a.source, CellRef.matrix_renamed_ne hne a.target⟩

theorem Tint.renamed_back {t : Tint} (h : (t.cell.matrix == .str new) = false) :
    (t.renamed (.str old) (.str new)).renamed (.str new) (.str old) = t := by
  simp only [renamed, CellRef.renamed_back h]

/-- The selection after a matrix took another name. -/
def Selection.renamed (old new : String) (s : Selection) : Selection :=
  if s.matrix == .str old then s.set .matrix (.str new) else s

theorem Selection.renamed_back {s : Selection} (h : (s.matrix == .str new) = false) :
    (s.renamed old new).renamed new old = s := by
  by_cases hold : s.matrix == .str old
  · have hthere : s.renamed old new = s.set .matrix (.str new) := if_pos hold
    have hback : (s.set .matrix (.str new)).renamed new old = s.set .matrix (.str old) :=
      if_pos BEq.rfl
    have hmatrix : s.matrix = .str old := Json.eq_str_of_beq hold
    rw [hthere, hback, ← hmatrix]
    rfl
  · have hthere : s.renamed old new = s := if_neg hold
    have hback : s.renamed new old = s := if_neg (by simp [h])
    rw [hthere, hback]

theorem Selection.matrix_renamed_ne (hne : old ≠ new) (s : Selection) :
    ((s.renamed old new).matrix == .str old) = false := by
  by_cases hold : s.matrix == .str old
  · rw [renamed, if_pos hold]
    simpa [set] using Ne.symm hne
  · rw [renamed, if_neg hold]
    simpa using hold

namespace Scene

/-- Nothing in a scene has a name or speaks of it. -/
structure Unused (s : Scene) (name : String) : Prop where
  matrices : s.matrices.has (.str name) = false
  arrows : ∀ a ∈ s.arrows, a.touches (.str name) = false
  tints : ∀ t ∈ s.tints, (t.cell.matrix == .str name) = false
  hovered : ∀ r ∈ s.hovered, (r.matrix == .str name) = false
  selected : (s.selection.matrix == .str name) = false

/-! ## 2. Scenes -/

/-- The scene in which a matrix that had one name has another. -/
def renamed (s : Scene) (old new : String) (m : Matrix) : Scene where
  matrices := (s.matrices.erase (.str old)).put (.str new) m
  arrows := s.arrows.map (Arrow.renamed (.str old) (.str new))
  tints := s.tints.map (Tint.renamed (.str old) (.str new))
  theme := s.theme
  selection := s.selection.renamed old new
  hovered := s.hovered.map (CellRef.renamed (.str old) (.str new))

variable {s : Scene} {m : Matrix}

theorem rename_of_find? (hm : s.matrices.find? (.str old) = some m) (hfree : new ∉ Name.reserved)
    (hne : old ≠ new) :
    s.rename (.str old) (.str new) = .ok (some (s.renamed old new m)) := by
  have hmatrix : s.toDrawing.matrix (.str old) = .ok m := Drawing.matrix_of_find? rfl hm
  have hname : Name.checkReserved (.str new) = .ok () := by
    rw [Name.checkReserved_str, if_neg hfree]
  have hother : (Json.str old).equals (.str new) = false := by simpa using hne
  simp only [rename, Drawing.rename, hmatrix, hname, hother, Drawing.others_str, Json.equals_str,
    bind, Except.bind, pure, Except.pure, if_neg Bool.false_ne_true]
  rfl

/-- After a renaming nothing in the scene uses the old name. -/
theorem unused_renamed (hne : old ≠ new) : (s.renamed old new m).Unused old where
  matrices := by
    have hother : (Json.str new == Json.str old) = false := by simpa using Ne.symm hne
    rw [renamed, Roster.has_put, Roster.has_erase, hother, BEq.rfl]
    rfl
  arrows := by
    intro a ha
    obtain ⟨a', _, rfl⟩ := List.mem_map.mp ha
    exact a'.not_touches_renamed hne
  tints := by
    intro t ht
    obtain ⟨t', _, rfl⟩ := List.mem_map.mp ht
    exact t'.cell.matrix_renamed_ne hne
  hovered := by
    intro r hr
    obtain ⟨r', _, rfl⟩ := Option.map_eq_some_iff.mp hr
    exact r'.matrix_renamed_ne hne
  selected := s.selection.matrix_renamed_ne hne

/-- A matrix that is called by an unused name and then by its own again comes last, and everything
else is as it was. -/
theorem renamed_renamed (hnew : s.Unused new) :
    (s.renamed old new m).renamed new old m =
      { s with matrices := (s.matrices.erase (.str old)).put (.str old) m } := by
  have hmatrices : ((s.matrices.erase (.str old)).put (.str new) m).erase (.str new) =
      s.matrices.erase (.str old) := by
    refine Roster.erase_put_of_new ?_ m
    rw [Roster.has_erase, hnew.matrices, Bool.and_false]
  have harrows : (s.arrows.map (Arrow.renamed (.str old) (.str new))).map
      (Arrow.renamed (.str new) (.str old)) = s.arrows := by
    rw [List.map_map]
    exact (List.map_congr_left fun a ha => Arrow.renamed_back (hnew.arrows a ha)).trans
      (List.map_id _)
  have htints : (s.tints.map (Tint.renamed (.str old) (.str new))).map
      (Tint.renamed (.str new) (.str old)) = s.tints := by
    rw [List.map_map]
    exact (List.map_congr_left fun t ht => Tint.renamed_back (hnew.tints t ht)).trans
      (List.map_id _)
  have hhovered : (s.hovered.map (CellRef.renamed (.str old) (.str new))).map
      (CellRef.renamed (.str new) (.str old)) = s.hovered := by
    cases hr : s.hovered with
    | none => rfl
    | some r => exact congrArg some (CellRef.renamed_back (hnew.hovered r hr))
  have hselection : (s.selection.renamed old new).renamed new old = s.selection :=
    Selection.renamed_back hnew.selected
  simp only [renamed, hmatrices, harrows, htints, hhovered, hselection]

/-- **Renaming to an unused name is undone by renaming back.** In between nothing in the scene uses
the first name; and in the end all is as it was, but that the matrix comes last. -/
theorem rename_and_back {s : Scene} {a b : String} (hmatrix : s.matrices.has (.str a))
    (ha : a ∉ Name.reserved) (hb : b ∉ Name.reserved) (hunused : s.Unused b) :
    ∃ s' s'', s.rename (.str a) (.str b) = .ok (some s') ∧ s'.Unused a ∧
      s'.rename (.str b) (.str a) = .ok (some s'') ∧
      s''.arrows = s.arrows ∧ s''.tints = s.tints ∧ s''.hovered = s.hovered ∧
      s''.selection = s.selection ∧ s''.theme = s.theme ∧
      s''.matrices.entries.Perm s.matrices.entries ∧
      ∀ name, s''.matrices.find? name = s.matrices.find? name := by
  obtain ⟨m, hm⟩ := Option.isSome_iff_exists.mp hmatrix
  have hne : a ≠ b := by
    rintro rfl
    exact Bool.noConfusion (hmatrix.symm.trans hunused.matrices)
  have hm' : (s.renamed a b m).matrices.find? (.str b) = some m := by
    rw [renamed, Roster.find?_put, if_pos BEq.rfl]
  refine ⟨s.renamed a b m, _, rename_of_find? hm hb hne, unused_renamed hne,
    rename_of_find? hm' ha (Ne.symm hne), ?_⟩
  rw [renamed_renamed hunused]
  refine ⟨rfl, rfl, rfl, rfl, rfl, ?_, fun name => ?_⟩
  · have habsent : (s.matrices.erase (.str a)).has (.str a) = false := by
      rw [Roster.has_erase, BEq.rfl]
      rfl
    rw [Roster.entries_put_of_new habsent]
    exact Keyed.perm_erase_append s.matrices.distinct (Roster.mem_of_find?_str hm)
  · rw [Roster.find?_put, Roster.find?_erase]
    split
    · rename_i hname
      obtain rfl := Json.eq_str_of_beq (BEq.symm hname)
      exact hm.symm
    · rfl

/-- A scene in which the name of a matrix stands in every place that there is for it, and an arrow
has it at both ends. -/
def crowded : Scene :=
  { firstLight with
    arrows := [
      { source := .ofText "A" 0 0, target := .ofText "A" 2 2, colour := .str "red"
        style := .str "->", width := .num (.int 1), label := .null },
      { source := .ofText "B" 1 1, target := .ofText "A" 0 2, colour := .str "blue"
        style := .str "-", width := .num (.int 3), label := .str "back" }]
    selection := { matrix := .str "A", arrow := .num (.int 1) }
    hovered := some (.ofText "A" 0 1) }

theorem rename_and_back_crowded :
    crowded.matrices.has (.str "A") = true ∧ "A" ∉ Name.reserved ∧ "C" ∉ Name.reserved ∧
      crowded.Unused "C" ∧
      ∃ s' s'', crowded.rename (.str "A") (.str "C") = .ok (some s') ∧ s'.Unused "A" ∧
        s'.rename (.str "C") (.str "A") = .ok (some s'') ∧ s''.arrows = crowded.arrows ∧
        s''.hovered = some (.ofText "A" 0 1) := by
  have hA : "A" ∉ Name.reserved := by simp [Name.reserved]
  have hC : "C" ∉ Name.reserved := by simp [Name.reserved]
  have hempty : (Roster.empty : Roster Json Matrix).find? (.str "C") = none := rfl
  have hmatrix : crowded.matrices.has (.str "A") = true := by
    simp [crowded, firstLight, fresh, initial, Roster.has]
  have hunused : crowded.Unused "C" := {
    matrices := by simp [crowded, firstLight, fresh, initial, Roster.has, hempty]
    arrows := by simp [crowded, Arrow.touches, CellRef.ofText]
    tints := by simp [crowded, firstLight, fresh, initial, CellRef.ofText]
    hovered := by simp [crowded, CellRef.ofText]
    selected := by simp [crowded] }
  obtain ⟨s', s'', hthere, hgone, hback, harrows, _, hhovered, _⟩ :=
    rename_and_back hmatrix hA hC hunused
  exact ⟨hmatrix, hA, hC, hunused, s', s'', hthere, hgone, hback, harrows, hhovered⟩

end Scene

end GridSketch
