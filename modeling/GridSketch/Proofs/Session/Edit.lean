import GridSketch.Proofs.Command.Effects
import GridSketch.Proofs.Grid.Fits
import GridSketch.Proofs.Session.Run
import Mathlib.Logic.Relation

/-!
# What operations do to a drawing

A dozen actions and four forms of command change a drawing, each through checks of its own. What
they come to in the end is one list of *edits* (`Drawing.Edit`), and every action that is done and
every command of a batch is a sequence of them (`Action.edits_of_apply`, `Command.edits_runBatch`).
Each edit comes with what has been checked by the time it is made, and with no more: the name that
is put is well-formed, the grid fits, the cells at the ends of an arrow are there. So whoever wants
a property of drawings to be kept goes through the edits once (`Edits.keeps`) and does not open an
action again.

Two things an action may do are left out of the list, since they break what the edits keep. Giving a
matrix another name can make one cell out of two, and a hollow form (`MatrixForm.Hollow`) defines a
matrix without rows. Reading a document is the third way to a drawing that is no sequence of
edits. `Session.brings_of_edits` lists them all, and with that a property of drawings is a property
of all sessions as soon as the edits, and what else is on the list, are known to keep it.

The edits forget the selection, and which arrow was replaced by which. What an action that is done
leaves as a whole is said by its inversion (`Change.define_eq_ok`, `Change.saveArrow_eq_ok` and so
on), which is where its checks are opened.
-/

set_option autoImplicit false

namespace GridSketch

namespace Drawing

/-! ## 1. Edits -/

/-- One change of a drawing. -/
inductive Edit (d : Drawing) : Drawing → Prop where
  | define {name : String} {rows cols : Int} {values : List (List Int)} (p : Point Float)
      (hname : Name.WellFormed name) (hrows : 0 < rows) (hcols : 0 < cols)
      (hfits : Grid.Fits rows.toNat cols.toNat values) :
      Edit d
        { d with
          matrices := d.matrices.put (.str name) (.sized rows cols (Grid.ofInts values) p) }
  | move {name : Json} {m : Matrix} (p : Point Float) (hm : d.matrices.find? name = some m) :
      Edit d { d with matrices := d.matrices.put name (m.withPosition p) }
  | copy {name : Json} {new : String} {m : Matrix} (p : Point Float)
      (hm : d.matrices.find? name = some m)
      (hnew : new = name.shown ∨ ∃ k, new = Change.copyName name.shown k) :
      Edit d { d with matrices := d.matrices.put (.str new) (m.withPosition p) }
  | setValue {r : CellRef} {m : Matrix} (v : Number) (hm : d.matrices.find? r.matrix = some m) :
      Edit d
        { d with matrices := d.matrices.put r.matrix (m.withValue r.row r.col (.num v)) }
  | delete {name : Json} (hname : d.matrices.has name) :
      Edit d
        { matrices := d.others name
          arrows := d.arrows.filter fun a => !a.touches name
          tints := d.tints.filter fun t => !t.cell.matrix.equals name }
  | addArrow {a : Arrow} (hsource : d.HasCell a.source) (htarget : d.HasCell a.target) :
      Edit d (d.addArrow a)
  | setArrow {a : Arrow} (i : Nat) (hsource : d.HasCell a.source) (htarget : d.HasCell a.target) :
      Edit d { d with arrows := d.arrows.set i a }
  | eraseArrow (i : Nat) : Edit d { d with arrows := d.arrows.eraseIdx i }
  | putTint {t : Tint} (hcell : d.matrices.has t.cell.matrix) : Edit d (d.putTint t)
  | setTint {t : Tint} (i : Nat) (hcell : d.HasCell t.cell) :
      Edit d
        { d with
          tints := tintsElsewhere t.cell (d.tints.take i) ++
            t :: tintsElsewhere t.cell (d.tints.drop (i + 1)) }
  | dropTints {ts : List Tint} (hts : ts.Sublist d.tints) : Edit d { d with tints := ts }

/-- Any number of changes, one after the other. -/
def Edits : Drawing → Drawing → Prop :=
  Relation.ReflTransGen Edit

theorem Edits.refl (d : Drawing) : Edits d d :=
  Relation.ReflTransGen.refl

theorem Edit.edits {d d' : Drawing} (h : Edit d d') : Edits d d' :=
  Relation.ReflTransGen.single h

theorem Edits.trans {d d' d'' : Drawing} (h : Edits d d') (h' : Edits d' d'') : Edits d d'' :=
  Relation.ReflTransGen.trans h h'

/-- What every edit keeps is kept by any number of them. -/
theorem Edits.keeps {P : Drawing → Prop} (hP : ∀ {d d' : Drawing}, Edit d d' → P d → P d')
    {d d' : Drawing} (h : Edits d d') (hd : P d) : P d' := by
  induction h with
  | refl => exact hd
  | tail _ he ih => exact hP he ih

theorem edits_clearTint (d : Drawing) (r : CellRef) : Edits d ((d.clearTint r).getD d) := by
  cases h : d.clearTint r with
  | none => exact Edits.refl d
  | some d' =>
    obtain ⟨i, rfl⟩ := clearTint_eq_some h
    exact (Edit.dropTints (List.eraseIdx_sublist _ _)).edits

/-- Tinting keeps the matrices, so tints can be put one after the other. -/
theorem edits_putTints {matrix : Json} {colour : Json} {d : Drawing} {rs : List CellRef}
    (hr : ∀ r ∈ rs, r.matrix = matrix) (hd : d.matrices.has matrix) :
    Edits d (rs.foldl (fun d r => d.putTint ⟨r, colour⟩) d) := by
  induction rs generalizing d with
  | nil => exact Edits.refl d
  | cons r rs ih =>
    have hcell : d.matrices.has r.matrix := by rwa [hr r List.mem_cons_self]
    have hput : Edits d (d.putTint ⟨r, colour⟩) := (Edit.putTint hcell).edits
    exact hput.trans (ih (fun r' hm => hr r' (List.mem_cons_of_mem _ hm)) hd)

end Drawing

open Drawing (Edit Edits)

/-! ## 2. Actions -/

namespace Change

variable {s : Scene} {change : Change} {new : Scene}

theorem define_eq_ok {f : MatrixForm} {noise : Noise} (h : define s f noise = .ok change) :
    ∃ name values rows cols p,
      Name.clean f.name = .ok name ∧ newValues f noise = .ok values ∧ f.rows.asInt = .ok rows ∧
      f.cols.asInt = .ok cols ∧
      change.scene = some ((s.withDrawing
        { s.toDrawing with
          matrices := s.matrices.put (.str name) (.sized rows cols (Grid.ofInts values) p) }).select
        .matrix (.str name)) := by
  simp only [define, bind_eq_ok, pure_eq_ok] at h
  obtain ⟨name, hname, values, hvalues, rows, hrows, cols, hcols, x, _, y, _, d, hd, rfl⟩ := h
  rw [Drawing.putMatrix_eq_ok hd]
  exact ⟨name, values, rows, cols, ⟨x, y⟩, hname, hvalues, hrows, hcols, rfl⟩

/-- A name that is given anew goes over to what is selected and to what is under the pointer. -/
theorem rename_eq_ok {old field : Json} (h : rename s old field = .ok change) :
    ∃ name found, Name.clean field = .ok name ∧
      s.toDrawing.rename old (.str name) = .ok found ∧
      change.scene = found.map fun d =>
        { s with
          toDrawing := d
          selection :=
            if s.selection.matrix.equals old then s.selection.set .matrix (.str name)
            else s.selection
          hovered := s.hovered.map (CellRef.renamed old (.str name)) } := by
  simp only [rename, Scene.rename, bind_eq_ok, pure_eq_ok] at h
  obtain ⟨name, hname, _, _, _, ⟨found, hfound, rfl⟩, rfl⟩ := h
  exact ⟨name, found, hname, hfound, rfl⟩

theorem rename_eq_some {old field : Json} (h : rename s old field = .ok change)
    (hnew : change.scene = some new) :
    ∃ name, Name.clean field = .ok name ∧
      s.toDrawing.rename old (.str name) = .ok (some new.toDrawing) := by
  obtain ⟨name, found, hname, hfound, hscene⟩ := rename_eq_ok h
  obtain ⟨d, rfl, rfl⟩ := Option.map_eq_some_iff.mp (hscene.symm.trans hnew)
  exact ⟨name, hname, hfound⟩

theorem move_eq_ok {name x y : Json} (h : move s name x y = .ok change) :
    ∃ m p, s.matrices.find? name = some m ∧
      change.scene = some (s.withDrawing
        { s.toDrawing with matrices := s.matrices.put name (m.withPosition p) }) := by
  simp only [move, bind_eq_ok, pure_eq_ok] at h
  obtain ⟨m, hm, _, _, x, _, y, _, d, hd, rfl⟩ := h
  rw [Drawing.putMatrix_eq_ok hd]
  exact ⟨m, ⟨x, y⟩, Drawing.matrix_eq_ok hm, rfl⟩

theorem move_edits {name x y : Json} (h : move s name x y = .ok change)
    (hnew : change.scene = some new) : Edits s.toDrawing new.toDrawing := by
  obtain ⟨m, p, hm, hscene⟩ := move_eq_ok h
  obtain rfl := Option.some.inj (hscene.symm.trans hnew)
  exact (Edit.move p hm).edits

theorem freeCopyName_eq (ms : Roster Json Matrix) (name : String) :
    freeCopyName ms name = name ∨ ∃ k, freeCopyName ms name = copyName name k := by
  unfold freeCopyName
  simp only
  cases hf : List.find? _ _ with
  | none => exact Or.inl rfl
  | some c =>
    obtain ⟨k, _, hk⟩ := List.mem_map.mp (List.mem_of_find?_eq_some hf)
    exact Or.inr ⟨k, hk.symm⟩

theorem duplicate_eq_ok {name : Json} (h : duplicate s name = .ok change) :
    ∃ m p, s.matrices.find? name = some m ∧
      change.scene = some (s.withDrawing
        { s.toDrawing with
          matrices := s.matrices.put (.str (freeCopyName s.matrices name.shown))
            (m.withPosition p) }) := by
  simp only [duplicate, bind_eq_ok, pure_eq_ok, Json.print_eq_ok] at h
  obtain ⟨m, hm, _, ⟨_, rfl⟩, d, hd, rfl⟩ := h
  rw [Drawing.putMatrix_eq_ok hd]
  exact ⟨m, _, Drawing.matrix_eq_ok hm, rfl⟩

theorem duplicate_edits {name : Json} (h : duplicate s name = .ok change)
    (hnew : change.scene = some new) : Edits s.toDrawing new.toDrawing := by
  obtain ⟨m, p, hm, hscene⟩ := duplicate_eq_ok h
  obtain rfl := Option.some.inj (hscene.symm.trans hnew)
  exact (Edit.copy p hm (freeCopyName_eq s.matrices _)).edits

theorem delete_scene {name : Json} (h : delete s name = .ok change) :
    ∃ found, s.toDrawing.delete name = .ok found ∧
      change.scene = if s.selection.matrix.equals name then
        some (((found.map s.withDrawing).getD s).select .matrix .null)
      else found.map s.withDrawing := by
  simp only [delete, bind_eq_ok, pure_eq_ok] at h
  obtain ⟨found, hfound, _, _, rfl⟩ := h
  exact ⟨found, hfound, rfl⟩

/-- Deleting a matrix may take no more away than the selection of it, which may be there without
the matrix. -/
theorem delete_eq_ok {name : Json} (h : delete s name = .ok change) :
    ∃ found, s.toDrawing.delete name = .ok found ∧
      (change.scene.getD s).toDrawing = found.getD s.toDrawing ∧
      (change.scene.getD s).selection.arrow = s.selection.arrow ∧
      (change.scene.getD s).selection.tint = s.selection.tint := by
  obtain ⟨found, hfound, hscene⟩ := delete_scene h
  refine ⟨found, hfound, ?_⟩
  rw [hscene]
  cases found with
  | none =>
    split
    · exact ⟨rfl, rfl, rfl⟩
    · exact ⟨rfl, rfl, rfl⟩
  | some d =>
    split
    · exact ⟨rfl, rfl, rfl⟩
    · exact ⟨rfl, rfl, rfl⟩

theorem delete_edits {name : Json} (h : delete s name = .ok change)
    (hnew : change.scene = some new) : Edits s.toDrawing new.toDrawing := by
  obtain ⟨found, hfound, hdrawing, _⟩ := delete_eq_ok h
  rw [hnew] at hdrawing
  rw [show new.toDrawing = found.getD s.toDrawing from hdrawing]
  cases found with
  | none => exact Edits.refl _
  | some d =>
    obtain ⟨hhas, rfl⟩ := Drawing.delete_eq_some hfound
    exact (Edit.delete hhas).edits

theorem tint_edits {d : Drawing} {r : CellRef} (colour : String) (h : d.matrices.has r.matrix) :
    Edits d (tint d r colour) := by
  unfold tint
  split
  · exact Drawing.edits_clearTint d r
  · exact (Edit.putTint h).edits

/-- What the form for a cell went through to be done. -/
theorem editCell_steps {f : CellForm} (h : editCell s f = .ok change) :
    ∃ row col m text v d colour,
      let r : CellRef := ⟨f.matrix, .num (.int row), .num (.int col)⟩
      f.row.asInt = .ok row ∧ f.col.asInt = .ok col ∧ s.requireCell r "Cell" = .ok m ∧
      f.value.typed = .ok text ∧ Command.number text.toList = .ok v ∧
      s.putMatrix r.matrix (m.withValue r.row r.col (.num v)) = .ok d ∧
      f.colour.typed = .ok colour ∧ r.isPrintable = true ∧
      change.scene = some ((s.withDrawing (tint d r (Text.trimmed colour))).select .tint .null) := by
  simp only [editCell, bind_eq_ok, pure_eq_ok, CellRef.print_eq_ok] at h
  obtain ⟨row, hrow, col, hcol, m, hm, text, htext, v, hv, d, hd, colour, hcolour, _,
    ⟨hshown, rfl⟩, rfl⟩ := h
  exact ⟨row, col, m, text, v, d, colour, hrow, hcol, hm, htext, hv, hd, hcolour, hshown, rfl⟩

theorem editCell_eq_ok {f : CellForm} (h : editCell s f = .ok change) :
    ∃ r m v colour, s.matrices.find? r.matrix = some m ∧
      change.scene = some ((s.withDrawing (tint
        { s.toDrawing with matrices := s.matrices.put r.matrix (m.withValue r.row r.col (.num v)) }
        r colour)).select .tint .null) := by
  obtain ⟨row, col, m, _, v, d, colour, _, _, hm, _, _, hd, _, _, hscene⟩ := editCell_steps h
  rw [Drawing.putMatrix_eq_ok hd] at hscene
  exact ⟨⟨f.matrix, _, _⟩, m, v, _, (Drawing.requireCell_eq_ok hm).1, hscene⟩

theorem editCell_edits {f : CellForm} (h : editCell s f = .ok change)
    (hnew : change.scene = some new) : Edits s.toDrawing new.toDrawing := by
  obtain ⟨r, m, v, colour, hm, hscene⟩ := editCell_eq_ok h
  obtain rfl := Option.some.inj (hscene.symm.trans hnew)
  simp only [Scene.toDrawing_select, Scene.toDrawing_withDrawing]
  -- the tint is put on the drawing that has the value
  have hset := (Edit.setValue v hm).edits
  exact hset.trans (tint_edits _ (by simp [Roster.has]))

theorem mem_cells {g : Range} {matrix : Json} {r : CellRef} (h : r ∈ g.cells matrix) :
    r.matrix = matrix := by
  simp only [Range.cells, List.mem_flatMap, List.mem_map] at h
  obtain ⟨_, _, _, _, rfl⟩ := h
  rfl

theorem hasCell_of_corner {matrix given : Json} {role : String} {p : Int × Int}
    (h : corner s matrix given role = .ok p) :
    s.toDrawing.HasCell ⟨matrix, .num (.int p.1), .num (.int p.2)⟩ := by
  simp only [corner, bind_eq_ok, pure_eq_ok] at h
  obtain ⟨_, _, row, _, _, _, col, _, _, hm, rfl⟩ := h
  exact Drawing.hasCell_of_requireCell hm

theorem tintRange_scene {f : RangeForm} (h : tintRange s f = .ok change) :
    ∃ start stop colour,
      corner s f.matrix f.start "Range start" = .ok start ∧
      corner s f.matrix f.stop "Range end" = .ok stop ∧ f.colour.typed = .ok colour ∧
      change.scene = (if Tint.isNone (Text.trimmed colour) then
          untintRange s.toDrawing f.matrix (.between start stop)
        else some (((Range.between start stop).cells f.matrix).foldl
          (fun d r => d.putTint ⟨r, .str (Text.trimmed colour)⟩) s.toDrawing)).map
        s.withDrawing := by
  simp only [tintRange, bind_eq_ok, pure_eq_ok] at h
  obtain ⟨start, hstart, stop, hstop, colour, hcolour, _, _, _, _, rfl⟩ := h
  exact ⟨start, stop, colour, hstart, hstop, hcolour, rfl⟩

/-- Tinting a range leaves tints out, or puts them on cells of a matrix that is there. -/
theorem tintRange_eq_ok {f : RangeForm} (h : tintRange s f = .ok change) :
    change.scene = none ∨
      (∃ ts, ts.Sublist s.tints ∧
        change.scene = some (s.withDrawing { s.toDrawing with tints := ts })) ∨
      ∃ (rs : List CellRef) (colour : Json), s.matrices.has f.matrix ∧
        (∀ r ∈ rs, r.matrix = f.matrix) ∧
        change.scene = some (s.withDrawing
          (rs.foldl (fun d r => d.putTint ⟨r, colour⟩) s.toDrawing)) := by
  obtain ⟨start, stop, colour, hstart, _, _, hscene⟩ := tintRange_scene h
  rw [hscene]
  split
  · unfold untintRange
    simp only
    split
    · exact Or.inl rfl
    · exact Or.inr (Or.inl ⟨_, List.filter_sublist, rfl⟩)
  · exact Or.inr (Or.inr ⟨_, _, (hasCell_of_corner hstart).has, fun r => mem_cells, rfl⟩)

theorem tintRange_edits {f : RangeForm} (h : tintRange s f = .ok change)
    (hnew : change.scene = some new) : Edits s.toDrawing new.toDrawing := by
  rcases tintRange_eq_ok h with hscene | ⟨ts, hts, hscene⟩ | ⟨rs, colour, hhas, hrs, hscene⟩
  · exact nomatch hscene.symm.trans hnew
  · obtain rfl := Option.some.inj (hscene.symm.trans hnew)
    exact (Edit.dropTints hts).edits
  · obtain rfl := Option.some.inj (hscene.symm.trans hnew)
    exact Drawing.edits_putTints hrs hhas

theorem arrowOf_eq_ok {d : Drawing} {f : ArrowForm} {a : Arrow} (h : arrowOf d f = .ok a) :
    d.HasCell a.source ∧ d.HasCell a.target := by
  simp only [arrowOf, bind_eq_ok, pure_eq_ok] at h
  obtain ⟨_, hsource, _, htarget, _, _, _, _, _, _, rfl⟩ := h
  exact ⟨Drawing.hasCell_of_requireCell hsource, Drawing.hasCell_of_requireCell htarget⟩

/-- Saving an arrow adds one or replaces one, and selects none. -/
theorem saveArrow_eq_ok {f : ArrowForm} (h : saveArrow s f = .ok change) :
    ∃ a arrows, arrowOf s.toDrawing f = .ok a ∧
      (arrows = s.arrows ++ [a] ∨ ∃ i, arrows = s.arrows.set i a) ∧
      change.scene =
        some ((s.withDrawing { s.toDrawing with arrows := arrows }).select .arrow .null) := by
  simp only [saveArrow, bind_eq_ok] at h
  obtain ⟨a, ha, h⟩ := h
  split at h
  · obtain ⟨index, hindex, h⟩ := bind_eq_ok.mp h
    obtain rfl := pure_eq_ok.mp hindex
    simp only [bind_eq_ok, pure_eq_ok] at h
    obtain ⟨_, _, _, _, rfl⟩ := h
    exact ⟨a, _, ha, Or.inl rfl, rfl⟩
  · obtain ⟨index, _, h⟩ := bind_eq_ok.mp h
    cases index with
    | some i =>
      simp only [bind_eq_ok, pure_eq_ok] at h
      obtain ⟨_, _, rfl⟩ := h
      exact ⟨a, _, ha, Or.inr ⟨i, rfl⟩, rfl⟩
    | none =>
      simp only [bind_eq_ok, pure_eq_ok] at h
      obtain ⟨_, _, _, _, rfl⟩ := h
      exact ⟨a, _, ha, Or.inl rfl, rfl⟩

theorem saveArrow_edits {f : ArrowForm} (h : saveArrow s f = .ok change)
    (hnew : change.scene = some new) : Edits s.toDrawing new.toDrawing := by
  obtain ⟨a, arrows, ha, harrows, hscene⟩ := saveArrow_eq_ok h
  obtain ⟨hsource, htarget⟩ := arrowOf_eq_ok ha
  obtain rfl := Option.some.inj (hscene.symm.trans hnew)
  rcases harrows with rfl | ⟨i, rfl⟩
  · exact (Edit.addArrow hsource htarget).edits
  · exact (Edit.setArrow i hsource htarget).edits

theorem updateArrow_eq_ok {index : Json} {f : ArrowForm} (h : updateArrow s index f = .ok change) :
    ∃ i a, index.indexBelow .replace s.arrows.length = .ok (some i) ∧
      arrowOf s.toDrawing f = .ok a ∧
      change.scene = some (s.withDrawing { s.toDrawing with arrows := s.arrows.set i a }) := by
  simp only [updateArrow, bind_eq_ok, pure_eq_ok] at h
  obtain ⟨a, ha, _, _, d, hd, rfl⟩ := h
  obtain ⟨i, hi, rfl⟩ := Drawing.updateArrow_eq_ok hd
  exact ⟨i, a, hi, ha, rfl⟩

theorem updateArrow_edits {index : Json} {f : ArrowForm} (h : updateArrow s index f = .ok change)
    (hnew : change.scene = some new) : Edits s.toDrawing new.toDrawing := by
  obtain ⟨i, a, _, ha, hscene⟩ := updateArrow_eq_ok h
  obtain ⟨hsource, htarget⟩ := arrowOf_eq_ok ha
  obtain rfl := Option.some.inj (hscene.symm.trans hnew)
  exact (Edit.setArrow i hsource htarget).edits

theorem deleteArrow_eq_ok {index : Json} (h : deleteArrow s index = .ok change) :
    ∃ i, change.scene = some ((s.withDrawing
      { s.toDrawing with arrows := s.arrows.eraseIdx i }).select .arrow .null) := by
  simp only [deleteArrow, bind_eq_ok, pure_eq_ok] at h
  obtain ⟨d, hd, _, _, rfl⟩ := h
  obtain ⟨i, rfl⟩ := Drawing.deleteArrow_eq_ok hd
  exact ⟨i, rfl⟩

theorem deleteArrow_edits {index : Json} (h : deleteArrow s index = .ok change)
    (hnew : change.scene = some new) : Edits s.toDrawing new.toDrawing := by
  obtain ⟨i, hscene⟩ := deleteArrow_eq_ok h
  obtain rfl := Option.some.inj (hscene.symm.trans hnew)
  exact (Edit.eraseArrow i).edits

/-- Changing a tint changes the list of tints and, where it gets shorter, selects none. -/
theorem updateTint_eq_ok {index : Json} {t : Tint} (h : updateTint s index t = .ok change) :
    ∃ d, s.toDrawing.HasCell t.cell ∧ s.toDrawing.updateTint index t = .ok d ∧
      change.scene = if d.tints.length = s.tints.length then some (s.withDrawing d)
        else some ((s.withDrawing d).select .tint .null) := by
  simp only [updateTint, bind_eq_ok, pure_eq_ok] at h
  obtain ⟨m, hm, d, hd, _, _, rfl⟩ := h
  exact ⟨d, Drawing.hasCell_of_requireCell hm, hd, rfl⟩

theorem updateTint_edits {index : Json} {t : Tint} (h : updateTint s index t = .ok change)
    (hnew : change.scene = some new) : Edits s.toDrawing new.toDrawing := by
  obtain ⟨d, hcell, hd, hscene⟩ := updateTint_eq_ok h
  have hdrawing : new.toDrawing = d := by
    rw [hscene] at hnew
    split at hnew <;> obtain rfl := Option.some.inj hnew <;> rfl
  rw [hdrawing]
  rcases Drawing.updateTint_eq_ok hd with ⟨i, _, _, rfl⟩ | ⟨_, rfl⟩
  · exact (Edit.setTint i hcell).edits
  · exact (Edit.dropTints List.filter_sublist).edits

theorem deleteTint_eq_ok {index : Json} (h : deleteTint s index = .ok change) :
    ∃ i, change.scene = some ((s.withDrawing
      { s.toDrawing with tints := s.tints.eraseIdx i }).select .tint .null) := by
  simp only [deleteTint, bind_eq_ok, pure_eq_ok] at h
  obtain ⟨d, hd, _, _, rfl⟩ := h
  obtain ⟨i, rfl⟩ := Drawing.deleteTint_eq_ok hd
  exact ⟨i, rfl⟩

theorem deleteTint_edits {index : Json} (h : deleteTint s index = .ok change)
    (hnew : change.scene = some new) : Edits s.toDrawing new.toDrawing := by
  obtain ⟨i, hscene⟩ := deleteTint_eq_ok h
  obtain rfl := Option.some.inj (hscene.symm.trans hnew)
  exact (Edit.dropTints (List.eraseIdx_sublist _ _)).edits

theorem define_edits {f : MatrixForm} {noise : Noise} (h : define s f noise = .ok change)
    (hnew : change.scene = some new) : f.Hollow ∨ Edits s.toDrawing new.toDrawing := by
  obtain ⟨name, values, rows, cols, p, hname, hvalues, hrows, hcols, hscene⟩ := define_eq_ok h
  obtain ⟨hr, hc, hfits | hollow⟩ := of_newValues hvalues hrows hcols
  · rw [hscene] at hnew
    obtain rfl := Option.some.inj hnew
    exact Or.inr (Edit.define p (Name.clean_wellFormed hname) hr hc hfits).edits
  · exact Or.inl hollow

end Change

/-- **An action that changes the drawing is a sequence of edits**, unless it gives a matrix another
name or submits a hollow form. -/
theorem Action.edits_of_apply {s new : Scene} {a : Action} {change : Change}
    (h : a.apply s = .ok change) (hnew : change.scene = some new) :
    Edits s.toDrawing new.toDrawing ∨ (∃ old field, a = .rename old field) ∨
      ∃ form noise, a = .define form noise ∧ form.Hollow := by
  cases a with
  | define form noise =>
    rcases Change.define_edits h hnew with hollow | hedits
    · exact Or.inr (Or.inr ⟨form, noise, rfl, hollow⟩)
    · exact Or.inl hedits
  | move name x y => exact Or.inl (Change.move_edits h hnew)
  | rename old field => exact Or.inr (Or.inl ⟨old, field, rfl⟩)
  | delete name => exact Or.inl (Change.delete_edits h hnew)
  | duplicate name => exact Or.inl (Change.duplicate_edits h hnew)
  | editCell form => exact Or.inl (Change.editCell_edits h hnew)
  | tintRange form => exact Or.inl (Change.tintRange_edits h hnew)
  | saveArrow form => exact Or.inl (Change.saveArrow_edits h hnew)
  | updateArrow index form => exact Or.inl (Change.updateArrow_edits h hnew)
  | deleteArrow index => exact Or.inl (Change.deleteArrow_edits h hnew)
  | updateTint index t => exact Or.inl (Change.updateTint_edits h hnew)
  | deleteTint index => exact Or.inl (Change.deleteTint_edits h hnew)

/-! ## 3. Commands -/

namespace Command

variable {d : Drawing} {cs : List Char} {effect : Effect}

/-- A definition of a command makes a grid of the size that it gives. -/
theorem edits_execute (h : execute d cs = .ok effect) : Edits d (effect.drawing.getD d) := by
  have hdone := done_of_execute h
  generalize effect.drawing = found at hdone
  cases hdone with
  | @define name part rows cols values p hname hsize hvalues =>
    obtain ⟨hr, hc, hfits⟩ := Grid.of_make_sequential hvalues
    have hfits : Grid.Fits (rows : Int).toNat (cols : Int).toNat values := by simpa using hfits
    exact (Edit.define p hname (by omega) (by omega) hfits).edits
  | arrow colour hsource htarget => exact (Edit.addArrow hsource htarget).edits
  | untint r => exact Drawing.edits_clearTint d r
  | tint colour hcell => exact (Edit.putTint hcell.has).edits
  | value v hm => exact (Edit.setValue v hm).edits

/-- Whatever relates a drawing to what a command makes of it, relates it to what a batch does. -/
theorem runLines_relates {R : Drawing → Drawing → Prop} (hrefl : ∀ d, R d d)
    (htrans : ∀ {d d' d''}, R d d' → R d' d'' → R d d'')
    (hexecute : ∀ {d cs effect}, execute d cs = .ok effect → R d (effect.drawing.getD d))
    (d : Drawing) (number : Nat) (ls : List (List Char)) : R d (runLines d number ls).drawing := by
  induction ls generalizing d number with
  | nil => exact hrefl d
  | cons raw rest ih =>
    simp only [runLines]
    split
    · exact ih d (number + 1)
    · cases he : execute d (Text.trim raw) with
      | ok effect => exact htrans (hexecute he) (ih _ (number + 1))
      | error fault =>
        simp only
        split
        · exact ih d (number + 1)
        · exact hrefl d

/-- **A batch is a sequence of edits**, whichever of its lines are done. -/
theorem edits_runBatch (d : Drawing) (text : String) : Edits d (runBatch d text).drawing :=
  runLines_relates Edits.refl Edits.trans edits_execute d 1 _

end Command

/-! ## 4. Operations of a session -/

namespace Session

variable {K : Type}

/-- Whether an operation reads a document. -/
def Op.reads : Op K → Bool
  | .importDocument _ | .loadFile .. => true
  | _ => false

variable {P : Drawing → Prop} {s : Session K} {op : Op K}

theorem brings_readEvent {r : Except Fault Drawing} (h : ∀ d, r = .ok d → P d) :
    (readEvent r).Brings P := by
  cases r with
  | ok d => exact h d rfl
  | error f => trivial

/-- **Where the drawings come from** that an operation brings in: an action or a batch makes them, or
the session starts anew, or they are read off a document. -/
theorem brings_of_sources
    (hact : ∀ {a change new}, op = .act a → a.apply s.scene = .ok change →
      change.scene = some new → P new.toDrawing)
    (hrun : ∀ text, P (Command.runBatch s.scene.toDrawing text).drawing)
    (hinitial : P Scene.initial) (hempty : P {})
    (hread : ∀ {data d}, op.reads = true → Document.read data = .ok d → P d) :
    (s.event op).Brings P := by
  cases op with
  | act a =>
    simp only [event, actEvent]
    cases ha : a.apply s.scene with
    | error f => trivial
    | ok change =>
      cases hnew : change.scene with
      | none => simp [hnew, Event.Brings]
      | some new =>
        simp only [hnew, Event.Brings]
        exact hact rfl ha hnew
  | run source =>
    simp only [event]
    cases source.typedLines with
    | error f => trivial
    | ok text =>
      simp only [runEvent]
      split
      · exact hrun text
      · trivial
  | reset => exact hinitial
  | newScene => exact hempty
  | importDocument data => exact brings_readEvent fun d hd => hread rfl hd
  | loadFile path opened =>
    apply brings_readEvent
    intro d hd
    obtain ⟨bytes, _, hbytes⟩ := bind_eq_ok.mp hd
    obtain ⟨data, _, hdata⟩ := bind_eq_ok.mp hbytes
    exact hread rfl hdata
  | _ => trivial

/-- What an action or a batch makes is made by edits of the present drawing, or by one of the two
actions that are none. -/
theorem brings_of_edits (hedits : ∀ {d'}, Edits s.scene.toDrawing d' → P d')
    (hrename : ∀ {old field change new}, op = .act (.rename old field) →
      Change.rename s.scene old field = .ok change → change.scene = some new → P new.toDrawing)
    (hhollow : ∀ {form noise change new}, op = .act (.define form noise) → form.Hollow →
      Change.define s.scene form noise = .ok change → change.scene = some new → P new.toDrawing)
    (hinitial : P Scene.initial) (hempty : P {})
    (hread : ∀ {data d}, op.reads = true → Document.read data = .ok d → P d) :
    (s.event op).Brings P := by
  refine brings_of_sources ?_ (fun text => hedits (Command.edits_runBatch _ text)) hinitial hempty
    hread
  intro a change new hop ha hnew
  rcases Action.edits_of_apply ha hnew with h | ⟨old, field, rfl⟩ | ⟨form, noise, rfl, hollow⟩
  · exact hedits h
  · exact hrename hop ha hnew
  · exact hhollow hop hollow ha hnew

end Session

end GridSketch
