import GridSketch.Proofs.Command.Break
import GridSketch.Proofs.Session.Selection

/-!
# The selected tint

A tint is selected by its index, as an arrow is, and the list of tints is less steady than that of
arrows: a tint is put by taking the tints of its cell away and adding it at the end, so putting one
on a cell that has one already moves all the tints behind. Editing a cell and deleting a tint
therefore take the selection away, and so does changing a tint where the list gets shorter by that.
Tinting a rectangle, a command that colours a cell and deleting a matrix do not.

What those three have in common is that they leave the tints in front of the first one that they
lift where they are (`Drawing.LeavesBefore`), and that is kept along a batch (`leavesBefore_run`).
So the selection comes to stand for another cell exactly where one of them lifts a tint at the
index or in front of it and a tint of another cell gets to the index
(`Session.tint_selection_kept_iff`).
-/

set_option autoImplicit false

namespace GridSketch

/-! ## 1. Tints that stay where they are -/

namespace Drawing

/-- The tints in front of the first that is on one of those cells stay where they are. -/
def LeavesBefore (touched : CellRef → Prop) (d d' : Drawing) : Prop :=
  ∀ ts, ts <+: d.tints → (∀ t ∈ ts, ¬ touched t.cell) → ts <+: d'.tints

variable {touched touched' : CellRef → Prop} {d d' d'' : Drawing}

theorem leavesBefore_of_eq (h : d'.tints = d.tints) : LeavesBefore touched d d' := by
  intro ts hts _
  rwa [h]

theorem LeavesBefore.trans (h : LeavesBefore touched d d') (h' : LeavesBefore touched d' d'') :
    LeavesBefore touched d d'' :=
  fun ts hts hfree => h' ts (h ts hts hfree) hfree

theorem LeavesBefore.mono (h : LeavesBefore touched d d')
    (hsub : ∀ r, touched r → touched' r) : LeavesBefore touched' d d' :=
  fun ts hts hfree => h ts hts fun t ht htouched => hfree t ht (hsub _ htouched)

/-- So a tint stays at its index if it is not on one of those cells, nor any tint in front of it. -/
theorem LeavesBefore.getElem? (h : LeavesBefore touched d d') {i : Nat} {t : Tint}
    (ht : d.tints[i]? = some t)
    (hfree : ∀ k v, k ≤ i → d.tints[k]? = some v → ¬ touched v.cell) : d'.tints[i]? = some t :=
  getElem?_of_prefix_take ht (h _ (List.take_prefix (i + 1) _) (forall_mem_take hfree))

theorem leavesBefore_filter {p : Tint → Bool} (h : d'.tints = d.tints.filter p)
    (hp : ∀ t, p t = false → touched t.cell) : LeavesBefore touched d d' := by
  intro ts hts hfree
  rw [h]
  refine prefix_filter_of_forall hts ?_
  intro t ht
  exact Bool.of_not_eq_false fun hlifted => hfree t ht (hp t hlifted)

theorem leavesBefore_putTint (d : Drawing) (t : Tint) :
    LeavesBefore (fun r => r == t.cell) d (d.putTint t) := by
  have helsewhere : LeavesBefore (fun r => r == t.cell) d
      { d with tints := tintsElsewhere t.cell d.tints } :=
    leavesBefore_filter rfl fun u hu => by simpa using hu
  exact fun ts hts hfree => (helsewhere ts hts hfree).trans (List.prefix_append _ _)

theorem leavesBefore_putTints {colour : Json} {rs : List CellRef}
    (h : ∀ q ∈ rs, ∀ r, (r == q) = true → touched r) (d : Drawing) :
    LeavesBefore touched d (rs.foldl (fun d r => d.putTint ⟨r, colour⟩) d) := by
  induction rs generalizing d with
  | nil => exact leavesBefore_of_eq rfl
  | cons q rest ih =>
    rw [List.forall_mem_cons] at h
    have hput := (d.leavesBefore_putTint ⟨q, colour⟩).mono h.1
    exact hput.trans (ih h.2 _)

theorem leavesBefore_clearTint (d : Drawing) (r : CellRef) :
    LeavesBefore (fun q => q == r) d ((d.clearTint r).getD d) := by
  intro ts hts hfree
  obtain ⟨rest, hrest⟩ := hts
  rw [clearTint_getD, ← hrest]
  simp only
  rw [List.eraseP_append_right]
  · exact List.prefix_append _ _
  · intro t ht htaken
    exact hfree t ht (CellRef.beq_of_equals htaken)

/-- If there are as many tints as before after one has been put at an index, none was taken away on
either side of it. -/
theorem tintsElsewhere_eq_set {ts : List Tint} {t : Tint} {k : Nat} (hk : k < ts.length)
    (hlength : (tintsElsewhere t.cell (ts.take k) ++
      t :: tintsElsewhere t.cell (ts.drop (k + 1))).length = ts.length) :
    tintsElsewhere t.cell (ts.take k) ++
      t :: tintsElsewhere t.cell (ts.drop (k + 1)) = ts.set k t := by
  have hfront : (tintsElsewhere t.cell (ts.take k)).Sublist (ts.take k) :=
    List.filter_sublist
  have hback : (tintsElsewhere t.cell (ts.drop (k + 1))).Sublist (ts.drop (k + 1)) :=
    List.filter_sublist
  have hfrontLength := hfront.length_le
  have hbackLength := hback.length_le
  simp only [List.length_append, List.length_cons, List.length_take, List.length_drop]
    at hlength hfrontLength hbackLength
  rw [hfront.eq_of_length_le (by rw [List.length_take]; omega),
    hback.eq_of_length_le (by rw [List.length_drop]; omega), List.set_eq_take_append_cons_drop,
    if_pos hk]

end Drawing

namespace Scene

/-- The tint selection is an index in range, and the tint there is `t`. -/
def SelectsTint (s : Scene) (i : Nat) (t : Tint) : Prop :=
  s.selection.tint.Picks s.tints i t

/-- Neither the tints nor the selection of one has changed. -/
structure SameTints (s s' : Scene) : Prop where
  tints : s'.tints = s.tints
  selection : s'.selection.tint = s.selection.tint

end Scene

/-! ## 2. Actions -/

theorem Tint.renamed_self {old : Json} {name : String} (h : old.equals (.str name) = true)
    (t : Tint) : t.renamed old (.str name) = t := by
  rw [renamed, CellRef.renamed_self h]

namespace Change

variable {s : Scene} {change : Change}

theorem define_sameTints {f : MatrixForm} {noise : Noise} (h : define s f noise = .ok change) :
    s.SameTints (change.scene.getD s) := by
  obtain ⟨_, _, _, _, _, _, _, _, _, hscene⟩ := define_eq_ok h
  rw [hscene]
  exact ⟨rfl, rfl⟩

theorem move_sameTints {name x y : Json} (h : move s name x y = .ok change) :
    s.SameTints (change.scene.getD s) := by
  obtain ⟨_, _, _, hscene⟩ := move_eq_ok h
  rw [hscene]
  exact ⟨rfl, rfl⟩

theorem duplicate_sameTints {name : Json} (h : duplicate s name = .ok change) :
    s.SameTints (change.scene.getD s) := by
  obtain ⟨_, _, _, hscene⟩ := duplicate_eq_ok h
  rw [hscene]
  exact ⟨rfl, rfl⟩

theorem saveArrow_sameTints {f : ArrowForm} (h : saveArrow s f = .ok change) :
    s.SameTints (change.scene.getD s) := by
  obtain ⟨_, _, _, _, hscene⟩ := saveArrow_eq_ok h
  rw [hscene]
  exact ⟨rfl, rfl⟩

theorem updateArrow_sameTints {index : Json} {f : ArrowForm}
    (h : updateArrow s index f = .ok change) : s.SameTints (change.scene.getD s) := by
  obtain ⟨_, _, _, _, hscene⟩ := updateArrow_eq_ok h
  rw [hscene]
  exact ⟨rfl, rfl⟩

theorem deleteArrow_sameTints {index : Json} (h : deleteArrow s index = .ok change) :
    s.SameTints (change.scene.getD s) := by
  obtain ⟨_, hscene⟩ := deleteArrow_eq_ok h
  rw [hscene]
  exact ⟨rfl, rfl⟩

theorem editCell_selectsNoTint {f : CellForm} (h : editCell s f = .ok change) :
    (change.scene.getD s).selection.tint = .null := by
  obtain ⟨_, _, _, _, _, hscene⟩ := editCell_eq_ok h
  rw [hscene]
  rfl

theorem deleteTint_selectsNoTint {index : Json} (h : deleteTint s index = .ok change) :
    (change.scene.getD s).selection.tint = .null := by
  obtain ⟨_, hscene⟩ := deleteTint_eq_ok h
  rw [hscene]
  rfl

theorem rename_tints {old field : Json} (h : rename s old field = .ok change) :
    ∃ name, Name.clean field = .ok name ∧
      (change.scene.getD s).tints = s.tints.map (Tint.renamed old (.str name)) ∧
      (change.scene.getD s).selection.tint = s.selection.tint := by
  obtain ⟨name, found, hname, hfound, hscene⟩ := rename_eq_ok h
  refine ⟨name, hname, ?_⟩
  rw [hscene]
  cases found with
  | none =>
    -- the matrix has that name already, and so have the cells of the tints
    have hsame := Drawing.rename_eq_none hfound
    have hid : Tint.renamed old (.str name) = id := funext (Tint.renamed_self hsame)
    refine ⟨?_, rfl⟩
    rw [hid, List.map_id]
    rfl
  | some d =>
    obtain ⟨m, _, _, rfl⟩ := Drawing.rename_eq_some hfound
    refine ⟨rfl, ?_⟩
    simp only [Option.map_some, Option.getD_some]
    split
    · rfl
    · rfl

/-- Changing a tint puts it in the place of the one at the index, where none is taken away, and
otherwise selects none. -/
theorem updateTint_tints {index : Json} {t : Tint} (h : updateTint s index t = .ok change) :
    (change.scene.getD s).selection.tint = .null ∨
      (change.scene.getD s).selection.tint = s.selection.tint ∧
        ((∃ k : Nat, index.whole? = some k ∧ (change.scene.getD s).tints = s.tints.set k t) ∨
          index.whole? = none ∧ (change.scene.getD s).tints = s.tints) := by
  obtain ⟨d, _, hd, hscene⟩ := updateTint_eq_ok h
  rw [hscene]
  split
  · rename_i hlength
    refine Or.inr ⟨rfl, ?_⟩
    rcases Drawing.updateTint_eq_ok hd with ⟨k, hk, hlt, rfl⟩ | ⟨hk, rfl⟩
    · exact Or.inl ⟨k, hk, Drawing.tintsElsewhere_eq_set hlt hlength⟩
    · exact Or.inr ⟨hk, List.filter_sublist.eq_of_length hlength⟩
  · exact Or.inl rfl

theorem delete_tints {name : Json} (h : delete s name = .ok change) :
    Drawing.LeavesBefore (fun r => s.matrices.has name = true ∧ r.matrix.equals name = true)
        s.toDrawing (change.scene.getD s).toDrawing ∧
      (change.scene.getD s).selection.tint = s.selection.tint := by
  obtain ⟨found, hfound, hdrawing, _, hselection⟩ := delete_eq_ok h
  refine ⟨?_, hselection⟩
  rw [hdrawing, Drawing.delete_eq_ok hfound]
  split
  · rename_i hhas
    refine Drawing.leavesBefore_filter rfl ?_
    intro t ht
    exact ⟨hhas, by simpa using ht⟩
  · exact Drawing.leavesBefore_of_eq rfl

theorem Range.mem_span {first last i : Int} (h : i ∈ span first last) : first ≤ i ∧ i ≤ last := by
  obtain ⟨k, hk, rfl⟩ := List.mem_map.mp h
  have hlt := List.mem_range.mp hk
  omega

/-- A reference to one of the cells of a rectangle is in the rectangle. -/
theorem Range.contains_of_mem_cells {g : Range} {matrix : Json} {q r : CellRef}
    (hq : q ∈ g.cells matrix) (hr : r == q) :
    (r.matrix == matrix) = true ∧ g.contains r.row r.col = true := by
  simp only [cells, List.mem_flatMap, List.mem_map] at hq
  obtain ⟨row, hrow, col, hcol, rfl⟩ := hq
  obtain ⟨hmatrix, hsameRow, hsameCol⟩ := CellRef.beq_iff.mp hr
  refine ⟨hmatrix, ?_⟩
  have hrows := mem_span hrow
  have hcols := mem_span hcol
  rw [contains, Json.isBetween_of_beq hsameRow hrows.1 hrows.2,
    Json.isBetween_of_beq hsameCol hcols.1 hcols.2]
  rfl

theorem tintRange_tints {f : RangeForm} (h : tintRange s f = .ok change) :
    ∃ start stop, corner s f.matrix f.start "Range start" = .ok start ∧
      corner s f.matrix f.stop "Range end" = .ok stop ∧
      Drawing.LeavesBefore
        (fun r => (r.matrix == f.matrix) = true ∧
          (Range.between start stop).contains r.row r.col = true)
        s.toDrawing (change.scene.getD s).toDrawing ∧
      (change.scene.getD s).selection.tint = s.selection.tint := by
  obtain ⟨start, stop, colour, hstart, hstop, _, hscene⟩ := tintRange_scene h
  rw [hscene]
  refine ⟨start, stop, hstart, hstop, ?_, ?_⟩
  · rw [Command.toDrawing_getD]
    split
    · rw [untintRange_getD]
      refine Drawing.leavesBefore_filter rfl ?_
      intro t ht
      simp only [Bool.not_eq_false', Bool.and_eq_true] at ht
      exact ⟨Json.beq_of_equals ht.1, ht.2⟩
    · exact Drawing.leavesBefore_putTints (fun q hq r hr => Range.contains_of_mem_cells hq hr) _
  · generalize (if Tint.isNone _ then _ else _ : Option Drawing) = found
    cases found with
    | none => rfl
    | some d => rfl

end Change

namespace Action

/-- What an action does to the tints and to the selection of one, `s'` being the scene that it
makes. -/
def Retouches (s s' : Scene) : Action → Prop
  | .rename old field => ∃ name, Name.clean field = .ok name ∧
      s'.tints = s.tints.map (Tint.renamed old (.str name)) ∧
      s'.selection.tint = s.selection.tint
  | .delete name =>
      Drawing.LeavesBefore (fun r => s.matrices.has name = true ∧ r.matrix.equals name = true)
        s.toDrawing s'.toDrawing ∧
      s'.selection.tint = s.selection.tint
  | .tintRange form => ∃ start stop,
      Change.corner s form.matrix form.start "Range start" = .ok start ∧
      Change.corner s form.matrix form.stop "Range end" = .ok stop ∧
      Drawing.LeavesBefore
        (fun r => (r.matrix == form.matrix) = true ∧
          (Change.Range.between start stop).contains r.row r.col = true)
        s.toDrawing s'.toDrawing ∧
      s'.selection.tint = s.selection.tint
  | .updateTint index t => s'.selection.tint = .null ∨
      s'.selection.tint = s.selection.tint ∧
        ((∃ k : Nat, index.whole? = some k ∧ s'.tints = s.tints.set k t) ∨
          index.whole? = none ∧ s'.tints = s.tints)
  | .editCell _ | .deleteTint _ => s'.selection.tint = .null
  | _ => s.SameTints s'

theorem retouches_of_apply {s : Scene} {a : Action} {change : Change}
    (h : a.apply s = .ok change) : a.Retouches s (change.scene.getD s) := by
  cases a with
  | define form noise => exact Change.define_sameTints h
  | move name x y => exact Change.move_sameTints h
  | rename old field => exact Change.rename_tints h
  | delete name => exact Change.delete_tints h
  | duplicate name => exact Change.duplicate_sameTints h
  | editCell form => exact Change.editCell_selectsNoTint h
  | tintRange form => exact Change.tintRange_tints h
  | saveArrow form => exact Change.saveArrow_sameTints h
  | updateArrow index form => exact Change.updateArrow_sameTints h
  | deleteArrow index => exact Change.deleteArrow_sameTints h
  | updateTint index t => exact Change.updateTint_tints h
  | deleteTint index => exact Change.deleteTint_selectsNoTint h

end Action

/-! ## 3. Commands -/

namespace Command

/-- The attempt is done, and what its line does is to colour the cell. -/
def Attempt.Colours (a : Attempt) (r : CellRef) : Prop :=
  a.outcome.isOk = true ∧ classify a.line = some .cellColour ∧
    ∃ q, cell (cellPart Form.colon a.line) "Cell" = .ok q ∧ (r == q) = true

theorem Attempt.leavesBefore_next (a : Attempt) :
    Drawing.LeavesBefore a.Colours a.drawing a.next := by
  rw [next]
  cases hdone : a.outcome with
  | error fault => exact Drawing.leavesBefore_of_eq rfl
  | ok effect =>
    have hexecute : execute a.drawing a.line = .ok effect := hdone
    dsimp only
    by_cases hform : classify a.line = some .cellColour
    · have hcolour : colourCell a.drawing a.line = .ok effect := by
        simpa only [execute, hform] using hexecute
      obtain ⟨q, hq, _, hdrawing⟩ := colourCell_eq_ok hcolour
      have hcolours : ∀ r, (r == q) = true → a.Colours r :=
        fun r hr => ⟨by rw [hdone]; rfl, hform, q, hq, hr⟩
      rcases hdrawing with hdrawing | ⟨colour, hdrawing⟩
      · rw [hdrawing]
        exact (a.drawing.leavesBefore_clearTint q).mono hcolours
      · rw [hdrawing]
        exact (a.drawing.leavesBefore_putTint ⟨q, .str colour⟩).mono hcolours
    · exact Drawing.leavesBefore_of_eq (tints_execute hexecute hform)

/-- Commands leave the tints in front of the first that one of them lifts. -/
theorem leavesBefore_reached (d : Drawing) (cs : List (Nat × List Char)) :
    Drawing.LeavesBefore (fun r => ∃ a ∈ attempts d cs, a.Colours r) d (reached d cs) := by
  induction cs generalizing d with
  | nil => exact Drawing.leavesBefore_of_eq rfl
  | cons c cs ih =>
    have hfirst := (Attempt.mk d c.1 c.2).leavesBefore_next
    refine (hfirst.mono ?_).trans ((ih _).mono ?_)
    · exact fun r hr => ⟨_, List.mem_cons_self, hr⟩
    · rintro r ⟨a, ha, hr⟩
      exact ⟨a, List.mem_cons_of_mem _ ha, hr⟩

end Command

/-! ## 4. Sessions -/

namespace Session

variable {K : Type}

/-- The operation may lift the tint of the cell: it takes it away, or takes it away and puts it
last. -/
def Lifts (s : Session K) : Op K → CellRef → Prop
  | .act (.delete name), r => s.scene.matrices.has name = true ∧ r.matrix.equals name = true
  | .act (.tintRange form), r => ∃ start stop,
      Change.corner s.scene form.matrix form.start "Range start" = .ok start ∧
      Change.corner s.scene form.matrix form.stop "Range end" = .ok stop ∧
      (r.matrix == form.matrix) = true ∧
      (Change.Range.between start stop).contains r.row r.col = true
  | .run source, r => ∃ text, source.typedLines = .ok text ∧
      ∃ a ∈ Command.attempts s.scene.toDrawing (Command.commandsIn text), a.Colours r
  | _, _ => False

/-- What becomes of the tint `t` at the index `i`, if it is not a tint of another cell that comes
there: the renaming of a matrix renames its cell, and a form for that index replaces it. What lifts
tints may leave another tint of the same cell. -/
def TintBecomes (i : Nat) (t u : Tint) : Op K → Prop
  | .act (.rename old field) => ∃ name, Name.clean field = .ok name ∧ u = t.renamed old (.str name)
  | .act (.updateTint index form) =>
      (index.whole? = some (i : Int) ∧ u = form) ∨ (index.whole? ≠ some (i : Int) ∧ u = t)
  | .act (.delete _) | .act (.tintRange _) | .run _ => (u.cell == t.cell) = true
  | _ => u = t

variable {s : Session K} {i : Nat} {t : Tint} {op : Op K}

/-- A form for an index replaces the tint there, and leaves the tint at every other index. -/
theorem tintBecomes_updateTint {index : Json} {form u : Tint} {ts : List Tint}
    (hsel : s.scene.SelectsTint i t)
    (hts : (∃ k : Nat, index.whole? = some k ∧ ts = s.scene.tints.set k form) ∨
      index.whole? = none ∧ ts = s.scene.tints)
    (hu : ts[i]? = some u) : TintBecomes i t u (.act (.updateTint index form) : Op K) := by
  rcases hts with ⟨k, hk, rfl⟩ | ⟨hk, rfl⟩
  · by_cases hki : k = i
    · rw [hki, List.getElem?_set_self (List.getElem?_eq_some_iff.mp hsel.2).1] at hu
      exact Or.inl ⟨hki ▸ hk, (Option.some.inj hu).symm⟩
    · rw [List.getElem?_set_ne hki, hsel.2] at hu
      refine Or.inr ⟨?_, (Option.some.inj hu).symm⟩
      rw [hk]
      exact fun h => hki (Int.natCast_inj.mp (Option.some.inj h))
  · rw [hsel.2] at hu
    refine Or.inr ⟨?_, (Option.some.inj hu).symm⟩
    rw [hk]
    simp

variable [Coordinate K]

/-- The operation lifts a tint at the index or in front of it, and a tint of another cell gets to
the index. -/
def TintSlides (s : Session K) (i : Nat) (t : Tint) (op : Op K) : Prop :=
  (∃ k v, k ≤ i ∧ s.scene.tints[k]? = some v ∧ s.Lifts op v.cell) ∧
    ∃ u, (s.step op).session.scene.tints[i]? = some u ∧ (u.cell == t.cell) = false

/-- A batch that is answered leaves the selection alone, and the tints in front of the first that it
lifts. -/
theorem leavesBefore_run {source : Json} {answer : Answer K}
    (h : (s.step (.run source)).answer = .ok answer) :
    Drawing.LeavesBefore (s.Lifts (.run source)) s.scene.toDrawing
        (s.step (.run source)).session.scene.toDrawing ∧
      (s.step (.run source)).session.scene.selection = s.scene.selection := by
  refine ⟨?_, (s.scene_run source).2⟩
  simp only [step, run] at h ⊢
  cases hlines : source.typedLines with
  | error f =>
    rw [hlines] at h
    cases h
  | ok text =>
    rw [hlines] at h
    cases hstop : (Command.runBatch s.scene.toDrawing text).stopped with
    | some f => simp [runText, hstop, refuse] at h
    | none =>
      have hscene := (runText_of_not_stopped s source.shown hstop).2.1
      simp only [hscene, Scene.toDrawing_withDrawing]
      rw [Command.runBatch, (Command.runLines_eq hstop).1]
      refine (Command.leavesBefore_reached _ _).mono ?_
      rintro r ⟨a, ha, hr⟩
      exact ⟨text, hlines, a, ha, hr⟩

/-- Where the tints in front of the first that is lifted stay, the one at the index is of the same
cell unless the selection slides. -/
theorem not_tintSlides_iff (hsel : s.scene.SelectsTint i t)
    (hleaves : Drawing.LeavesBefore (s.Lifts op) s.scene.toDrawing
      (s.step op).session.scene.toDrawing) :
    (∀ u, (s.step op).session.scene.tints[i]? = some u → (u.cell == t.cell) = true) ↔
      ¬ s.TintSlides i t op := by
  constructor
  · rintro hall ⟨_, u, hu, hne⟩
    rw [hall u hu] at hne
    exact nomatch hne
  · intro hslides u hu
    refine Bool.of_not_eq_false fun hne => hslides ⟨?_, u, hu, hne⟩
    refine Classical.byContradiction fun hnone => ?_
    -- with none of the tints up to the index lifted, the one at the index is still there
    have hkept := hleaves.getElem? hsel.2 fun k v hk hv hlifts => hnone ⟨k, v, hk, hv, hlifts⟩
    rw [hkept] at hu
    rw [← Option.some.inj hu, BEq.rfl] at hne
    exact absurd hne nofun

theorem not_tintSlides_of_not_lifts (h : ∀ r, ¬ s.Lifts op r) : ¬ s.TintSlides i t op :=
  fun ⟨⟨_, v, _, _, hlifts⟩, _⟩ => h v.cell hlifts

/-- **The selected tint after an operation on the drawing is that of the cell that was selected
before, renamed or replaced as it may be, unless a tint in front is lifted and that of another cell
slides to the index.** -/
theorem tint_selection_kept_iff {answer : Answer K} (hsel : s.scene.SelectsTint i t)
    (hop : op.IsEdit) (hok : (s.step op).answer = .ok answer) :
    (∀ j u, (s.step op).session.scene.SelectsTint j u → j = i ∧ TintBecomes i t u op) ↔
      ¬ s.TintSlides i t op := by
  cases hop with
  | run source =>
    obtain ⟨hleaves, hselection⟩ := leavesBefore_run hok
    simp only [Scene.SelectsTint, hselection]
    rw [hsel.forall_iff]
    exact not_tintSlides_iff hsel hleaves
  | act action =>
    obtain ⟨change, happly, hscene⟩ := scene_act hok
    have htouches := Action.retouches_of_apply happly
    rw [← hscene] at htouches
    simp only [Scene.SelectsTint]
    cases action with
    | editCell | deleteTint =>
      refine iff_of_true ?_ (not_tintSlides_of_not_lifts fun _ => id)
      intro j u hu
      rw [show _ = Json.null from htouches] at hu
      exact absurd hu (Json.not_picks_null _ j u)
    | rename old field =>
      obtain ⟨name, hname, htints, hselection⟩ := htouches
      rw [hselection, hsel.forall_iff, htints]
      refine iff_of_true ?_ (not_tintSlides_of_not_lifts fun _ => id)
      intro u hu
      rw [List.getElem?_map, hsel.2] at hu
      exact ⟨name, hname, (Option.some.inj hu).symm⟩
    | updateTint index form =>
      refine iff_of_true ?_ (not_tintSlides_of_not_lifts fun _ => id)
      rcases htouches with hnull | ⟨hselection, htints⟩
      · rw [hnull]
        exact fun j u hu => absurd hu (Json.not_picks_null _ j u)
      · rw [hselection, hsel.forall_iff]
        exact fun u hu => tintBecomes_updateTint hsel htints hu
    | delete name =>
      obtain ⟨hleaves, hselection⟩ := htouches
      rw [hselection, hsel.forall_iff]
      exact not_tintSlides_iff hsel hleaves
    | tintRange form =>
      obtain ⟨start, stop, hstart, hstop, hleaves, hselection⟩ := htouches
      rw [hselection, hsel.forall_iff]
      refine not_tintSlides_iff hsel (hleaves.mono ?_)
      exact fun r hr => ⟨start, stop, hstart, hstop, hr⟩
    | define | move | duplicate | saveArrow | updateArrow | deleteArrow =>
      rw [htouches.selection, hsel.forall_iff, htouches.tints, hsel.2]
      refine iff_of_true ?_ (not_tintSlides_of_not_lifts fun _ => id)
      exact fun u hu => (Option.some.inj hu).symm

/-! ### Tinting the selected cell -/

/-- Tints a cell of the second matrix, and selects the tint of the first. -/
def tintSelectingRun : List (Op K) :=
  [.act (.tintRange facingCell), .selectTint (.num (.int 0))]

/-- The form that gives the tinted cell of the first matrix another colour. -/
def tintedCell : RangeForm :=
  let place : Json := .arr [.num (.int 1), .num (.int 1)]
  { matrix := .str "A", start := place, stop := place, colour := .str "green" }

/-- The tint of the first drawing, and the one that is put behind it. -/
def firstTint : Tint :=
  ⟨.ofText "A" 1 1, .str "lightblue"⟩

def secondTint : Tint :=
  ⟨.ofText "B" 1 1, .str "red"⟩

theorem selects_firstTint :
    ((opening : Session Rat).after tintSelectingRun).scene.SelectsTint 0 firstTint :=
  ⟨rfl, rfl⟩

/-- The new colour of the first cell comes last, and the second tint takes its place. -/
theorem selects_secondTint :
    (((opening : Session Rat).after tintSelectingRun).step
      (.act (.tintRange tintedCell))).session.scene.SelectsTint 0 secondTint :=
  ⟨rfl, rfl⟩

/-- Giving the first matrix another name leaves the tint selected, under the other name. -/
theorem tint_selection_kept_rename :
    ((opening : Session Rat).after tintSelectingRun).scene.SelectsTint 0 firstTint ∧
      ∀ j u, (((opening : Session Rat).after tintSelectingRun).step
          (.act (.rename (.str "A") (.str "C")))).session.scene.SelectsTint j u →
        j = 0 ∧ TintBecomes 0 firstTint u
          (.act (.rename (.str "A") (.str "C")) : Op Rat) := by
  have hok : (((opening : Session Rat).after tintSelectingRun).step
      (.act (.rename (.str "A") (.str "C")))).answer = .ok (.name .null) := rfl
  refine ⟨selects_firstTint, (tint_selection_kept_iff selects_firstTint (.act _) hok).mpr ?_⟩
  exact not_tintSlides_of_not_lifts fun _ => id

/-- The tint selection slides onto another cell. -/
theorem tint_selection_slides : ¬ ∀ (ops : List (Op Rat)) (op : Op Rat) (i : Nat) (t : Tint)
    (answer : Answer Rat), (opening.after ops).scene.SelectsTint i t → op.IsEdit →
    ((opening.after ops).step op).answer = .ok answer →
    ∀ j u, ((opening.after ops).step op).session.scene.SelectsTint j u →
      j = i ∧ TintBecomes i t u op := by
  intro h
  obtain ⟨_, hsame⟩ := h tintSelectingRun (.act (.tintRange tintedCell)) 0 firstTint (.name .null)
    selects_firstTint (.act _) rfl 0 secondTint selects_secondTint
  have hname := (CellRef.ofText_beq_ofText.mp hsame).1
  exact absurd hname (by decide)

end Session

end GridSketch
