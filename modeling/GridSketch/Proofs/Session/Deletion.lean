import GridSketch.Proofs.Session.CellWrites
import GridSketch.Proofs.Session.Selection
import GridSketch.Proofs.View.Picking

/-!
# Deleting what is not there

To delete a matrix that is not there is to do nothing, as far as the matrices go. But the selection
of a matrix is kept as a name, and deleting takes back the selection of the name, whether there is a
matrix or not. Where it does, there is a new scene, and a new scene is recorded: a step that can be
undone and that changes nothing that is drawn, and what could be redone before it is gone
(`Change.delete_of_selected`, `Change.delete_of_not_selected`).

How can a name be selected of a matrix that is not there? Whatever selects a matrix selects one that
is there, and whatever takes a matrix away or gives it another name looks after the selection
(`Scene.SelectionFound`, `Action.selectionFound_apply`). Undoing and redoing do not: they put
another drawing under the selection that there is by then (`Session.Orphans`). So
`Session.absent_deletions_iff` holds in both directions: in all states of a run it does nothing to
delete what is not there, exactly as long as no step back or forward takes the selected matrix away.
-/

set_option autoImplicit false

namespace GridSketch

/-! ## 1. Deleting without a matrix -/

namespace Change

variable {s : Scene} {name : String}

theorem delete_absent (h : s.matrices.has (.str name) = false) :
    s.toDrawing.delete (.str name) = .ok none := by
  simp [Drawing.delete, h, bind, Except.bind, pure, Except.pure]

/-- The selection of the name is taken back, and that makes a new scene. -/
theorem delete_of_selected (h : s.matrices.has (.str name) = false)
    (hselected : s.selection.matrix = .str name) :
    delete s (.str name) = .ok
      { scene := some (s.select .matrix .null), label := "Delete matrix " ++ name } := by
  simp [delete, delete_absent h, hselected, bind, Except.bind, pure, Except.pure]

/-- Where another name is selected, or none, there is no new scene. -/
theorem delete_of_not_selected (h : s.matrices.has (.str name) = false)
    (hselected : s.selection.matrix ≠ .str name) :
    delete s (.str name) = .ok { scene := none, label := "Delete matrix " ++ name } := by
  have hother : (s.selection.matrix == .str name) = false :=
    Bool.eq_false_iff.mpr fun hsame => hselected (Json.eq_str_of_beq hsame)
  simp [delete, delete_absent h, hother, bind, Except.bind, pure, Except.pure]

end Change

/-! ## 2. Matrices that stay -/

namespace Drawing

/-- No matrix of the first drawing is missing in the second. -/
def Grows (d d' : Drawing) : Prop :=
  ∀ name : String, d.matrices.has (.str name) → d'.matrices.has (.str name)

variable {d d' d'' : Drawing}

theorem Grows.refl (d : Drawing) : d.Grows d :=
  fun _ => id

theorem Grows.trans (h : d.Grows d') (h' : d'.Grows d'') : d.Grows d'' :=
  fun name hname => h' name (h name hname)

theorem Grows.of_eq (h : d'.matrices = d.matrices) : d.Grows d' := by
  intro name hname
  rwa [h]

theorem Grows.put {key : Json} {m : Matrix} (h : d'.matrices = d.matrices.put key m) :
    d.Grows d' := by
  intro name hname
  rw [h, Roster.has_put, hname, Bool.or_true]

/-- A matrix stays where another one is taken away. -/
theorem has_others_of_ne {name : String} {key : Json} (hhas : d.matrices.has (.str name))
    (hother : ¬ (Json.str name).equals key) : (d.others key).has (.str name) := by
  rw [Json.str_equals, BEq.comm] at hother
  rw [others]
  split
  · exact hhas
  · rw [Roster.has_erase, hhas, Bool.and_true]
    simpa using hother

end Drawing

namespace Command

variable {d : Drawing} {cs : List Char} {effect : Effect}

theorem grows_execute (h : execute d cs = .ok effect) : d.Grows (effect.drawing.getD d) := by
  have hdone := done_of_execute h
  generalize effect.drawing = found at hdone
  cases hdone with
  | define | value => exact .put rfl
  | arrow | tint => exact .of_eq rfl
  | untint r => exact .of_eq (d.matrices_clearTint r)

/-- No command takes a matrix away, and so no batch does. -/
theorem grows_runBatch (d : Drawing) (text : String) : d.Grows (runBatch d text).drawing :=
  runLines_relates Drawing.Grows.refl Drawing.Grows.trans grows_execute d 1 _

end Command

/-! ## 3. The selection of a matrix that is there -/

namespace Scene

/-- The matrix that is selected is there, or none is selected. -/
def SelectionFound (s : Scene) : Prop :=
  s.selection.matrix = .null ∨
    ∃ name : String, s.selection.matrix = .str name ∧ s.matrices.has (.str name)

variable {s s' : Scene}

/-- Where the selection stays, it is enough that the matrix that is selected does. -/
theorem SelectionFound.keep (h : s.SelectionFound)
    (hsame : s'.selection.matrix = s.selection.matrix)
    (hkeeps : ∀ name : String, s.selection.matrix = .str name → s.matrices.has (.str name) →
      s'.matrices.has (.str name)) : s'.SelectionFound := by
  rw [SelectionFound, hsame]
  rcases h with hnull | ⟨name, hname, hhas⟩
  · exact Or.inl hnull
  · exact Or.inr ⟨name, hname, hkeeps name hname hhas⟩

theorem SelectionFound.grow (h : s.SelectionFound)
    (hsame : s'.selection.matrix = s.selection.matrix)
    (hgrows : s.toDrawing.Grows s'.toDrawing) : s'.SelectionFound :=
  h.keep hsame fun name _ => hgrows name

theorem SelectionFound.of_eq (h : s.SelectionFound)
    (hsame : s'.selection.matrix = s.selection.matrix) (hmatrices : s'.matrices = s.matrices) :
    s'.SelectionFound :=
  h.grow hsame (.of_eq hmatrices)

theorem SelectionFound.hover (h : s.SelectionFound) (r : Option CellRef) :
    (s.hover r).SelectionFound := by
  unfold Scene.hover
  split
  · exact h
  · exact h

/-- A name that is found can be selected, since names are texts. -/
theorem selectionFound_select {P : String → Matrix → Prop} (hs : s.toDrawing.Entries P)
    {name : Json} {m : Matrix} (hm : s.matrices.find? name = some m) :
    (s.select .matrix name).SelectionFound := by
  obtain ⟨text, rfl, _⟩ := hs.of_find? hm
  exact Or.inr ⟨text, rfl, Drawing.has_of_find? hm⟩

end Scene

namespace Change

variable {s : Scene} {change : Change}

theorem define_selectionFound {f : MatrixForm} {noise : Noise}
    (h : define s f noise = .ok change) : (change.scene.getD s).SelectionFound := by
  obtain ⟨name, _, _, _, _, _, _, _, _, hscene⟩ := define_eq_ok h
  rw [hscene]
  refine Or.inr ⟨name, rfl, ?_⟩
  simp [Scene.select, Scene.withDrawing, Roster.has]

/-- A matrix that is renamed while it is selected stays selected, under the other name. -/
theorem rename_selectionFound (hs : s.SelectionFound) {old field : Json}
    (h : rename s old field = .ok change) : (change.scene.getD s).SelectionFound := by
  obtain ⟨new, found, _, hfound, hscene⟩ := rename_eq_ok h
  rw [hscene]
  cases found with
  | none => exact hs
  | some d =>
    obtain ⟨m, hm, _, rfl⟩ := Drawing.rename_eq_some hfound
    by_cases hselected : s.selection.matrix.equals old
    · refine Or.inr ⟨new, ?_, by simp [Roster.has]⟩
      simp [hselected, Selection.set]
    · refine hs.keep (by simp [hselected]) ?_
      intro name hname hhas
      rw [hname] at hselected
      simp [Roster.has_put, Drawing.has_others_of_ne hhas hselected]

/-- A matrix that is deleted while it is selected is selected no more. -/
theorem delete_selectionFound (hs : s.SelectionFound) {name : Json}
    (h : delete s name = .ok change) : (change.scene.getD s).SelectionFound := by
  obtain ⟨found, hfound, hscene⟩ := delete_scene h
  rw [hscene]
  split
  · exact Or.inl rfl
  · rename_i hother
    cases found with
    | none => exact hs
    | some d =>
      obtain ⟨_, rfl⟩ := Drawing.delete_eq_some hfound
      refine hs.keep rfl ?_
      intro selected hselected hhas
      rw [hselected] at hother
      exact Drawing.has_others_of_ne hhas hother

end Change

/-- **Every action leaves a matrix selected that is there**, or none. -/
theorem Action.selectionFound_apply {s : Scene} {a : Action} {change : Change}
    (hs : s.SelectionFound) (h : a.apply s = .ok change) :
    (change.scene.getD s).SelectionFound := by
  cases a with
  | define form noise => exact Change.define_selectionFound h
  | rename old field => exact Change.rename_selectionFound hs h
  | delete name => exact Change.delete_selectionFound hs h
  | move name x y =>
    obtain ⟨_, _, _, hscene⟩ := Change.move_eq_ok h
    rw [hscene]
    exact hs.grow rfl (.put rfl)
  | duplicate name =>
    obtain ⟨_, _, _, hscene⟩ := Change.duplicate_eq_ok h
    rw [hscene]
    exact hs.grow rfl (.put rfl)
  | editCell form =>
    obtain ⟨r, m, v, colour, _, hscene⟩ := Change.editCell_eq_ok h
    rw [hscene]
    exact hs.grow rfl (.put (Drawing.matrices_tint _ r colour))
  | tintRange form =>
    rcases Change.tintRange_eq_ok h with hscene | ⟨_, _, hscene⟩ | ⟨rs, colour, _, _, hscene⟩
    · rw [hscene]
      exact hs
    · rw [hscene]
      exact hs.of_eq rfl rfl
    · have hput := Drawing.foldl_putTint_cells rs colour s.toDrawing
      rw [hscene, hput]
      exact hs.of_eq rfl rfl
  | saveArrow form =>
    obtain ⟨_, _, _, _, hscene⟩ := Change.saveArrow_eq_ok h
    rw [hscene]
    exact hs.of_eq rfl rfl
  | updateArrow index form =>
    obtain ⟨_, _, _, _, hscene⟩ := Change.updateArrow_eq_ok h
    rw [hscene]
    exact hs.of_eq rfl rfl
  | deleteArrow index =>
    obtain ⟨_, hscene⟩ := Change.deleteArrow_eq_ok h
    rw [hscene]
    exact hs.of_eq rfl rfl
  | updateTint index t =>
    obtain ⟨d, _, hd, hscene⟩ := Change.updateTint_eq_ok h
    have hmatrices : d.matrices = s.matrices := by
      rcases Drawing.updateTint_eq_ok hd with ⟨_, _, _, rfl⟩ | ⟨_, rfl⟩
      · rfl
      · rfl
    rw [hscene]
    split
    · exact hs.of_eq rfl hmatrices
    · exact hs.of_eq rfl hmatrices
  | deleteTint index =>
    obtain ⟨_, hscene⟩ := Change.deleteTint_eq_ok h
    rw [hscene]
    exact hs.of_eq rfl rfl

/-! ## 4. Sessions -/

/-- A matrix that is found under a point is one of those that are there. -/
theorem Drawing.find?_of_matrixAt {K : Type} [Coordinate K] {d : Drawing} {v : Viewport K}
    {p : Point K} {name : Json} (h : d.matrixAt v p = .ok (some name)) :
    ∃ m, d.matrices.find? name = some m := by
  simp only [matrixAt, bind_eq_ok] at h
  obtain ⟨es, hes, h⟩ := h
  obtain ⟨before, e, behind, rfl, hask, _⟩ := firstAnswer_eq_some h
  obtain ⟨covers, _, hname⟩ := bind_eq_ok.mp hask
  cases covers with
  | false => cases hname
  | true =>
    obtain rfl := Option.some.inj (Except.ok.inj hname)
    have hmem := (Sorting.perm_of_sort hes).mem_iff.mp
      (List.mem_append_right before List.mem_cons_self)
    exact ⟨e.2, Roster.find?_of_mem hmem⟩

namespace Session

variable {K : Type}

theorem selectable_eq_ok {s : Session K} {name : Json} (h : s.selectable name = .ok ()) :
    name = .null ∨ ∃ m, s.scene.matrices.find? name = some m := by
  unfold selectable at h
  split at h
  · rename_i hnull
    cases name with
    | null => exact Or.inl rfl
    | bool | num | str | arr | obj => exact nomatch hnull
  · obtain ⟨m, hm, _⟩ := bind_eq_ok.mp h
    exact Or.inr ⟨m, Drawing.matrix_eq_ok hm⟩

/-- A step back or forward leaves what is selected. -/
theorem selection_travel (s : Session K) (step : Option (Scene × History Scene String)) :
    (s.travel step).session.scene.selection = s.scene.selection := by
  cases step with
  | none => rfl
  | some => rfl

variable [Coordinate K]

/-- What deleting does to the session, whatever it answers. -/
def withoutMatrix (s : Session K) (name : String) : Session K :=
  (s.step (.act (.delete (.str name)))).session

/-- **Deleting a matrix that is not there leaves what is drawn, and the steps that can be undone and
redone unless the name is selected.** -/
theorem withoutMatrix_absent {s : Session K} {name : String}
    (h : s.scene.matrices.has (.str name) = false) :
    (s.withoutMatrix name).scene.toDrawing = s.scene.toDrawing ∧
      ((s.withoutMatrix name).snapshots = s.snapshots ↔
        s.scene.selection.matrix ≠ .str name) := by
  by_cases hselected : s.scene.selection.matrix = .str name
  · have hdelete := Change.delete_of_selected h hselected
    simp only [withoutMatrix, step, act, Action.apply, hdelete]
    refine ⟨rfl, iff_of_false ?_ (not_not_intro hselected)⟩
    intro hsame
    have hlength := congrArg (fun h => h.done.length) hsame
    simp [commit, History.record] at hlength
  · have hdelete := Change.delete_of_not_selected h hselected
    simp only [withoutMatrix, step, act, Action.apply, hdelete]
    exact ⟨rfl, iff_of_true rfl hselected⟩

/-- Whatever matrix that is not there is deleted, the steps that can be undone and redone stay. -/
def SparesSteps (s : Session K) : Prop :=
  ∀ name : String, s.scene.matrices.has (.str name) = false →
    (s.withoutMatrix name).snapshots = s.snapshots

theorem sparesSteps_iff {s : Session K} : s.SparesSteps ↔
    ∀ name : String, s.scene.selection.matrix = .str name → s.scene.matrices.has (.str name) := by
  constructor
  · intro hs name hselected
    by_contra habsent
    rw [Bool.not_eq_true] at habsent
    exact (withoutMatrix_absent habsent).2.mp (hs name habsent) hselected
  · intro hs name habsent
    refine (withoutMatrix_absent habsent).2.mpr fun hselected => ?_
    rw [hs name hselected] at habsent
    exact nomatch habsent

theorem sparesSteps_of_found {s : Session K} (h : s.scene.SelectionFound) : s.SparesSteps := by
  rw [sparesSteps_iff]
  intro name hselected
  rcases h with hnull | ⟨name', hname', hhas⟩
  · exact nomatch hnull.symm.trans hselected
  · obtain rfl := Json.str.inj (hname'.symm.trans hselected)
    exact hhas

/-- The operation goes a step back or forward, to a drawing without the matrix that is selected. -/
def Orphans (s : Session K) (op : Op K) : Prop :=
  (op = .undo ∨ op = .redo) ∧ ∃ name : String, s.scene.selection.matrix = .str name ∧
    s.scene.matrices.has (.str name) = true ∧
    (s.step op).session.scene.matrices.has (.str name) = false

theorem selection_step_of_move (s : Session K) {op : Op K} (h : op = .undo ∨ op = .redo) :
    (s.step op).session.scene.selection = s.scene.selection := by
  rcases h with rfl | rfl
  · exact s.selection_travel _
  · exact s.selection_travel _

/-- An operation that makes an orphan leaves steps that would not be spared. -/
theorem not_sparesSteps_of_orphans {s : Session K} {op : Op K} (h : s.Orphans op) :
    ¬ (s.step op).session.SparesSteps := by
  obtain ⟨hmove, name, hselected, _, habsent⟩ := h
  rw [sparesSteps_iff]
  intro hall
  have hselection := s.selection_step_of_move hmove
  have hhas := hall name (by rw [hselection, hselected])
  rw [habsent] at hhas
  exact nomatch hhas

theorem selectionFound_of_not_orphans {s : Session K} {op : Op K} (hs : s.scene.SelectionFound)
    (hmove : op = .undo ∨ op = .redo) (h : ¬ s.Orphans op) :
    (s.step op).session.scene.SelectionFound := by
  refine hs.keep (congrArg Selection.matrix (s.selection_step_of_move hmove)) ?_
  intro name hname hhas
  by_contra habsent
  rw [Bool.not_eq_true] at habsent
  exact h ⟨hmove, name, hname, hhas, habsent⟩

/-- A batch takes no matrix away, and selects none. -/
theorem grows_run (s : Session K) (source : Json) :
    s.scene.toDrawing.Grows (s.step (.run source)).session.scene.toDrawing := by
  have hrecord := congrArg Prod.fst (s.step_event (.run source))
  simp only [record, event] at hrecord
  rw [hrecord]
  cases source.typedLines with
  | error f => exact .refl _
  | ok text =>
    dsimp only [runEvent]
    split
    · exact Command.grows_runBatch _ text
    · exact .refl _

theorem selectionFound_step {P : String → Matrix → Prop} {s : Session K} {op : Op K}
    (hentries : s.scene.toDrawing.Entries P) (hs : s.scene.SelectionFound) (h : ¬ s.Orphans op) :
    (s.step op).session.scene.SelectionFound := by
  cases op with
  | act a =>
    simp only [step, act]
    cases happly : a.apply s.scene with
    | error f => exact hs
    | ok change =>
      dsimp only
      rw [scene_commit]
      exact Action.selectionFound_apply hs happly
  | run source =>
    have hselection := (s.scene_run source).2
    exact hs.grow (congrArg Selection.matrix hselection) (s.grows_run source)
  | undo => exact selectionFound_of_not_orphans hs (Or.inl rfl) h
  | redo => exact selectionFound_of_not_orphans hs (Or.inr rfl) h
  | selectMatrix name =>
    simp only [step, selectMatrix]
    cases hname : s.selectable name with
    | error f => exact hs
    | ok _ =>
      rcases selectable_eq_ok hname with rfl | ⟨m, hm⟩
      · exact Or.inl rfl
      · exact Scene.selectionFound_select hentries hm
  | doubleClick p =>
    simp only [step, doubleClick]
    cases hname : p.read >>= s.scene.matrixAt s.view with
    | error f => exact hs
    | ok found =>
      cases found with
      | none => exact hs
      | some name =>
        obtain ⟨q, _, hfound⟩ := bind_eq_ok.mp hname
        obtain ⟨m, hm⟩ := Drawing.find?_of_matrixAt hfound
        exact Scene.selectionFound_select hentries hm
  | reset | newScene => exact Or.inl rfl
  | importDocument data =>
    simp only [step, importDocument]
    cases Document.read data with
    | error f => exact hs
    | ok d => exact Or.inl rfl
  | loadFile path opened =>
    simp only [step, loadFile]
    cases opened.bind readFile with
    | error f => exact hs
    | ok d => exact Or.inl rfl
  | saveFile path opened =>
    simp only [step, saveFile]
    split
    · exact hs
    · split
      · exact hs
      · exact hs
  | pointerMove p =>
    simp only [step, pointerMove]
    split
    · exact hs
    · exact hs
    · split
      · exact hs
      · split
        · exact hs
        · exact hs.hover _
  | pointerLeave =>
    simp only [step, pointerLeave]
    split
    · exact hs.hover _
    · exact hs
  | clearTranscript | selectArrow | selectTint | toggleTheme | beginPan | endPan | wheel
  | resetView => exact hs.of_eq rfl rfl

/-- **Deleting a matrix that is not there leaves what is drawn in every state of a run; and it
leaves the steps that can be undone and redone exactly as long as no step back or forward goes to a
drawing without the matrix that is selected.** -/
theorem absent_deletions_iff (ops : List (Op K)) :
    (∀ s ∈ (opening : Session K).states ops, ∀ name : String,
        s.scene.matrices.has (.str name) = false →
          (s.withoutMatrix name).scene.toDrawing = s.scene.toDrawing) ∧
      ((∀ s ∈ (opening : Session K).states ops, s.SparesSteps) ↔
        ∀ e ∈ (opening : Session K).turns ops, ¬ e.1.Orphans e.2) := by
  constructor
  · intro s _ name habsent
    exact (withoutMatrix_absent habsent).1
  · -- names are texts all along, which selecting one relies on
    refine states_iff (I := fun s => s.Keeps Drawing.Regular ∧ s.scene.SelectionFound)
      (Q := fun _ => True) ?_ ?_ ?_ ?_ fun _ _ => trivial
    · intro s hs
      exact sparesSteps_of_found hs.2
    · intro s op _ hs hop
      exact ⟨regular_step hs.1 op, selectionFound_step hs.1.1 hs.2 hop⟩
    · intro s op _ hop
      exact not_sparesSteps_of_orphans hop
    · exact ⟨keeps_start (Scene.entries_initial Matrix.robust_storable), Or.inl rfl⟩

/-! ### A definition that is undone -/

/-- The form for a matrix of one cell. -/
def smallForm : MatrixForm where
  name := .str "C"
  rows := .num (.int 1)
  cols := .num (.int 1)

/-- Defines a matrix, which is selected by that, and takes the definition back. -/
def orphaningRun : List (Op K) :=
  [.act (.define smallForm fun _ _ => 0), .undo]

/-- The matrix is gone and its name is selected. -/
theorem orphan_after_undo :
    ((opening : Session Rat).after orphaningRun).scene.matrices.has (.str "C") = false ∧
      ((opening : Session Rat).after orphaningRun).scene.selection.matrix = .str "C" :=
  ⟨rfl, rfl⟩

/-- Deleting it now is recorded, and the definition cannot be redone. -/
theorem step_recorded_for_absent :
    ¬ ∀ (ops : List (Op Rat)) (name : String),
      let s := (opening : Session Rat).after ops
      s.scene.matrices.has (.str name) = false →
        (s.withoutMatrix name).scene.toDrawing = s.scene.toDrawing ∧
          (s.withoutMatrix name).snapshots = s.snapshots := by
  intro h
  obtain ⟨habsent, hselected⟩ := orphan_after_undo
  obtain ⟨_, hsame⟩ := h orphaningRun "C" habsent
  exact (withoutMatrix_absent habsent).2.mp hsame hselected

end Session

end GridSketch
