import GridSketch.Proofs.Session.Selection
import Mathlib.Data.Option.Defs

/-!
# One piece of work under two looks

A session is looked at in many ways: under a theme, with a cell under the pointer and a tint
selected, through a view that may be dragged, next to a transcript and under the name of a file. The
first three of these are kept in the snapshots of its history too. None of them has a say in what is
done to the drawing. Two of the selections do: saving an arrow replaces the selected one, and
deleting a matrix takes back the selection of it, which is recorded even where there is no matrix to
delete. So sessions that share the drawing, what is drawn in the snapshots, and these two selections
have the same *work* before them (`Session.SameWork`), however they are looked at.

An action does the same to two scenes with the same work: it is refused for the same fault, or its
changes leave the same work again (`Action.alike_apply`, one lemma for each action). A step of a
session therefore answers the same and leaves the same work (`step_sameWork`), and by induction so
does a run: `reports_eq_of_sameWork` says that nothing that is reported of the work tells the two
sessions apart.
-/

set_option autoImplicit false

namespace GridSketch

/-! ## 1. Scenes and changes -/

namespace Scene

/-- The drawing is the same, and so are the selections of a matrix and of an arrow. -/
structure SameWork (s s' : Scene) : Prop where
  drawing : s'.toDrawing = s.toDrawing
  matrix : s'.selection.matrix = s.selection.matrix
  arrow : s'.selection.arrow = s.selection.arrow

namespace SameWork

variable {s s' : Scene}

theorem withDrawing (h : s.SameWork s') (d : Drawing) :
    (s.withDrawing d).SameWork (s'.withDrawing d) :=
  ⟨rfl, h.matrix, h.arrow⟩

theorem select (h : s.SameWork s') (slot : Slot) (value : Json) :
    (s.select slot value).SameWork (s'.select slot value) := by
  cases slot with
  | matrix => exact ⟨h.drawing, rfl, h.arrow⟩
  | arrow => exact ⟨h.drawing, h.matrix, rfl⟩
  | tint => exact ⟨h.drawing, h.matrix, h.arrow⟩

theorem getD (h : s.SameWork s') {found found' : Option Scene}
    (hfound : Option.Rel SameWork found found') : (found.getD s).SameWork (found'.getD s') := by
  cases hfound with
  | some hscene => exact hscene
  | none => exact h

end SameWork

end Scene

/-- Two changes have the same label and have chosen the same name, and both leave a scene with the
same work or neither leaves one. -/
structure Change.SameWork (c c' : Change) : Prop where
  label : c'.label = c.label
  chosen : c'.chosen = c.chosen
  scene : Option.Rel Scene.SameWork c.scene c'.scene

/-- Two attempts come to related results, or are refused for the same fault. -/
inductive Alike {α : Type} (R : α → α → Prop) : Except Fault α → Except Fault α → Prop where
  | ok {a b : α} (h : R a b) : Alike R (.ok a) (.ok b)
  | error (f : Fault) : Alike R (.error f) (.error f)

/-- Attempts that start with the same step are alike if they go on alike. -/
theorem Alike.bind {α β : Type} {R : α → α → Prop} {x : Except Fault β}
    {f g : β → Except Fault α} (h : ∀ b, Alike R (f b) (g b)) : Alike R (x >>= f) (x >>= g) := by
  cases x with
  | error fault => exact .error fault
  | ok b => exact h b

/-! ## 2. Actions -/

namespace Change

variable {s s' : Scene}

theorem alike_define (h : s.SameWork s') (form : MatrixForm) (noise : Noise) :
    Alike SameWork (define s form noise) (define s' form noise) := by
  unfold define
  rw [h.drawing]
  refine .bind fun name => .bind fun values => .bind fun rows => .bind fun cols => ?_
  refine .bind fun x => .bind fun y => .bind fun d => ?_
  exact .ok ⟨rfl, rfl, .some ((h.withDrawing d).select .matrix _)⟩

theorem alike_move (h : s.SameWork s') (name x y : Json) :
    Alike SameWork (move s name x y) (move s' name x y) := by
  unfold move
  rw [h.drawing]
  refine .bind fun m => .bind fun shown => .bind fun x => .bind fun y => .bind fun d => ?_
  exact .ok ⟨rfl, rfl, .some (h.withDrawing d)⟩

/-- What is under the pointer takes the new name too, and that is not part of the work. -/
theorem alike_rename (h : s.SameWork s') (old field : Json) :
    Alike SameWork (rename s old field) (rename s' old field) := by
  unfold rename Scene.rename
  rw [h.drawing, h.matrix]
  simp only [bind_assoc, pure_bind]
  refine .bind fun name => .bind fun shown => .bind fun found => .ok ⟨rfl, rfl, ?_⟩
  cases found with
  | none => exact .none
  | some d =>
    refine .some ⟨rfl, ?_, ?_⟩
    · dsimp only
      split
      · rfl
      · exact h.matrix
    · dsimp only
      split
      · exact h.arrow
      · exact h.arrow

theorem alike_delete (h : s.SameWork s') (name : Json) :
    Alike SameWork (delete s name) (delete s' name) := by
  unfold delete
  rw [h.drawing, h.matrix]
  refine .bind fun found => .bind fun shown => .ok ⟨rfl, rfl, ?_⟩
  have hfound : Option.Rel Scene.SameWork (found.map s.withDrawing) (found.map s'.withDrawing) := by
    cases found with
    | none => exact .none
    | some d => exact .some (h.withDrawing d)
  dsimp only
  split
  · exact .some ((h.getD hfound).select .matrix .null)
  · exact hfound

theorem alike_duplicate (h : s.SameWork s') (name : Json) :
    Alike SameWork (duplicate s name) (duplicate s' name) := by
  unfold duplicate
  rw [h.drawing]
  refine .bind fun m => .bind fun shown => .bind fun d => ?_
  exact .ok ⟨rfl, rfl, .some (h.withDrawing d)⟩

theorem alike_editCell (h : s.SameWork s') (form : CellForm) :
    Alike SameWork (editCell s form) (editCell s' form) := by
  unfold editCell
  rw [h.drawing]
  refine .bind fun row => .bind fun col => .bind fun m => .bind fun text => .bind fun v => ?_
  refine .bind fun d => .bind fun colour => .bind fun shown => ?_
  exact .ok ⟨rfl, rfl, .some ((h.withDrawing _).select .tint .null)⟩

theorem corner_eq (h : s.SameWork s') (matrix given : Json) (role : String) :
    corner s' matrix given role = corner s matrix given role := by
  unfold corner
  rw [h.drawing]

theorem alike_tintRange (h : s.SameWork s') (form : RangeForm) :
    Alike SameWork (tintRange s form) (tintRange s' form) := by
  unfold tintRange
  rw [corner_eq h, corner_eq h, h.drawing]
  refine .bind fun start => .bind fun stop => .bind fun colour => .bind fun name => ?_
  refine .bind fun range => .ok ⟨rfl, rfl, ?_⟩
  dsimp only
  generalize (if Tint.isNone _ then _ else _ : Option Drawing) = found
  cases found with
  | none => exact .none
  | some d => exact .some (h.withDrawing d)

/-- The selection of an arrow decides which arrow is replaced, and goes into the label. -/
theorem alike_saveArrow (h : s.SameWork s') (form : ArrowForm) :
    Alike SameWork (saveArrow s form) (saveArrow s' form) := by
  unfold saveArrow
  rw [h.drawing, h.arrow]
  refine .bind fun a => ?_
  have hsaved : ∀ d label chosen, Change.SameWork
      ⟨some ((s.withDrawing d).select .arrow .null), label, chosen⟩
      ⟨some ((s'.withDrawing d).select .arrow .null), label, chosen⟩ :=
    fun d _ _ => ⟨rfl, rfl, .some ((h.withDrawing d).select .arrow .null)⟩
  dsimp only
  split
  all_goals
    refine .bind fun index => ?_
    cases index with
    | none => exact .bind fun source => .bind fun target => .ok (hsaved _ _ _)
    | some i => exact .bind fun shown => .ok (hsaved _ _ _)

theorem alike_updateArrow (h : s.SameWork s') (index : Json) (form : ArrowForm) :
    Alike SameWork (updateArrow s index form) (updateArrow s' index form) := by
  unfold updateArrow
  rw [h.drawing]
  refine .bind fun a => .bind fun shown => .bind fun d => ?_
  exact .ok ⟨rfl, rfl, .some (h.withDrawing d)⟩

theorem alike_deleteArrow (h : s.SameWork s') (index : Json) :
    Alike SameWork (deleteArrow s index) (deleteArrow s' index) := by
  unfold deleteArrow
  rw [h.drawing]
  refine .bind fun d => .bind fun shown => ?_
  exact .ok ⟨rfl, rfl, .some ((h.withDrawing d).select .arrow .null)⟩

theorem alike_updateTint (h : s.SameWork s') (index : Json) (t : Tint) :
    Alike SameWork (updateTint s index t) (updateTint s' index t) := by
  unfold updateTint
  rw [h.drawing]
  refine .bind fun m => .bind fun d => .bind fun shown => .ok ⟨rfl, rfl, ?_⟩
  dsimp only
  split
  · exact .some (h.withDrawing d)
  · exact .some ((h.withDrawing d).select .tint .null)

theorem alike_deleteTint (h : s.SameWork s') (index : Json) :
    Alike SameWork (deleteTint s index) (deleteTint s' index) := by
  unfold deleteTint
  rw [h.drawing]
  refine .bind fun d => .bind fun shown => ?_
  exact .ok ⟨rfl, rfl, .some ((h.withDrawing d).select .tint .null)⟩

end Change

/-- **An action does the same to two scenes with the same work.** -/
theorem Action.alike_apply {s s' : Scene} (h : s.SameWork s') (a : Action) :
    Alike Change.SameWork (a.apply s) (a.apply s') := by
  cases a with
  | define form noise => exact Change.alike_define h form noise
  | move name x y => exact Change.alike_move h name x y
  | rename old field => exact Change.alike_rename h old field
  | delete name => exact Change.alike_delete h name
  | duplicate name => exact Change.alike_duplicate h name
  | editCell form => exact Change.alike_editCell h form
  | tintRange form => exact Change.alike_tintRange h form
  | saveArrow form => exact Change.alike_saveArrow h form
  | updateArrow index form => exact Change.alike_updateArrow h index form
  | deleteArrow index => exact Change.alike_deleteArrow h index
  | updateTint index t => exact Change.alike_updateTint h index t
  | deleteTint index => exact Change.alike_deleteTint h index

/-! ## 3. Sessions -/

/-- What an operation shows of the work: its answer, how often the watchers were told, the drawing
after it, and what is offered for undoing and redoing. -/
structure Report (K : Type) where
  answer : Except Fault (Answer K)
  notices : Notices
  drawing : Drawing
  canUndo : Bool
  canRedo : Bool
  undoLabel? : Option String
  redoLabel? : Option String

namespace Session

variable {K : Type}

/-- The scenes have the same work, and what was drawn before and after each step is the same. The
looks of the snapshots, the view and a drag of it, the transcript and the path of the file may be
any. -/
structure SameWork (s s' : Session K) : Prop where
  scene : s.scene.SameWork s'.scene
  history : s'.history = s.history

end Session

namespace Turn

variable {K : Type}

def report (t : Turn K) : Report K where
  answer := t.answer
  notices := t.notices
  drawing := t.session.scene.toDrawing
  canUndo := t.session.history.canUndo
  canRedo := t.session.history.canRedo
  undoLabel? := t.session.history.undoLabel?
  redoLabel? := t.session.history.redoLabel?

/-- The answers are the same, as many were told, and the work is the same afterwards. -/
structure SameWork (t t' : Turn K) : Prop where
  session : t.session.SameWork t'.session
  notices : t'.notices = t.notices
  answer : t'.answer = t.answer

theorem SameWork.report_eq {t t' : Turn K} (h : t.SameWork t') : t'.report = t.report := by
  unfold report
  rw [h.answer, h.notices, h.session.scene.drawing, h.session.history]

end Turn

namespace Session

variable {K : Type}

/-- An operation that works on the drawing: an action, a batch of commands, or a step along the
history. -/
inductive Op.IsWork : Op K → Prop
  | edit {op : Op K} (h : op.IsEdit) : IsWork op
  | undo : IsWork .undo
  | redo : IsWork .redo

variable {s s' : Session K}

theorem sameWork_quiet (h : s.SameWork s') (answer : Answer K) :
    (s.quiet answer).SameWork (s'.quiet answer) :=
  ⟨h, rfl, rfl⟩

theorem sameWork_refuse (h : s.SameWork s') (f : Fault) : (s.refuse f).SameWork (s'.refuse f) :=
  ⟨h, rfl, rfl⟩

theorem sameWork_announce (h : s.SameWork s') (answer : Answer K) :
    (s.announce answer).SameWork (s'.announce answer) :=
  ⟨h, rfl, rfl⟩

theorem history_commit (s : Session K) (new : Scene) (label : String) (answer : Answer K) :
    (s.commit (some new) label answer).session.history =
      s.history.record ⟨s.scene.toDrawing, new.toDrawing, label⟩ :=
  rfl

/-- The snapshots that are recorded have the looks of either scene, and the same drawings. -/
theorem sameWork_commit (h : s.SameWork s') {scene scene' : Option Scene}
    (hscene : Option.Rel Scene.SameWork scene scene') (label : String) (answer : Answer K) :
    (s.commit scene label answer).SameWork (s'.commit scene' label answer) := by
  cases hscene with
  | none => exact sameWork_quiet h answer
  | some hnew =>
    refine ⟨⟨hnew, ?_⟩, rfl, rfl⟩
    rw [history_commit, history_commit, h.history, h.scene.drawing, hnew.drawing]

theorem sameWork_act (h : s.SameWork s') (a : Action) : (s.act a).SameWork (s'.act a) := by
  have halike := Action.alike_apply h.scene a
  unfold act
  generalize a.apply s.scene = result at halike
  generalize a.apply s'.scene = result' at halike
  cases halike with
  | error f => exact sameWork_refuse h f
  | ok hchange =>
    simp only [hchange.label, hchange.chosen]
    exact sameWork_commit h hchange.scene _ _

/-- A batch is run on the drawing alone, and the transcript that it is added to is not read. -/
theorem sameWork_runText (h : s.SameWork s') (shown text : String) :
    (s.runText shown text).SameWork (s'.runText shown text) := by
  unfold runText
  rw [h.scene.drawing]
  generalize Command.runBatch s.scene.toDrawing text = r
  have hs : SameWork { s with transcript := s.transcript ++ r.transcript shown text }
      { s' with transcript := s'.transcript ++ r.transcript shown text } := ⟨h.scene, h.history⟩
  dsimp only
  split
  · exact sameWork_refuse hs _
  · split
    · refine sameWork_commit hs ?_ _ _
      split
      · exact .some (h.scene.withDrawing _)
      · exact .none
    · exact sameWork_announce hs _

theorem sameWork_run (h : s.SameWork s') (source : Json) :
    (s.run source).SameWork (s'.run source) := by
  unfold run
  split
  · exact sameWork_runText h _ _
  · exact sameWork_refuse h _

/-- Of a snapshot only the drawing is put back, under whatever look the scene has. -/
theorem sameWork_travel (h : s.SameWork s') {step step' : Option (Scene × History Scene String)}
    (hstep : step'.map drawn = step.map drawn) : (s.travel step).SameWork (s'.travel step') := by
  cases step with
  | none =>
    obtain rfl := Option.map_eq_none_iff.mp hstep
    exact sameWork_quiet h _
  | some step =>
    obtain ⟨step', rfl, hdrawn⟩ := Option.map_eq_some_iff.mp hstep
    obtain ⟨hsnapshot, hsnapshots⟩ := Prod.mk.inj hdrawn
    refine ⟨⟨?_, hsnapshots⟩, rfl, rfl⟩
    simp only [travel]
    rw [hsnapshot]
    exact h.scene.withDrawing _

variable [Coordinate K]

/-- **A step on the drawing does the same under every look.** -/
theorem step_sameWork (h : s.SameWork s') {op : Op K} (hop : op.IsWork) :
    (s.step op).SameWork (s'.step op) := by
  cases hop with
  | edit hedit =>
    cases hedit with
    | act a => exact sameWork_act h a
    | run source => exact sameWork_run h source
  | undo =>
    refine sameWork_travel h ?_
    rw [← undo?_history, ← undo?_history, h.history]
  | redo =>
    refine sameWork_travel h ?_
    rw [← redo?_history, ← redo?_history, h.history]

/-- What the operations of a run show of the work, one after the other. -/
def reports (s : Session K) : List (Op K) → List (Report K)
  | [] => []
  | op :: ops => (s.step op).report :: (s.step op).session.reports ops

/-- **How a session is looked at has no say in what is done to the drawing.** As long as the drawing
is worked on, sessions that start with the same work show the same of it at every step. -/
theorem reports_eq_of_sameWork (h : s.SameWork s') {ops : List (Op K)}
    (hops : ∀ op ∈ ops, op.IsWork) : s'.reports ops = s.reports ops := by
  induction ops generalizing s s' with
  | nil => rfl
  | cons op ops ih =>
    obtain ⟨hop, hrest⟩ := List.forall_mem_cons.mp hops
    have hstep := step_sameWork h hop
    simp only [reports]
    rw [hstep.report_eq, ih hstep.session hrest]

/-- The opening session as someone else looks at it: in the dark, zoomed in and with a drag under
way, a cell under the pointer and its tint selected, next to a transcript and a file. -/
def elsewhere : Session Rat :=
  { scene :=
      { toDrawing := Scene.initial, theme := .dark, selection.tint := .num (.int 0)
        hovered := some (.ofText "A" 1 1) }
    view := Viewport.initial.zoom true
    drag := .press ⟨0, 0⟩
    transcript := ["> A[0][0] = 1"]
    snapshots := {}
    file := some "sketch.json" }

/-- A matrix is copied, which leaves snapshots that look like the session it is done in. -/
def copied (s : Session Rat) : Session Rat :=
  (s.step (.act (.duplicate (.str "A")))).session

/-- The value of the tinted cell is set and its tint taken away, which is undone, and so is the
step before that. Then a batch is run, with a line that is refused, and undone and redone. -/
def errands : List (Op Rat) :=
  [ .act (.editCell
      { matrix := .str "A", row := .num (.int 1), col := .num (.int 1), value := .str "7"
        colour := .str "none" }),
    .undo, .undo, .run (.str "A[0][0] = 1\nA[0] = 2"), .undo, .redo ]

/-- They show the same in the opening session and elsewhere, though the snapshots do not. -/
theorem reports_errands :
    (copied opening).snapshots ≠ (copied elsewhere).snapshots ∧
      (copied opening).SameWork (copied elsewhere) ∧ (∀ op ∈ errands, op.IsWork) ∧
      (copied elsewhere).reports errands = (copied opening).reports errands := by
  have hopening : (opening : Session Rat).SameWork elsewhere := ⟨⟨rfl, rfl, rfl⟩, rfl⟩
  have hwork : (copied opening).SameWork (copied elsewhere) :=
    (step_sameWork hopening (.edit (.act _))).session
  have hops : ∀ op ∈ errands, op.IsWork := by
    simp only [errands, List.forall_mem_cons]
    exact ⟨.edit (.act _), .undo, .undo, .edit (.run _), .undo, .redo, nofun⟩
  refine ⟨?_, hwork, hops, reports_eq_of_sameWork hwork hops⟩
  intro hsame
  have hthemes : some Theme.light = some Theme.dark :=
    congrArg (fun h => h.done.head?.map fun e => e.before.theme) hsame
  exact nomatch hthemes

end Session

end GridSketch
