import GridSketch.Proofs.Session.Selection
import Mathlib.Algebra.Group.Nat.Even

/-!
# What changes how a session is viewed

The theme and the cell under the pointer are part of the scene, next to the drawing. So whatever puts
another scene in the place of the session's could change them by the way: a batch, a document that
is loaded, a step back to a snapshot that was taken under another theme. None of them does. The
theme is what it was at first if it was toggled an even number of times, and else the other one.
The scale, the offset and the cell under the pointer are changed by the operations that are there
for it (`Session.MovesView`, `Session.MovesHover`). `Session.viewing_after` says so of every run.

Whatever an action does to a scene, it leaves the theme alone, and the cell under the pointer too
unless it gives the matrix of that cell another name (`Action.viewed_of_apply`, one lemma for each
action). A batch and a step along the history change no more than the drawing.
-/

set_option autoImplicit false

namespace GridSketch

/-! ## 1. Scenes -/

/-- The theme and the cell under the pointer are the same. -/
structure Scene.SameViewing (s s' : Scene) : Prop where
  theme : s'.theme = s.theme
  hovered : s'.hovered = s.hovered

namespace Scene.SameViewing

variable {s s' : Scene}

theorem refl (s : Scene) : s.SameViewing s :=
  ⟨rfl, rfl⟩

theorem withDrawing (s : Scene) (d : Drawing) : s.SameViewing (s.withDrawing d) :=
  ⟨rfl, rfl⟩

theorem select (h : s.SameViewing s') (slot : Slot) (value : Json) :
    s.SameViewing (s'.select slot value) :=
  ⟨h.theme, h.hovered⟩

end Scene.SameViewing

/-! ## 2. Actions -/

namespace Change

open Scene (SameViewing)

variable {s : Scene} {change : Change}

theorem define_sameViewing {f : MatrixForm} {noise : Noise} (h : define s f noise = .ok change) :
    s.SameViewing (change.scene.getD s) := by
  obtain ⟨_, _, _, _, _, _, _, _, _, hscene⟩ := define_eq_ok h
  rw [hscene]
  exact (SameViewing.withDrawing s _).select .matrix _

theorem move_sameViewing {name x y : Json} (h : move s name x y = .ok change) :
    s.SameViewing (change.scene.getD s) := by
  obtain ⟨_, _, _, hscene⟩ := move_eq_ok h
  rw [hscene]
  exact SameViewing.withDrawing s _

theorem duplicate_sameViewing {name : Json} (h : duplicate s name = .ok change) :
    s.SameViewing (change.scene.getD s) := by
  obtain ⟨_, _, _, hscene⟩ := duplicate_eq_ok h
  rw [hscene]
  exact SameViewing.withDrawing s _

theorem delete_sameViewing {name : Json} (h : delete s name = .ok change) :
    s.SameViewing (change.scene.getD s) := by
  obtain ⟨found, _, hscene⟩ := delete_scene h
  have hfound : s.SameViewing ((found.map s.withDrawing).getD s) := by
    cases found with
    | none => exact SameViewing.refl s
    | some d => exact SameViewing.withDrawing s d
  rw [hscene]
  split
  · exact hfound.select .matrix .null
  · exact hfound

theorem editCell_sameViewing {f : CellForm} (h : editCell s f = .ok change) :
    s.SameViewing (change.scene.getD s) := by
  obtain ⟨_, _, _, _, _, hscene⟩ := editCell_eq_ok h
  rw [hscene]
  exact (SameViewing.withDrawing s _).select .tint .null

theorem tintRange_sameViewing {f : RangeForm} (h : tintRange s f = .ok change) :
    s.SameViewing (change.scene.getD s) := by
  rcases tintRange_eq_ok h with hscene | ⟨_, _, hscene⟩ | ⟨_, _, _, _, hscene⟩
  · rw [hscene]
    exact SameViewing.refl s
  · rw [hscene]
    exact SameViewing.withDrawing s _
  · rw [hscene]
    exact SameViewing.withDrawing s _

theorem saveArrow_sameViewing {f : ArrowForm} (h : saveArrow s f = .ok change) :
    s.SameViewing (change.scene.getD s) := by
  obtain ⟨_, _, _, _, hscene⟩ := saveArrow_eq_ok h
  rw [hscene]
  exact (SameViewing.withDrawing s _).select .arrow .null

theorem updateArrow_sameViewing {index : Json} {f : ArrowForm}
    (h : updateArrow s index f = .ok change) : s.SameViewing (change.scene.getD s) := by
  obtain ⟨_, _, _, _, hscene⟩ := updateArrow_eq_ok h
  rw [hscene]
  exact SameViewing.withDrawing s _

theorem deleteArrow_sameViewing {index : Json} (h : deleteArrow s index = .ok change) :
    s.SameViewing (change.scene.getD s) := by
  obtain ⟨_, hscene⟩ := deleteArrow_eq_ok h
  rw [hscene]
  exact (SameViewing.withDrawing s _).select .arrow .null

theorem updateTint_sameViewing {index : Json} {t : Tint} (h : updateTint s index t = .ok change) :
    s.SameViewing (change.scene.getD s) := by
  obtain ⟨d, _, _, hscene⟩ := updateTint_eq_ok h
  rw [hscene]
  split
  · exact SameViewing.withDrawing s d
  · exact (SameViewing.withDrawing s d).select .tint .null

theorem deleteTint_sameViewing {index : Json} (h : deleteTint s index = .ok change) :
    s.SameViewing (change.scene.getD s) := by
  obtain ⟨_, hscene⟩ := deleteTint_eq_ok h
  rw [hscene]
  exact (SameViewing.withDrawing s _).select .tint .null

/-- Giving a matrix another name renames the cell under the pointer, if it is one of that matrix. -/
theorem rename_viewed {old field : Json} (h : rename s old field = .ok change) :
    (change.scene.getD s).theme = s.theme ∧
      ((∀ r, s.hovered = some r → r.matrix.equals old = false) →
        (change.scene.getD s).hovered = s.hovered) := by
  obtain ⟨name, found, _, _, hscene⟩ := rename_eq_ok h
  rw [hscene]
  cases found with
  | none => exact ⟨rfl, fun _ => rfl⟩
  | some d =>
    refine ⟨rfl, ?_⟩
    intro hother
    simp only [Option.map_some, Option.getD_some]
    cases hr : s.hovered with
    | none => rfl
    | some r => rw [Option.map_some, CellRef.renamed, hother r hr, if_neg Bool.false_ne_true]

end Change

/-- **No action changes the theme, and none the cell under the pointer**, unless it gives the matrix
of that cell another name. -/
theorem Action.viewed_of_apply {s : Scene} {a : Action} {change : Change}
    (h : a.apply s = .ok change) :
    s.SameViewing (change.scene.getD s) ∨
      ((change.scene.getD s).theme = s.theme ∧ ∃ old field r, a = .rename old field ∧
        s.hovered = some r ∧ r.matrix.equals old = true) := by
  cases a with
  | rename old field =>
    obtain ⟨htheme, hhovered⟩ := Change.rename_viewed h
    by_cases hr : ∃ r, s.hovered = some r ∧ r.matrix.equals old = true
    · obtain ⟨r, hr, hequals⟩ := hr
      exact Or.inr ⟨htheme, old, field, r, rfl, hr, hequals⟩
    · refine Or.inl ⟨htheme, hhovered ?_⟩
      intro r hsome
      rw [Bool.eq_false_iff]
      exact fun hequals => hr ⟨r, hsome, hequals⟩
  | define form noise => exact Or.inl (Change.define_sameViewing h)
  | move name x y => exact Or.inl (Change.move_sameViewing h)
  | delete name => exact Or.inl (Change.delete_sameViewing h)
  | duplicate name => exact Or.inl (Change.duplicate_sameViewing h)
  | editCell form => exact Or.inl (Change.editCell_sameViewing h)
  | tintRange form => exact Or.inl (Change.tintRange_sameViewing h)
  | saveArrow form => exact Or.inl (Change.saveArrow_sameViewing h)
  | updateArrow index form => exact Or.inl (Change.updateArrow_sameViewing h)
  | deleteArrow index => exact Or.inl (Change.deleteArrow_sameViewing h)
  | updateTint index t => exact Or.inl (Change.updateTint_sameViewing h)
  | deleteTint index => exact Or.inl (Change.deleteTint_sameViewing h)

/-! ## 3. Operations -/

namespace Session

open Scene (SameViewing)

variable {K : Type}

/-- Whether an operation toggles the theme. -/
def Op.isToggle : Op K → Bool
  | .toggleTheme => true
  | _ => false

/-- The operations that are there to move the view: the wheel, going back to the view at the start,
and the pointer while the view is being dragged. -/
inductive MovesView (s : Session K) : Op K → Prop
  | wheel (up : Bool) : MovesView s (.wheel up)
  | resetView : MovesView s .resetView
  | drag (p : Point (Given K)) (h : s.drag.active = true) : MovesView s (.pointerMove p)

/-- The operations that may put another cell under the pointer, or none: the pointer moves while the
view is not being dragged, or leaves, the matrix of the cell takes another name, or the scene is
replaced by another. -/
inductive MovesHover (s : Session K) : Op K → Prop
  | pointer (p : Point (Given K)) (h : s.drag.active = false) : MovesHover s (.pointerMove p)
  | leave : MovesHover s .pointerLeave
  | rename {old : Json} {r : CellRef} (field : Json) (hr : s.scene.hovered = some r)
      (hold : r.matrix.equals old = true) : MovesHover s (.act (.rename old field))
  | reset : MovesHover s .reset
  | newScene : MovesHover s .newScene
  | importDocument (data : Json) : MovesHover s (.importDocument data)
  | loadFile (path : String) (opened : Except Fault ByteArray) : MovesHover s (.loadFile path opened)

theorem view_commit (s : Session K) (scene : Option Scene) (label : String) (answer : Answer K) :
    (s.commit scene label answer).session.view = s.view := by
  cases scene with
  | none => rfl
  | some new => rfl

theorem view_act (s : Session K) (a : Action) : (s.act a).session.view = s.view := by
  unfold act
  split
  · exact view_commit _ _ _ _
  · rfl

/-- A batch leaves the view, and of the scene it changes the drawing at most. -/
theorem viewed_run (s : Session K) (source : Json) :
    s.scene.SameViewing (s.run source).session.scene ∧ (s.run source).session.view = s.view := by
  unfold run
  split
  · unfold runText
    dsimp only
    split
    · exact ⟨SameViewing.refl _, rfl⟩
    · split
      · rw [scene_commit, view_commit]
        split
        · exact ⟨SameViewing.withDrawing _ _, rfl⟩
        · exact ⟨SameViewing.refl _, rfl⟩
      · exact ⟨SameViewing.refl _, rfl⟩
  · exact ⟨SameViewing.refl _, rfl⟩

theorem viewed_travel (s : Session K) (step : Option (Scene × History Scene String)) :
    s.scene.SameViewing (s.travel step).session.scene ∧ (s.travel step).session.view = s.view := by
  cases step with
  | none => exact ⟨SameViewing.refl _, rfl⟩
  | some p => exact ⟨SameViewing.withDrawing _ _, rfl⟩

theorem viewed_act (s : Session K) (a : Action) :
    s.scene.SameViewing (s.act a).session.scene ∨
      ((s.act a).session.scene.theme = s.scene.theme ∧ s.MovesHover (.act a)) := by
  unfold act
  cases happly : a.apply s.scene with
  | error f => exact Or.inl (SameViewing.refl _)
  | ok change =>
    dsimp only
    rw [scene_commit]
    rcases Action.viewed_of_apply happly with hsame | ⟨htheme, old, field, r, rfl, hr, hold⟩
    · exact Or.inl hsame
    · exact Or.inr ⟨htheme, .rename field hr hold⟩

/-- What an operation leaves of how a session is viewed. -/
structure Viewed (s : Session K) (op : Op K) (s' : Session K) : Prop where
  theme : s'.scene.theme = if op.isToggle then s.scene.theme.flip else s.scene.theme
  view : s'.view = s.view ∨ s.MovesView op
  hovered : s'.scene.hovered = s.scene.hovered ∨ s.MovesHover op

theorem viewed_of_same {s s' : Session K} {op : Op K} (hscene : s.scene.SameViewing s'.scene)
    (hview : s'.view = s.view) (hop : op.isToggle = false) : s.Viewed op s' where
  theme := by rw [hop, if_neg Bool.false_ne_true, hscene.theme]
  view := Or.inl hview
  hovered := Or.inl hscene.hovered

theorem theme_hover (s : Scene) (r : Option CellRef) : (s.hover r).theme = s.theme := by
  unfold Scene.hover
  split
  · rfl
  · rfl

variable [Coordinate K]

/-- While the view is dragged the pointer moves it, and otherwise it moves the cell that is under
the pointer. -/
theorem viewed_pointerMove (s : Session K) (p : Point (Given K)) :
    s.Viewed (.pointerMove p) (s.pointerMove p).session := by
  unfold pointerMove Drag.move
  cases hlast : s.drag.last with
  | some last =>
    have hactive : s.drag.active = true := by rw [Drag.active, hlast, Option.isSome_some]
    rw [Option.map_some]
    -- whether the drag gets to the point or not
    split
    · exact ⟨rfl, Or.inr (.drag p hactive), Or.inl rfl⟩
    · exact ⟨rfl, Or.inr (.drag p hactive), Or.inl rfl⟩
    · rename_i hnone
      exact nomatch hnone
  | none =>
    have hidle : s.drag.active = false := by rw [Drag.active, hlast, Option.isSome_none]
    simp only [Option.map_none]
    split
    · exact viewed_of_same (.refl _) rfl rfl
    · split
      · exact viewed_of_same (.refl _) rfl rfl
      · exact ⟨theme_hover _ _, Or.inl rfl, Or.inr (.pointer p hidle)⟩

/-- **Of how a session is viewed an operation changes only what it is there to change.** -/
theorem viewed_step (s : Session K) (op : Op K) : s.Viewed op (s.step op).session := by
  cases op with
  | act a =>
    rcases s.viewed_act a with hsame | ⟨htheme, hmoves⟩
    · exact viewed_of_same hsame (s.view_act a) rfl
    · exact ⟨htheme, Or.inl (s.view_act a), Or.inr hmoves⟩
  | run source =>
    obtain ⟨hscene, hview⟩ := s.viewed_run source
    exact viewed_of_same hscene hview rfl
  | undo =>
    obtain ⟨hscene, hview⟩ := s.viewed_travel s.snapshots.undo?
    exact viewed_of_same hscene hview rfl
  | redo =>
    obtain ⟨hscene, hview⟩ := s.viewed_travel s.snapshots.redo?
    exact viewed_of_same hscene hview rfl
  | selectMatrix name =>
    simp only [step, selectMatrix]
    split
    · exact viewed_of_same ((SameViewing.refl _).select .matrix name) rfl rfl
    · exact viewed_of_same (.refl _) rfl rfl
  | selectArrow index => exact viewed_of_same ((SameViewing.refl _).select .arrow index) rfl rfl
  | selectTint index => exact viewed_of_same ((SameViewing.refl _).select .tint index) rfl rfl
  | doubleClick p =>
    simp only [step, doubleClick]
    split
    · exact viewed_of_same (.refl _) rfl rfl
    · exact viewed_of_same (.refl _) rfl rfl
    · exact viewed_of_same ((SameViewing.refl _).select .matrix _) rfl rfl
  | saveFile path opened =>
    simp only [step, saveFile]
    split
    · exact viewed_of_same (.refl _) rfl rfl
    · split
      · exact viewed_of_same (.refl _) rfl rfl
      · exact viewed_of_same (.refl _) rfl rfl
  | toggleTheme => exact ⟨rfl, Or.inl rfl, Or.inl rfl⟩
  | pointerMove p => exact s.viewed_pointerMove p
  | pointerLeave =>
    simp only [step, pointerLeave]
    split
    · exact ⟨theme_hover _ _, Or.inl rfl, Or.inr .leave⟩
    · exact viewed_of_same (.refl _) rfl rfl
  -- another scene is loaded under the theme that is on
  | reset => exact ⟨rfl, Or.inl rfl, Or.inr .reset⟩
  | newScene => exact ⟨rfl, Or.inl rfl, Or.inr .newScene⟩
  | importDocument data =>
    simp only [step, importDocument]
    split
    · exact ⟨rfl, Or.inl rfl, Or.inr (.importDocument data)⟩
    · exact viewed_of_same (.refl _) rfl rfl
  | loadFile path opened =>
    simp only [step, loadFile]
    split
    · exact ⟨rfl, Or.inl rfl, Or.inr (.loadFile path opened)⟩
    · exact viewed_of_same (.refl _) rfl rfl
  | wheel up => exact ⟨rfl, Or.inr (.wheel up), Or.inl rfl⟩
  | resetView => exact ⟨rfl, Or.inr .resetView, Or.inl rfl⟩
  | clearTranscript | beginPan | endPan => exact viewed_of_same (.refl _) rfl rfl

/-! ## 4. Runs -/

/-- Of the two themes the one at the start is back after every second time. -/
theorem theme_after (s : Session K) (ops : List (Op K)) (t : Theme) :
    (s.after ops).scene.theme = t ↔ (s.scene.theme = t ↔ Even (ops.countP Op.isToggle)) := by
  induction ops generalizing s with
  | nil => exact (iff_true_right (Even.zero)).symm
  | cons op ops ih =>
    rw [after_cons, ih, (s.viewed_step op).theme, List.countP_cons]
    cases op.isToggle with
    | true =>
      rw [if_pos rfl, if_pos rfl, Theme.flip_eq_iff, Nat.even_add_one]
      exact not_iff_comm.trans iff_comm
    | false => rfl

/-- **How a session is viewed is changed by the operations that are there for it, and by no other.**
After any run the theme is the one at the start if it was toggled an even number of times, and the
other one if the number is odd. And at every operation of a run, where the view is another
afterwards the operation is one that moves the view, and where another cell is under the pointer it
is one that moves the pointer. -/
theorem viewing_after (s : Session K) (ops : List (Op K)) :
    (∀ t, (s.after ops).scene.theme = t ↔
        (s.scene.theme = t ↔ Even (ops.countP Op.isToggle))) ∧
      ∀ e ∈ s.turns ops,
        ((e.1.step e.2).session.view ≠ e.1.view → e.1.MovesView e.2) ∧
        ((e.1.step e.2).session.scene.hovered ≠ e.1.scene.hovered → e.1.MovesHover e.2) := by
  refine ⟨s.theme_after ops, ?_⟩
  intro e _
  have hviewed := e.1.viewed_step e.2
  exact ⟨hviewed.view.resolve_left, hviewed.hovered.resolve_left⟩

end Session

end GridSketch
