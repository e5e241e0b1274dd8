import GridSketch.Proofs.Session.Refusal

/-!
# Who is told of a change

A session is watched from two sides. Those who watch the scene draw it, and have to be told whenever
the scene or the view is another; those who watch the history offer undo and redo, and have to be
told whenever it has moved. An operation has several ways to make a change: it commits a scene, or
presents one outside the history, or starts anew, or takes a step along the history, or moves the
view. Each of them tells who is to be told, and none of them leaves it to the operation (`Tells`,
one lemma for each way). So `step_tells` is only a list of the ways that the operations go, and
`watchers_miss_strays` follows from it.

There is one change that nobody is told of. A drag that strays is refused, and it is refused by the
view, which has moved by then and knows of no watchers (`Session.Strays`).

The history is moved by every event but `Event.keep`, except for a step back or forward where there
is none (`Event.moves`). Operations that are refused tell nobody, and neither do some that are done
and come to nothing (`Session.Idles`).

That the scene's watchers are told often enough is best said of a whole run: someone who looks at
the session whenever told, and at no other time, knows the scene and the view at the end of it if no
drag strays (`seen_after`).
-/

set_option autoImplicit false

namespace GridSketch

/-- Whether an event pushes a step, undoes or redoes one, or clears the history. -/
def Event.moves (h : History Drawing String) : Event → Bool
  | .keep => false
  | .commit .. | .restart _ => true
  | .back => h.canUndo
  | .forward => h.canRedo

namespace Session

variable {K : Type}

/-! ## 1. Ways to make a change -/

/-- What a turn from a session tells: those who watch the scene, if the scene or the view is another
than before, and those who watch the history once if it was moved, and else not at all. -/
structure Tells (s : Session K) (moved : Bool) (t : Turn K) : Prop where
  scene : t.session.scene ≠ s.scene ∨ t.session.view ≠ s.view → 0 < t.notices.scene
  history : t.notices.history = if moved then 1 else 0

section

variable {s : Session K}

theorem tells_quiet {s' : Session K} (answer : Answer K) (hscene : s'.scene = s.scene)
    (hview : s'.view = s.view) : s.Tells false (s'.quiet answer) where
  scene h := by
    rcases h with h | h
    · exact absurd hscene h
    · exact absurd hview h
  history := rfl

theorem tells_refuse {s' : Session K} (f : Fault) (hscene : s'.scene = s.scene)
    (hview : s'.view = s.view) : s.Tells false (s'.refuse f) where
  scene h := by
    rcases h with h | h
    · exact absurd hscene h
    · exact absurd hview h
  history := rfl

theorem tells_announce (s' : Session K) (answer : Answer K) :
    s.Tells false (s'.announce answer) where
  scene _ := Nat.one_pos
  history := rfl

theorem tells_restart (scene : Scene) (file : Option String) :
    s.Tells true (s.restart scene file) where
  scene _ := Nat.one_pos
  history := rfl

/-- Committing a scene tells both, and without a scene there is nothing to tell. -/
theorem tells_commit {s' : Session K} (scene : Option Scene) (label : String) (answer : Answer K)
    (hscene : s'.scene = s.scene) (hview : s'.view = s.view) :
    s.Tells scene.isSome (s'.commit scene label answer) := by
  cases scene with
  | none => exact tells_quiet answer hscene hview
  | some new => exact ⟨fun _ => Nat.one_pos, rfl⟩

theorem tells_travel (step : Option (Scene × History Scene String)) :
    s.Tells step.isSome (s.travel step) := by
  cases step with
  | none => exact tells_quiet _ rfl rfl
  | some p => exact ⟨fun _ => Nat.one_pos, rfl⟩

end

/-! ## 2. Operations -/

theorem tells_act (s : Session K) (a : Action) :
    s.Tells ((actEvent (a.apply s.scene)).moves s.history) (s.act a) := by
  unfold act actEvent
  cases a.apply s.scene with
  | error f => exact tells_refuse f rfl rfl
  | ok change =>
    dsimp only
    have htells : s.Tells change.scene.isSome (s.commit change.scene change.label
        (.name ((change.chosen.map .str).getD .null))) :=
      tells_commit _ _ _ rfl rfl
    cases hscene : change.scene with
    | none =>
      rw [hscene] at htells
      exact htells
    | some new =>
      rw [hscene] at htells
      exact htells

theorem tells_runText (s : Session K) (shown text : String) :
    s.Tells ((runEvent (Command.runBatch s.scene.toDrawing text)).moves s.history)
      (s.runText shown text) := by
  unfold runText runEvent
  generalize Command.runBatch s.scene.toDrawing text = r
  dsimp only
  cases r.stopped with
  | some f => exact tells_refuse f rfl rfl
  | none =>
    cases r.changed with
    | false => exact tells_announce _ _
    | true =>
      -- the lines that were done may all have left the drawing as it was
      cases r.fresh with
      | false => exact tells_quiet _ rfl rfl
      | true => exact tells_commit (some _) _ _ rfl rfl

theorem canUndo_history (s : Session K) : s.history.canUndo = s.snapshots.undo?.isSome := by
  rw [History.canUndo_eq_isSome, undo?_history, Option.isSome_map]

theorem canRedo_history (s : Session K) : s.history.canRedo = s.snapshots.redo?.isSome := by
  rw [History.canRedo_eq_isSome, redo?_history, Option.isSome_map]

variable [Coordinate K]

/-- While the view is not dragged, a pointer over the same cell as before tells nothing. -/
theorem tells_pointerMove {s : Session K} {p : Point (Given K)}
    (hp : ∀ dx, ¬ s.Strays (.pointerMove p) dx) : s.Tells false (s.pointerMove p) := by
  unfold pointerMove
  split
  · exact tells_announce _ _
  · rename_i drag view f hmove
    obtain ⟨_, hview | ⟨dx, hstrays, _⟩⟩ := Drag.move_of_fault hmove
    · exact tells_refuse f rfl hview
    · exact absurd ⟨p, rfl, hstrays⟩ (hp dx)
  · split
    · exact tells_refuse _ rfl rfl
    · split
      · exact tells_quiet _ rfl rfl
      · exact tells_announce _ _

/-- **Every operation that does not make a drag stray tells who is to be told**: the watchers of the
scene where the scene or the view is another, and those of the history where its event moves that,
once. -/
theorem step_tells {s : Session K} {op : Op K} (hop : ∀ dx, ¬ s.Strays op dx) :
    s.Tells ((s.event op).moves s.history) (s.step op) := by
  cases op with
  | act a => exact s.tells_act a
  | run source =>
    simp only [step, event, run]
    cases source.typedLines with
    | ok text => exact s.tells_runText source.shown text
    | error f => exact tells_refuse f rfl rfl
  | undo =>
    have htells := s.tells_travel s.snapshots.undo?
    rw [← canUndo_history] at htells
    exact htells
  | redo =>
    have htells := s.tells_travel s.snapshots.redo?
    rw [← canRedo_history] at htells
    exact htells
  | reset => exact s.tells_restart _ _
  | newScene => exact s.tells_restart _ _
  | importDocument data =>
    simp only [step, event, importDocument]
    cases Document.read data with
    | ok d => exact s.tells_restart _ _
    | error f => exact tells_refuse f rfl rfl
  | loadFile path opened =>
    simp only [step, event, loadFile]
    cases opened.bind readFile with
    | ok d => exact s.tells_restart _ _
    | error f => exact tells_refuse f rfl rfl
  | saveFile path opened =>
    simp only [step, event, saveFile]
    split
    · exact tells_refuse _ rfl rfl
    · split
      · exact tells_quiet _ rfl rfl
      · exact tells_refuse _ rfl rfl
  | selectMatrix name =>
    simp only [step, event, selectMatrix]
    cases s.selectable name with
    | ok _ => exact tells_announce _ _
    | error f => exact tells_refuse f rfl rfl
  | pointerMove p => exact tells_pointerMove hop
  | pointerLeave =>
    simp only [step, event, pointerLeave]
    split
    · exact tells_announce _ _
    · exact tells_quiet _ rfl rfl
  | doubleClick p =>
    simp only [step, event, doubleClick]
    split
    · exact tells_refuse _ rfl rfl
    · exact tells_quiet _ rfl rfl
    · exact tells_announce _ _
  | beginPan | endPan => exact tells_quiet _ rfl rfl
  | clearTranscript | selectArrow | selectTint | toggleTheme | wheel | resetView =>
    exact tells_announce _ _

/-! ## 3. Operations that tell nobody -/

/-- An operation that is refused tells nobody. -/
theorem notices_of_error {s : Session K} {op : Op K} {f : Fault}
    (h : (s.step op).answer = .error f) : (s.step op).notices = {} := by
  obtain ⟨s', _, hturn⟩ := step_of_error h
  rw [hturn]
  rfl

/-- The operations that come to nothing when they are done: a step back or forward where there is
none, giving a matrix the name that it has, and taking the tints out of a range without any. -/
inductive Idles (s : Session K) : Op K → Prop
  | undo (h : s.history.canUndo = false) : Idles s .undo
  | redo (h : s.history.canRedo = false) : Idles s .redo
  | rename {old field : Json} {name : String} (hname : Name.clean field = .ok name)
      (hsame : old.equals (.str name) = true) : Idles s (.act (.rename old field))
  | untint {form : RangeForm} {colour : String} (hcolour : form.colour.typed = .ok colour)
      (hnone : Tint.isNone (Text.trimmed colour) = true)
      (hfree : ∀ start stop, Change.corner s.scene form.matrix form.start "Range start" = .ok start →
        Change.corner s.scene form.matrix form.stop "Range end" = .ok stop →
        ∀ t ∈ s.scene.tints, t.cell.matrix.equals form.matrix = true →
          (Change.Range.between start stop).contains t.cell.row t.cell.col = false) :
      Idles s (.act (.tintRange form))

/-- Giving a matrix the name that it has is refused, or comes to nothing. -/
theorem rename_idles {s : Scene} {old field : Json} {name : String} {change : Change}
    (hname : Name.clean field = .ok name) (hsame : old.equals (.str name) = true)
    (h : Change.rename s old field = .ok change) : change.scene = none := by
  cases hscene : change.scene with
  | none => rfl
  | some new =>
    obtain ⟨name', hname', hrename⟩ := Change.rename_eq_some h hscene
    obtain rfl := Except.ok.inj (hname.symm.trans hname')
    obtain ⟨_, _, hother, _⟩ := Drawing.rename_eq_some hrename
    exact absurd (hsame.symm.trans hother) Bool.noConfusion

/-- Taking the tints out of a range without any is refused, or comes to nothing. -/
theorem untint_idles {s : Scene} {form : RangeForm} {colour : String} {change : Change}
    (hcolour : form.colour.typed = .ok colour)
    (hnone : Tint.isNone (Text.trimmed colour) = true)
    (hfree : ∀ start stop, Change.corner s form.matrix form.start "Range start" = .ok start →
      Change.corner s form.matrix form.stop "Range end" = .ok stop →
      ∀ t ∈ s.tints, t.cell.matrix.equals form.matrix = true →
        (Change.Range.between start stop).contains t.cell.row t.cell.col = false)
    (h : Change.tintRange s form = .ok change) : change.scene = none := by
  obtain ⟨start, stop, colour', hstart, hstop, hcolour', hscene⟩ := Change.tintRange_scene h
  obtain rfl := Except.ok.inj (hcolour.symm.trans hcolour')
  have hkept : Change.untintRange s.toDrawing form.matrix (.between start stop) = none := by
    rw [Change.untintRange, List.filter_eq_self.mpr, if_pos rfl]
    intro t ht
    cases hmatrix : t.cell.matrix.equals form.matrix with
    | false => rfl
    | true =>
      rw [hfree start stop hstart hstop t ht hmatrix]
      rfl
  rw [hscene, if_pos hnone, hkept, Option.map_none]

theorem notices_of_idles {s : Session K} {op : Op K} (h : s.Idles op) :
    (s.step op).notices = {} := by
  -- an action that comes to nothing has no scene to commit
  have hact : ∀ a : Action, (∀ change, a.apply s.scene = .ok change → change.scene = none) →
      (s.act a).notices = {} := by
    intro a hnone
    unfold act
    cases happly : a.apply s.scene with
    | error f => rfl
    | ok change =>
      simp only [hnone change happly]
      rfl
  cases h with
  | undo h =>
    rw [canUndo_history, Option.isSome_eq_false_iff, Option.isNone_iff_eq_none] at h
    simp only [step, h]
    rfl
  | redo h =>
    rw [canRedo_history, Option.isSome_eq_false_iff, Option.isNone_iff_eq_none] at h
    simp only [step, h]
    rfl
  | rename hname hsame => exact hact _ fun _ h => rename_idles hname hsame h
  | untint hcolour hnone hfree => exact hact _ fun _ h => untint_idles hcolour hnone hfree h

/-! ## 4. What the watchers know -/

/-- The watchers of the history are told as they should be, whether a drag strays or not. -/
theorem notices_history (s : Session K) (op : Op K) :
    (s.step op).notices.history = if (s.event op).moves s.history then 1 else 0 := by
  by_cases hop : ∃ dx, s.Strays op dx
  · obtain ⟨dx, p, rfl, hstrays⟩ := hop
    rw [step_of_strays ⟨p, rfl, hstrays⟩]
    rfl
  · exact (step_tells (not_exists.mp hop)).history

/-- **Those who watch a session miss the way that a drag strays, and no other change of it.** Where
the scene or the view is another after an operation, the watchers of the scene have been told,
unless a drag has strayed; then the view has been moved along the first axis, and nobody has been
told. The drawing and its history are moved by the event of the operation and in no other way, and
the watchers of the history have been told once where that pushes a step, undoes or redoes one, or
clears the history, and else not at all. Nobody is told of an operation that is refused, nor of one
that comes to nothing. -/
theorem watchers_miss_strays (s : Session K) (op : Op K) :
    let turn := s.step op
    (turn.session.scene ≠ s.scene ∨ turn.session.view ≠ s.view →
        0 < turn.notices.scene ∨ ∃ dx, s.Strays op dx) ∧
      (∀ dx, s.Strays op dx → turn.session = { s with view := s.view.panX dx } ∧
        turn.notices = {}) ∧
      turn.session.record = (s.event op).effect s.record ∧
      turn.notices.history = (if (s.event op).moves s.history then 1 else 0) ∧
      ((∃ f, turn.answer = .error f) ∨ s.Idles op → turn.notices = {}) := by
  refine ⟨?_, ?_, s.step_event op, s.notices_history op, ?_⟩
  · intro hchange
    by_cases hop : ∃ dx, s.Strays op dx
    · exact Or.inr hop
    · exact Or.inl ((step_tells (not_exists.mp hop)).scene hchange)
  · intro dx hstrays
    rw [step_of_strays hstrays]
    exact ⟨rfl, rfl⟩
  · rintro (⟨f, hf⟩ | hidles)
    · exact notices_of_error hf
    · exact notices_of_idles hidles

/-- A view that has moved to the right, and nobody who was told. -/
theorem moved_untold :
    (dragging.step (.pointerMove farDown)).session.view ≠ dragging.view ∧
      (dragging.step (.pointerMove farDown)).notices = {} := by
  rw [step_of_strays strays_farDown]
  exact ⟨view_farDown, rfl⟩

/-- What someone knows at the end of a run who looks at the scene and the view whenever the watchers
of the scene are told. -/
def seen (s : Session K) (known : Scene × Viewport K) : List (Op K) → Scene × Viewport K
  | [] => known
  | op :: ops =>
    let turn := s.step op
    turn.session.seen
      (if 0 < turn.notices.scene then (turn.session.scene, turn.session.view) else known) ops

/-- **Looking when told is enough**: who has seen the scene and the view at the start of a run, and
looks whenever told, knows them at its end, if no drag strays in it. -/
theorem seen_after (s : Session K) (ops : List (Op K))
    (hops : ∀ e ∈ s.turns ops, ∀ dx, ¬ e.1.Strays e.2 dx) :
    s.seen (s.scene, s.view) ops = ((s.after ops).scene, (s.after ops).view) := by
  induction ops generalizing s with
  | nil => rfl
  | cons op ops ih =>
    obtain ⟨hop, hrest⟩ := List.forall_mem_cons.mp hops
    rw [after_cons, ← ih _ hrest, seen]
    split
    · rfl
    · -- who is not told knows already, since nothing has changed
      rename_i hquiet
      have hsame := mt (step_tells hop).scene hquiet
      rw [not_or, not_not, not_not] at hsame
      rw [hsame.1, hsame.2]

end Session

end GridSketch
