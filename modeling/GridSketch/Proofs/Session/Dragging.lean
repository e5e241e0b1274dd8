import GridSketch.Proofs.Session.Run
import GridSketch.Proofs.View.Inversion

/-!
# Drags

While the button is held the view follows the pointer, by the displacement since the point before.
Between the moves of a drag all else may go on: the wheel turns, matrices are made and renamed,
scenes are loaded. What a whole drag comes to is nevertheless the displacement from the point where
the button was pressed to the last one, whatever path the pointer took (`dragged_by_displacement`).

There are two reasons. The first is that the plane is held at the pointer: the offset less the
point of the pointer stays the same, and the wheel does not touch the offset (`Pane.HeldAt`). The
second is that apart from the pointer nothing looks at the view. So an operation does the same to a
session under any other view (`step_withPane`), and a move of the pointer can be put off until after
it (`step_of_moved`). Moves that meet come to the last of them, and so the path goes out of a drag
(`after_moved`).

Coordinates are given as integers or as fractions (`Given.value`), and over fractions no way is too
long. In doubles one can be, and then the view is stopped on it; but what it shows stays the same.

The one exception is a double click, which selects what is under it. How far the view has come by
then decides what that is. So of a drag with double clicks it matters where the pointer was at each
of them (`clickPoints`). Of a drag without any nothing matters but its two ends and what was done
besides.
-/

set_option autoImplicit false

namespace GridSketch

/-! ## 1. Panes -/

/-- The fraction that is given. -/
def Given.value : Given Rat → Rat
  | .int n => n
  | .coordinate q => q

@[simp] theorem Given.value_ofNat (n : Nat) : (OfNat.ofNat n : Given Rat).value = (n : Int) :=
  rfl

theorem Given.read_rat (g : Given Rat) : g.read = .ok g.value := by
  cases g with
  | int n => rfl
  | coordinate q => rfl

theorem Given.minus_rat (a b : Given Rat) :
    ∃ d, a.minus b = .ok d ∧ d.value = a.value - b.value := by
  cases a with
  | int m =>
    cases b with
    | int n => exact ⟨_, rfl, Rat.intCast_sub m n⟩
    | coordinate q => exact ⟨_, rfl, rfl⟩
  | coordinate p =>
    cases b with
    | int n => exact ⟨_, rfl, rfl⟩
    | coordinate q => exact ⟨_, rfl, rfl⟩

namespace Drag

section

variable {K : Type} [Coordinate K]

theorem active_pull (last : Point (Given K)) (v : Viewport K) (p : Point (Given K)) :
    (pull last v p).drag.active = true := by
  unfold pull
  split
  · rfl
  · split
    · rfl
    · rfl

/-- How far a view is pulled has nothing to do with its scale. -/
theorem pull_zoom (last : Point (Given K)) (v : Viewport K) (p : Point (Given K)) (up : Bool) :
    pull last (v.zoom up) p =
      { pull last v p with view := (pull last v p).view.zoom up } := by
  unfold pull
  cases displacement last p with
  | error f => rfl
  | ok d =>
    dsimp only [Viewport.pan]
    cases d.x.read with
    | error f => rfl
    | ok dx =>
      cases d.y.read with
      | error f => rfl
      | ok dy => rfl

end

/-- Over fractions a view is pulled all the way. -/
theorem pull_rat (last : Point (Given Rat)) (v : Viewport Rat) (p : Point (Given Rat)) :
    pull last v p =
      ⟨press p, (v.panX (p.x.value - last.x.value)).panY (p.y.value - last.y.value), none⟩ := by
  obtain ⟨dx, hdx, hx⟩ := p.x.minus_rat last.x
  obtain ⟨dy, hdy, hy⟩ := p.y.minus_rat last.y
  have hway : displacement last p = .ok ⟨dx, dy⟩ := by
    rw [displacement, hdx, hdy]
    rfl
  rw [pull, hway]
  dsimp only [Viewport.pan]
  rw [Given.read_rat, Given.read_rat, hx, hy]

end Drag

namespace Pane

section

variable {K : Type} [Coordinate K]

theorem move_of_last {c : Pane K} {last : Point (Given K)} (h : c.drag.last = some last)
    (p : Point (Given K)) :
    c.step (.move p) = ⟨(Drag.pull last c.view p).view, (Drag.pull last c.view p).drag⟩ := by
  simp only [step, Drag.move, h, Option.map_some]

/-- The wheel changes the scale and the pointer the offset. -/
theorem zoom_move (c : Pane K) (p : Point (Given K)) (up : Bool) :
    (c.step (.move p)).step (.zoom up) = (c.step (.zoom up)).step (.move p) := by
  cases hlast : c.drag.last with
  | none => simp only [step, Drag.move, hlast, Option.map_none]
  | some last =>
    have hzoomed : (c.step (.zoom up)).drag.last = some last := hlast
    have hview : (c.step (.zoom up)).view = c.view.zoom up := rfl
    rw [move_of_last hlast, move_of_last hzoomed, hview, Drag.pull_zoom]
    rfl

end

/-- Of two moves one after the other the first might as well not have been made. -/
theorem move_move {c : Pane Rat} (hc : c.drag.active = true) (p q : Point (Given Rat)) :
    (c.step (.move p)).step (.move q) = c.step (.move q) := by
  obtain ⟨last, hlast⟩ := Option.isSome_iff_exists.mp hc
  have hmoved : (c.step (.move p)).drag.last = some p := by
    rw [move_of_last hlast, Drag.pull_rat]
    rfl
  rw [move_of_last hmoved, move_of_last hlast, move_of_last hlast]
  simp only [Drag.pull_rat, Viewport.panX, Viewport.panY, Pane.mk.injEq, Viewport.mk.injEq,
    Point.mk.injEq, true_and, and_true]
  constructor
  · ring
  · ring

/-- A move to where the pointer is. -/
theorem move_self {c : Pane Rat} {p : Point (Given Rat)} (hc : c.drag = .press p) :
    c.step (.move p) = c := by
  obtain ⟨view, drag⟩ := c
  obtain rfl : drag = .press p := hc
  rw [move_of_last rfl, Drag.pull_rat]
  simp only [Viewport.panX, Viewport.panY, sub_self, add_zero]

/-- The view is held at a point, and the offset is some way from there. -/
structure HeldAt (way : Point Rat) (p : Point (Given Rat)) (c : Pane Rat) : Prop where
  drag : c.drag = .press p
  x : c.view.offset.x = way.x + p.x.value
  y : c.view.offset.y = way.y + p.y.value

/-- **The plane is held at the pointer**: wherever that moves to, the way to the offset stays. -/
theorem HeldAt.move {way : Point Rat} {p : Point (Given Rat)} {c : Pane Rat}
    (hc : c.HeldAt way p) (q : Point (Given Rat)) : (c.step (.move q)).HeldAt way q := by
  have hlast : c.drag.last = some p := by rw [hc.drag]; rfl
  rw [move_of_last hlast, Drag.pull_rat]
  refine ⟨rfl, ?_, ?_⟩
  · simp only [Viewport.panX, Viewport.panY, hc.x]
    ring
  · simp only [Viewport.panX, Viewport.panY, hc.y]
    ring

theorem HeldAt.zoom {way : Point Rat} {p : Point (Given Rat)} {c : Pane Rat}
    (hc : c.HeldAt way p) (up : Bool) : (c.step (.zoom up)).HeldAt way p :=
  ⟨hc.drag, hc.x, hc.y⟩

end Pane

namespace Session

variable {K : Type} [Coordinate K]

/-! ## 2. Operations under another view -/

def pane (s : Session K) : Pane K :=
  ⟨s.view, s.drag⟩

/-- The session with another view and a drag of that. -/
def withPane (s : Session K) (c : Pane K) : Session K :=
  { s with view := c.view, drag := c.drag }

/-- The gesture that an operation is for the view. -/
def Op.gesture? : Op K → Option (Gesture K)
  | .wheel up => some (.zoom up)
  | .resetView => some .reset
  | .beginPan p => some (.press p)
  | .pointerMove p => some (.move p)
  | .endPan => some .release
  | _ => none

/-- What an operation does to the view. -/
def Op.steer (op : Op K) (c : Pane K) : Pane K :=
  op.gesture?.elim c c.step

/-- Whether an operation asks what is under a point of the screen. -/
def Op.looks : Op K → Bool
  | .pointerMove _ | .doubleClick _ => true
  | _ => false

/-- Whether an operation leaves a drag going on, and the view where the drag has brought it. -/
def Op.isWithinDrag : Op K → Bool
  | .beginPan _ | .endPan | .resetView => false
  | _ => true

/-- **What does not look through the view does the same under any other**, and the view goes its own
way. -/
theorem step_withPane (s : Session K) (c : Pane K) {op : Op K} (hop : op.looks = false) :
    ((s.withPane c).step op).session = (s.step op).session.withPane (op.steer c) := by
  have hscene : (s.withPane c).scene = s.scene := rfl
  cases op with
  | pointerMove | doubleClick => exact nomatch hop
  | act a =>
    simp only [step, act, hscene]
    cases a.apply s.scene with
    | error f => rfl
    | ok change =>
      dsimp only
      cases change.scene with
      | none => rfl
      | some new => rfl
  | run source =>
    simp only [step, run]
    cases source.typedLines with
    | error f => rfl
    | ok text =>
      simp only [runText, hscene]
      generalize Command.runBatch s.scene.toDrawing text = r
      cases r.stopped with
      | some f => rfl
      | none =>
        cases r.changed with
        | false => rfl
        | true =>
          cases r.fresh with
          | true => rfl
          | false => rfl
  | undo =>
    have hsame : (s.withPane c).snapshots.undo? = s.snapshots.undo? := rfl
    simp only [step, hsame]
    cases s.snapshots.undo? with
    | none => rfl
    | some p => rfl
  | redo =>
    have hsame : (s.withPane c).snapshots.redo? = s.snapshots.redo? := rfl
    simp only [step, hsame]
    cases s.snapshots.redo? with
    | none => rfl
    | some p => rfl
  | selectMatrix name =>
    have hsame : (s.withPane c).selectable name = s.selectable name := rfl
    simp only [step, selectMatrix, hsame]
    cases s.selectable name with
    | ok u => rfl
    | error f => rfl
  | importDocument data =>
    simp only [step, importDocument]
    cases Document.read data with
    | ok d => rfl
    | error f => rfl
  | loadFile path opened =>
    simp only [step, loadFile]
    cases opened.bind readFile with
    | ok d => rfl
    | error f => rfl
  | saveFile path opened =>
    have hsame : (s.withPane c).savePath path = s.savePath path := rfl
    simp only [step, saveFile, hsame, hscene]
    split
    · rfl
    · cases opened >>= fun _ => written s.scene.toDrawing with
      | ok text => rfl
      | error f => rfl
  | pointerLeave =>
    simp only [step, pointerLeave, hscene]
    cases s.scene.hovered.isSome with
    | true => rfl
    | false => rfl
  | clearTranscript | selectArrow | selectTint | toggleTheme | reset | newScene | beginPan | endPan
  | wheel | resetView => rfl

/-- While the view is dragged the pointer moves it, and nothing else. -/
theorem step_pointerMove {s : Session K} (hs : s.drag.active = true) (p : Point (Given K)) :
    (s.step (.pointerMove p)).session = s.withPane (s.pane.step (.move p)) := by
  obtain ⟨last, hlast⟩ := Option.isSome_iff_exists.mp hs
  have hview : s.pane.view = s.view := rfl
  rw [Pane.move_of_last hlast, hview]
  simp only [step, pointerMove, Drag.move, hlast, Option.map_some]
  obtain ⟨drag, view, fault⟩ := Drag.pull last s.view p
  cases fault with
  | none => rfl
  | some f => rfl

theorem pane_of_not_looks (s : Session K) {op : Op K} (hop : op.looks = false) :
    (s.step op).session.pane = op.steer s.pane := by
  have hstep : (s.step op).session = (s.step op).session.withPane (op.steer s.pane) :=
    s.step_withPane s.pane hop
  rw [hstep]
  rfl

/-- An operation does to the view what its gesture does. -/
theorem pane_step (s : Session K) (op : Op K) : (s.step op).session.pane = op.steer s.pane := by
  cases op with
  | pointerMove p =>
    cases hlast : s.drag.last with
    | some last =>
      rw [step_pointerMove (Option.isSome_of_eq_some hlast)]
      rfl
    | none =>
      -- the button is up, and the pointer looks for the cell under it
      have hidle : Op.steer (.pointerMove p) s.pane = s.pane := by
        simp only [Op.steer, Op.gesture?, Option.elim_some, Pane.step, Drag.move, pane, hlast,
          Option.map_none]
      rw [hidle]
      simp only [step, pointerMove, Drag.move, hlast, Option.map_none]
      split
      · rfl
      · split
        · rfl
        · rfl
  | doubleClick p =>
    simp only [step, doubleClick]
    split
    · rfl
    · rfl
    · rfl
  | _ => exact s.pane_of_not_looks rfl

/-! ## 3. Drags -/

theorem Op.steer_active {op : Op K} (hop : op.isWithinDrag = true) {c : Pane K}
    (hc : c.drag.active = true) : (op.steer c).drag.active = true := by
  cases op with
  | beginPan | endPan | resetView => exact nomatch hop
  | pointerMove p =>
    obtain ⟨last, hlast⟩ := Option.isSome_iff_exists.mp hc
    have hmove : Op.steer (.pointerMove p) c = _ := Pane.move_of_last hlast p
    rw [hmove]
    exact Drag.active_pull last c.view p
  | _ => exact hc

theorem active_step {s : Session K} (hs : s.drag.active = true) {op : Op K}
    (hop : op.isWithinDrag = true) : (s.step op).session.drag.active = true := by
  have hpane : (s.step op).session.pane = op.steer s.pane := s.pane_step op
  have hactive : (s.step op).session.pane.drag.active = true := by
    rw [hpane]
    exact Op.steer_active hop hs
  exact hactive

theorem active_turns {s : Session K} (hs : s.drag.active = true) {ops : List (Op K)}
    (hops : ∀ op ∈ ops, op.isWithinDrag = true) : ∀ t ∈ s.turns ops, t.1.drag.active = true := by
  induction ops generalizing s with
  | nil => exact fun t ht => absurd ht List.not_mem_nil
  | cons op ops ih =>
    obtain ⟨hop, hrest⟩ := List.forall_mem_cons.mp hops
    exact List.forall_mem_cons.mpr ⟨hs, ih (active_step hs hop) hrest⟩

/-- A move of the pointer during a drag can be put off until after an operation that does not look
at the view. -/
theorem step_of_moved {s : Session K} (hs : s.drag.active = true) (p : Point (Given K))
    {op : Op K} (hop : op.isWithinDrag = true) (hlooks : op.looks = false) :
    ((s.step (.pointerMove p)).session.step op).session =
      ((s.step op).session.step (.pointerMove p)).session := by
  have hcommute : op.steer (s.pane.step (.move p)) = (op.steer s.pane).step (.move p) := by
    cases op with
    | beginPan | endPan | resetView => exact nomatch hop
    | wheel up => exact s.pane.zoom_move p up
    | pointerMove => exact nomatch hlooks
    | _ => rfl
  rw [step_pointerMove hs, step_withPane s _ hlooks, hcommute,
    step_pointerMove (active_step hs hop), pane_step]

/-! ## 4. The path of the pointer -/

/-- The point that an operation moves the pointer to. -/
def Op.target? : Op K → Option (Point (Given K))
  | .pointerMove p => some p
  | _ => none

/-- Where the pointer is after operations, if it was at a point before. -/
def pointerAfter (p : Point (Given K)) (ops : List (Op K)) : Point (Given K) :=
  ops.foldl (fun p op => op.target?.getD p) p

/-- What is done besides moving the pointer. -/
def besides (ops : List (Op K)) : List (Op K) :=
  ops.filter fun op => op.target?.isNone

/-- Where the pointer is at the double clicks, one after the other. -/
def clickPoints : Point (Given K) → List (Op K) → List (Point (Given K))
  | _, [] => []
  | _, .pointerMove q :: ops => clickPoints q ops
  | p, .doubleClick _ :: ops => p :: clickPoints p ops
  | p, _ :: ops => clickPoints p ops

/-- The session after operations, where the pointer is moved before each double click, to the next
of some points. -/
def afterAt (s : Session K) : List (Op K) → List (Point (Given K)) → Session K
  | [], _ => s
  | .doubleClick r :: ops, p :: ps =>
    ((s.step (.pointerMove p)).session.step (.doubleClick r)).session.afterAt ops ps
  | op :: ops, ps => (s.step op).session.afterAt ops ps

omit [Coordinate K] in
theorem active_of_press {s : Session K} {p : Point (Given K)} (hs : s.drag = .press p) :
    s.drag.active = true := by
  rw [hs]
  rfl

variable {s : Session Rat}

theorem drag_pointerMove (hs : s.drag.active = true) (p : Point (Given Rat)) :
    (s.step (.pointerMove p)).session.drag = .press p := by
  obtain ⟨last, hlast⟩ := Option.isSome_iff_exists.mp hs
  rw [step_pointerMove hs, Pane.move_of_last hlast, Drag.pull_rat]
  rfl

theorem step_move_move (hs : s.drag.active = true) (p q : Point (Given Rat)) :
    ((s.step (.pointerMove p)).session.step (.pointerMove q)).session =
      (s.step (.pointerMove q)).session := by
  have hmoved : (s.step (.pointerMove p)).session.pane = s.pane.step (.move p) := s.pane_step _
  rw [step_pointerMove (active_step hs rfl), hmoved, Pane.move_move hs, step_pointerMove hs,
    step_pointerMove hs]
  rfl

theorem step_move_self {p : Point (Given Rat)} (hs : s.drag = .press p) :
    (s.step (.pointerMove p)).session = s := by
  rw [step_pointerMove (active_of_press hs), Pane.move_self hs]
  rfl

/-- **The path of the pointer goes out of a drag.** All that is left of it is where the pointer is
in the end, and where it was at each double click. -/
theorem after_moved (hs : s.drag.active = true) (p : Point (Given Rat)) {ops : List (Op Rat)}
    (hops : ∀ op ∈ ops, op.isWithinDrag = true) :
    (s.step (.pointerMove p)).session.after ops =
      ((s.afterAt (besides ops) (clickPoints p ops)).step
        (.pointerMove (pointerAfter p ops))).session := by
  -- by induction on the drag, from any session and with the pointer at any point
  induction ops generalizing s p with
  | nil => rfl
  | cons op ops ih =>
    obtain ⟨hop, hrest⟩ := List.forall_mem_cons.mp hops
    rw [after_cons]
    cases op with
    | pointerMove q =>
      rw [step_move_move hs]
      exact ih hs q hrest
    | doubleClick r =>
      -- the pointer is at its point by then, and moving it there once more does nothing
      have hdrag : ((s.step (.pointerMove p)).session.step (.doubleClick r)).session.drag =
          .press p := by
        rw [← drag_pointerMove hs p]
        exact congrArg Pane.drag (pane_step _ _)
      have hclicked := active_of_press hdrag
      rw [← step_move_self hdrag]
      exact ih hclicked p hrest
    | _ =>
      rw [step_of_moved hs p hop rfl]
      exact ih (active_step hs hop) p hrest

/-! ## 5. Displacements -/

theorem heldAt_steer {way : Point Rat} {p : Point (Given Rat)} {c : Pane Rat}
    (hc : c.HeldAt way p) {op : Op Rat} (hop : op.isWithinDrag = true) :
    (op.steer c).HeldAt way (op.target?.getD p) := by
  cases op with
  | beginPan | endPan | resetView => exact nomatch hop
  | pointerMove q => exact hc.move q
  | wheel up => exact hc.zoom up
  | _ => exact hc

theorem heldAt_after {way : Point Rat} {p : Point (Given Rat)} (hs : s.pane.HeldAt way p)
    {ops : List (Op Rat)} (hops : ∀ op ∈ ops, op.isWithinDrag = true) :
    (s.after ops).pane.HeldAt way (pointerAfter p ops) := by
  induction ops generalizing s p with
  | nil => exact hs
  | cons op ops ih =>
    obtain ⟨hop, hrest⟩ := List.forall_mem_cons.mp hops
    have hstep : (s.step op).session.pane.HeldAt way (op.target?.getD p) := by
      rw [pane_step]
      exact heldAt_steer hs hop
    exact ih hstep hrest

/-- **A drag moves the view by its displacement, and does nothing else.** Whatever is done while the
button is held, no move of the pointer changes the scene, of which the cell under the pointer is a
part. Over fractions the offset has moved in the end by the way from the point where the button was
pressed to the last one. And two drags between the same points lead to the same session, if the same
is done besides and if the double clicks, should there be any, meet the pointer at the same
points. -/
theorem dragged_by_displacement :
    (∀ {K : Type} [Coordinate K] (s : Session K) (p : Point (Given K)) (ops : List (Op K)),
      (∀ op ∈ ops, op.isWithinDrag = true) →
        ∀ t ∈ (s.step (.beginPan p)).session.turns ops, ∀ q, t.2 = .pointerMove q →
          (t.1.step t.2).session.scene = t.1.scene) ∧
    ∀ (s : Session Rat) (p : Point (Given Rat)) (ops : List (Op Rat)),
      (∀ op ∈ ops, op.isWithinDrag = true) →
        let offset := (s.after (.beginPan p :: ops)).view.offset
        let last := pointerAfter p ops
        (offset.x - s.view.offset.x = last.x.value - p.x.value ∧
          offset.y - s.view.offset.y = last.y.value - p.y.value) ∧
          ∀ ops', (∀ op ∈ ops', op.isWithinDrag = true) → pointerAfter p ops' = last →
            besides ops' = besides ops → clickPoints p ops' = clickPoints p ops →
              s.after (.beginPan p :: ops') = s.after (.beginPan p :: ops) := by
  constructor
  · intro K _ s p ops hops t ht q hmove
    have hactive : t.1.drag.active = true := active_turns rfl hops t ht
    rw [hmove, step_pointerMove hactive]
    rfl
  · intro s p ops hops offset last
    let pressed := (s.step (.beginPan p)).session
    have hself : (pressed.step (.pointerMove p)).session = pressed := step_move_self rfl
    constructor
    · have hpressed : pressed.pane.HeldAt
          ⟨s.view.offset.x - p.x.value, s.view.offset.y - p.y.value⟩ p := by
        refine ⟨rfl, ?_, ?_⟩
        · exact (sub_add_cancel _ _).symm
        · exact (sub_add_cancel _ _).symm
      have hheld := heldAt_after hpressed hops
      have hx : offset.x = s.view.offset.x - p.x.value + last.x.value := hheld.x
      have hy : offset.y = s.view.offset.y - p.y.value + last.y.value := hheld.y
      rw [hx, hy]
      constructor
      · ring
      · ring
    · intro ops' hops' hlast hbesides hclicks
      have hdrag := after_moved (s := pressed) rfl p hops
      have hdrag' := after_moved (s := pressed) rfl p hops'
      rw [hself] at hdrag hdrag'
      calc pressed.after ops'
          = ((pressed.afterAt (besides ops') (clickPoints p ops')).step
              (.pointerMove (pointerAfter p ops'))).session := hdrag'
        _ = ((pressed.afterAt (besides ops) (clickPoints p ops)).step
              (.pointerMove last)).session := by rw [hbesides, hclicks, hlast]
        _ = pressed.after ops := hdrag.symm

/-- The pointer goes round by the right before it comes to its last point, and on the way the wheel
is turned, the theme is toggled, a matrix is copied, and one is selected by a double click. -/
def detour : List (Op Rat) :=
  [ .pointerMove ⟨110, 70⟩, .wheel true, .toggleTheme, .pointerMove ⟨240, .coordinate (-15)⟩,
    .pointerMove ⟨300, 20⟩, .act (.duplicate (.str "A")), .doubleClick ⟨260, .int (-20)⟩,
    .pointerMove ⟨0, 0⟩, .undo, .pointerMove ⟨130, 90⟩ ]

/-- The same is done, and the pointer moves no more than it has to. -/
def shortcut : List (Op Rat) :=
  [ .wheel true, .toggleTheme, .act (.duplicate (.str "A")), .pointerMove ⟨300, 20⟩,
    .doubleClick ⟨260, .int (-20)⟩, .undo, .pointerMove ⟨130, 90⟩ ]

theorem dragged_by_displacement_detour :
    (∀ op ∈ detour, op.isWithinDrag = true) ∧ (∀ op ∈ shortcut, op.isWithinDrag = true) ∧
      (∀ t ∈ ((opening : Session Rat).step (.beginPan ⟨100, 100⟩)).session.turns detour,
        ∀ q, t.2 = .pointerMove q → (t.1.step t.2).session.scene = t.1.scene) ∧
      (opening.after (.beginPan ⟨100, 100⟩ :: detour)).view.offset = ⟨80, 40⟩ ∧
      opening.after (.beginPan ⟨100, 100⟩ :: shortcut) =
        opening.after (.beginPan ⟨100, 100⟩ :: detour) := by
  have hdetour : ∀ op ∈ detour, op.isWithinDrag = true := by simp [detour, Op.isWithinDrag]
  have hshortcut : ∀ op ∈ shortcut, op.isWithinDrag = true := by simp [shortcut, Op.isWithinDrag]
  obtain ⟨hscenes, hdrags⟩ := dragged_by_displacement
  obtain ⟨⟨hx, hy⟩, hsame⟩ := hdrags opening ⟨100, 100⟩ detour hdetour
  refine ⟨hdetour, hshortcut, hscenes opening _ detour hdetour, ?_, ?_⟩
  · have hlast : pointerAfter (⟨100, 100⟩ : Point (Given Rat)) detour = ⟨130, 90⟩ := rfl
    have hoffset : (opening : Session Rat).view.offset = ⟨50.0, 50.0⟩ := rfl
    rw [hlast, hoffset] at hx hy
    apply Point.ext
    · rw [sub_eq_iff_eq_add.mp hx, Given.value_ofNat, Given.value_ofNat]
      norm_num
    · rw [sub_eq_iff_eq_add.mp hy, Given.value_ofNat, Given.value_ofNat]
      norm_num
  · exact hsame shortcut hshortcut rfl rfl rfl

/-- A double click meets a matrix before the view is dragged away from it, and none afterwards. -/
example :
    (opening.after [.beginPan ⟨0, 0⟩, .doubleClick (⟨100, 100⟩ : Point (Given Rat)),
      .pointerMove ⟨500, 0⟩]).scene.selection.matrix.isNull = false ∧
    (opening.after [.beginPan ⟨0, 0⟩, .pointerMove ⟨500, 0⟩,
      .doubleClick (⟨100, 100⟩ : Point (Given Rat))]).scene.selection.matrix.isNull = true := by
  decide +kernel

end Session

end GridSketch
