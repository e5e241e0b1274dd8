import GridSketch.Proofs.Command.Break
import GridSketch.Proofs.Session.Run

/-!
# Operations that are refused

An operation on a session is answered or refused. Most operations take several steps that may fail,
in an order of their own: a name is checked, a cell is looked for, a number is read, a grid is laid
out, a document is taken apart. Whichever of them fails, nothing has been put in its place by then.
So a refused operation leaves the session as it was, and nobody is told (`step_of_error`), but for
two exceptions (`Session.Leaves`). A batch that is stopped on its way has written to the transcript,
behind the lines that were there. And a view that is dragged is moved along one axis after the
other: where the way along the second is too long for a coordinate, the view has been moved along
the first already (`Drag.Strays`). It takes integers to get there, and coordinates with a bound, as
doubles have one. No fraction is out of range (`Drag.not_strays_rat`).

Nothing that is done reads the transcript (`step_withTranscript`). So the operations of a run that
are refused might as well not have been tried, unless one of them strays: up to the transcript the
run comes to the same without them (`after_accepted`).
-/

set_option autoImplicit false

namespace GridSketch

/-! ## 1. Drags that stop half-way -/

section

variable {K : Type} [Coordinate K]

/-- A difference is one of integers, or a coordinate. -/
theorem Given.minus_eq_ok {a b way : Given K} (h : a.minus b = .ok way) :
    (∃ m n, a = .int m ∧ b = .int n ∧ way = .int (m - n)) ∨ ∃ k, way = .coordinate k := by
  cases a with
  | int m =>
    cases b with
    | int n => exact Or.inl ⟨m, n, rfl, rfl, (Except.ok.inj h).symm⟩
    | coordinate k =>
      simp only [minus, bind_eq_ok, pure_eq_ok] at h
      obtain ⟨x, _, y, _, hway⟩ := h
      exact Or.inr ⟨_, hway.symm⟩
  | coordinate k =>
    simp only [minus, bind_eq_ok, pure_eq_ok] at h
    obtain ⟨x, _, y, _, hway⟩ := h
    exact Or.inr ⟨_, hway.symm⟩

theorem Coordinate.ofInt_eq_error {n : Int} {f : Fault} :
    (Coordinate.ofInt n : Except Fault K) = .error f ↔
      Coordinate.ofInt? (K := K) n = none ∧ f = .misfit .tooLarge := by
  unfold Coordinate.ofInt
  cases Coordinate.ofInt? (K := K) n with
  | some k => exact ⟨nofun, nofun⟩
  | none => exact ⟨fun h => ⟨rfl, (Except.error.inj h).symm⟩, fun h => by rw [h.2]⟩

namespace Drag

/-- On its way to a point a drag gets along the first axis, by so much, and not along the second:
the way is between two integers there, and too long for a coordinate. -/
def Strays (d : Drag K) (p : Point (Given K)) (dx : K) : Prop :=
  ∃ last way m n, d.last = some last ∧ p.x.minus last.x = .ok way ∧ way.read = .ok dx ∧
    p.y = .int m ∧ last.y = .int n ∧ Coordinate.ofInt? (K := K) (m - n) = none

/-- A drag that strays leaves the view where it has got. -/
theorem move_of_strays {d : Drag K} {p : Point (Given K)} {dx : K} (h : d.Strays p dx)
    (v : Viewport K) : d.move v p = some ⟨d, v.panX dx, some (.misfit .tooLarge)⟩ := by
  obtain ⟨last, way, m, n, hlast, hx, hdx, hm, hn, hlong⟩ := h
  have hdrag : d = press last := congrArg Drag.mk hlast
  have hway : displacement last p = .ok ⟨way, .int (m - n)⟩ := by
    rw [displacement, hx, hm, hn]
    rfl
  have hunread : (Given.int (m - n) : Given K).read = .error (.misfit .tooLarge) :=
    Coordinate.ofInt_eq_error.mpr ⟨hlong, rfl⟩
  rw [move, hlast, Option.map_some, pull, hway]
  dsimp only [Viewport.pan]
  rw [hdx, hunread, hdrag]

/-- **A move that is refused has done nothing, or else the drag has strayed.** -/
theorem move_of_fault {d d' : Drag K} {v v' : Viewport K} {p : Point (Given K)} {f : Fault}
    (h : d.move v p = some ⟨d', v', some f⟩) :
    d' = d ∧ (v' = v ∨ ∃ dx, d.Strays p dx ∧ v' = v.panX dx) := by
  obtain ⟨last, hlast, hpull⟩ := Option.map_eq_some_iff.mp h
  have hdrag : d = press last := congrArg Drag.mk hlast
  unfold pull at hpull
  cases hway : displacement last p with
  | error e =>
    rw [hway] at hpull
    obtain ⟨rfl, rfl, _⟩ := Moved.mk.inj hpull
    exact ⟨hdrag.symm, Or.inl rfl⟩
  | ok way =>
    rw [hway] at hpull
    dsimp only [Viewport.pan] at hpull
    cases hx : way.x.read with
    | error e =>
      rw [hx] at hpull
      obtain ⟨rfl, rfl, _⟩ := Moved.mk.inj hpull
      exact ⟨hdrag.symm, Or.inl rfl⟩
    | ok dx =>
      rw [hx] at hpull
      dsimp only at hpull
      cases hy : way.y.read with
      | ok dy =>
        rw [hy] at hpull
        exact nomatch (Moved.mk.inj hpull).2.2
      | error e =>
        rw [hy] at hpull
        obtain ⟨rfl, rfl, _⟩ := Moved.mk.inj hpull
        -- the way along the second axis could be told, so what is not read is an integer
        simp only [displacement, bind_eq_ok, pure_eq_ok] at hway
        obtain ⟨dx', hdx, dy', hdy, rfl⟩ := hway
        rcases Given.minus_eq_ok hdy with ⟨m, n, hm, hn, hlong⟩ | ⟨k, hk⟩
        · dsimp only at hx hy
          rw [hlong] at hy
          have hnone := (Coordinate.ofInt_eq_error.mp hy).1
          exact ⟨hdrag.symm, Or.inr ⟨dx, ⟨last, dx', m, n, hlast, hdx, hx, hm, hn, hnone⟩, rfl⟩⟩
        · dsimp only at hy
          rw [hk] at hy
          exact nomatch hy

end Drag

end

/-- Every integer is a fraction, so over fractions no drag strays. -/
theorem Drag.not_strays_rat (d : Drag Rat) (p : Point (Given Rat)) (dx : Rat) : ¬ d.Strays p dx :=
  fun ⟨_, _, _, _, _, _, _, _, _, hlong⟩ => nomatch hlong

namespace Session

variable {K : Type} {s : Session K}

/-- The session with another transcript. -/
def withTranscript (s : Session K) (lines : List String) : Session K :=
  { s with transcript := lines }

@[simp] theorem withTranscript_self (s : Session K) : s.withTranscript s.transcript = s :=
  rfl

@[simp] theorem scene_withTranscript (s : Session K) (lines : List String) :
    (s.withTranscript lines).scene = s.scene :=
  rfl

@[simp] theorem view_withTranscript (s : Session K) (lines : List String) :
    (s.withTranscript lines).view = s.view :=
  rfl

@[simp] theorem drag_withTranscript (s : Session K) (lines : List String) :
    (s.withTranscript lines).drag = s.drag :=
  rfl

@[simp] theorem snapshots_withTranscript (s : Session K) (lines : List String) :
    (s.withTranscript lines).snapshots = s.snapshots :=
  rfl

@[simp] theorem withTranscript_withTranscript (s : Session K) (lines lines' : List String) :
    (s.withTranscript lines).withTranscript lines' = s.withTranscript lines' :=
  rfl

/-! ## 2. One operation -/

section

variable [Coordinate K]

/-- What may be left of a session by an operation that is refused in it: the session itself, the
session with what a batch has written behind its transcript, or with the view as far as a drag has
got. -/
inductive Leaves (s : Session K) : Op K → Session K → Prop
  | same (op : Op K) : Leaves s op s
  | written (source : Json) (lines : List String) :
    Leaves s (.run source) (s.withTranscript (s.transcript ++ lines))
  | strayed {p : Point (Given K)} {dx : K} (h : s.drag.Strays p dx) :
    Leaves s (.pointerMove p) { s with view := s.view.panX dx }

/-- The turn of an operation is answered, or refused with no more left than may be. -/
def AnswersOrRefuses (s : Session K) (op : Op K) (t : Turn K) : Prop :=
  (∃ a, t.answer = .ok a) ∨ ∃ s' f, s.Leaves op s' ∧ t = s'.refuse f

variable {op : Op K}

theorem answers {t : Turn K} {a : Answer K} (h : t.answer = .ok a) : s.AnswersOrRefuses op t :=
  Or.inl ⟨a, h⟩

theorem refuses (s : Session K) (f : Fault) : s.AnswersOrRefuses op (s.refuse f) :=
  Or.inr ⟨s, f, .same op, rfl⟩

theorem answers_commit (scene : Option Scene) (label : String) (a : Answer K) (s' : Session K) :
    s.AnswersOrRefuses op (s'.commit scene label a) := by
  cases scene with
  | none => exact answers rfl
  | some new => exact answers rfl

theorem answers_travel (step : Option (Scene × History Scene String)) :
    s.AnswersOrRefuses op (s.travel step) := by
  cases step with
  | none => exact answers rfl
  | some p => exact answers rfl

/-- A batch that is stopped has written to the transcript before it is refused. -/
theorem runText_refuses (s : Session K) (source : Json) (shown text : String) :
    s.AnswersOrRefuses (.run source) (s.runText shown text) := by
  unfold runText
  dsimp only
  split
  · rename_i f _
    exact Or.inr ⟨_, f, .written source _, rfl⟩
  · split
    · exact answers_commit _ _ _ _
    · exact answers rfl

/-- A move of the pointer is refused for the point, or for the way that a drag has to go. -/
theorem pointerMove_refuses (s : Session K) (p : Point (Given K)) :
    s.AnswersOrRefuses (.pointerMove p) (s.pointerMove p) := by
  unfold pointerMove
  split
  · exact answers rfl
  · rename_i drag view f hmove
    obtain ⟨rfl, rfl | ⟨dx, hstrays, rfl⟩⟩ := Drag.move_of_fault hmove
    · exact refuses s f
    · exact Or.inr ⟨_, f, .strayed hstrays, rfl⟩
  · split
    · exact refuses s _
    · split
      · exact answers rfl
      · exact answers rfl

/-- **An operation is answered, or refused without a trace** but for what a batch has written to
the transcript and for the way that a drag has strayed. -/
theorem step_refuses (s : Session K) (op : Op K) : s.AnswersOrRefuses op (s.step op) := by
  cases op with
  | run source =>
    simp only [step, run]
    cases source.typedLines with
    | ok text => exact runText_refuses s source source.shown text
    | error f => exact refuses s f
  | act a =>
    simp only [step, act]
    cases a.apply s.scene with
    | ok change => exact answers_commit _ _ _ s
    | error f => exact refuses s f
  | undo => exact answers_travel _
  | redo => exact answers_travel _
  | selectMatrix name =>
    simp only [step, selectMatrix]
    cases s.selectable name with
    | ok u => exact answers rfl
    | error f => exact refuses s f
  | importDocument data =>
    simp only [step, importDocument]
    cases Document.read data with
    | ok d => exact answers rfl
    | error f => exact refuses s f
  | loadFile path opened =>
    simp only [step, loadFile]
    cases opened.bind readFile with
    | ok d => exact answers rfl
    | error f => exact refuses s f
  | saveFile path opened =>
    simp only [step, saveFile]
    split
    · exact refuses s _
    · split
      · exact answers rfl
      · exact refuses s _
  | pointerMove p => exact s.pointerMove_refuses p
  | pointerLeave =>
    simp only [step, pointerLeave]
    split
    · exact answers rfl
    · exact answers rfl
  | doubleClick p =>
    simp only [step, doubleClick]
    split
    · exact refuses s _
    · exact answers rfl
    · exact answers rfl
  | clearTranscript | selectArrow | selectTint | toggleTheme | reset | newScene | beginPan | endPan
  | wheel | resetView => exact answers rfl

theorem step_of_error {f : Fault} (h : (s.step op).answer = .error f) :
    ∃ s', s.Leaves op s' ∧ s.step op = s'.refuse f := by
  obtain ⟨a, ha⟩ | ⟨s', f', hleaves, hf⟩ := s.step_refuses op
  · exact nomatch ha.symm.trans h
  · rw [hf] at h
    obtain rfl := Except.error.inj h
    exact ⟨s', hleaves, hf⟩

/-- An operation that makes a drag stray: the move of the pointer to a point that is too far along
the second axis alone. -/
def Strays (s : Session K) (op : Op K) (dx : K) : Prop :=
  ∃ p, op = .pointerMove p ∧ s.drag.Strays p dx

/-- A drag that strays is refused, and nobody is told that the view has moved. -/
theorem step_of_strays {dx : K} (h : s.Strays op dx) :
    s.step op = refuse { s with view := s.view.panX dx } (.misfit .tooLarge) := by
  obtain ⟨p, rfl, hstrays⟩ := h
  simp only [step, pointerMove, Drag.move_of_strays hstrays]

/-- **What is left of an operation that is refused.** The scene, the snapshots, a drag of the view
and the current file are what they were, and nobody has been told of a change. There may be new
lines behind those of the transcript, where the operation was to run a batch. The view is what it
was, unless the operation has made a drag stray, and then it has been moved by so much along the
first axis. -/
theorem left_of_refused (s : Session K) (op : Op K) (f : Fault)
    (h : (s.step op).answer = .error f) :
    let turn := s.step op
    turn.session.scene = s.scene ∧ turn.session.snapshots = s.snapshots ∧
      turn.session.drag = s.drag ∧ turn.session.file = s.file ∧
      turn.notices = { scene := 0, history := 0 } ∧
      (∃ lines, turn.session.transcript = s.transcript ++ lines ∧
        (lines ≠ [] → ∃ source, op = .run source)) ∧
      ((∀ dx, ¬ s.Strays op dx) → turn.session.view = s.view) ∧
      ∀ dx, s.Strays op dx → turn.session.view = s.view.panX dx := by
  obtain ⟨s', hleaves, hturn⟩ := step_of_error h
  intro turn
  have hsession : turn.session = s' := congrArg Turn.session hturn
  have hnotices : turn.notices = { scene := 0, history := 0 } := congrArg Turn.notices hturn
  have hstrayed : ∀ dx, s.Strays op dx → turn.session.view = s.view.panX dx :=
    fun dx hstrays => congrArg (fun t => t.session.view) (step_of_strays hstrays)
  rw [hsession] at hstrayed ⊢
  have hno : ∃ lines : List String, s.transcript = s.transcript ++ lines ∧
      (lines ≠ [] → ∃ source, op = .run source) :=
    ⟨[], (List.append_nil _).symm, fun hne => absurd rfl hne⟩
  cases hleaves with
  | same => exact ⟨rfl, rfl, rfl, rfl, hnotices, hno, fun _ => rfl, hstrayed⟩
  | written source lines =>
    exact ⟨rfl, rfl, rfl, rfl, hnotices, ⟨lines, rfl, fun _ => ⟨source, rfl⟩⟩, fun _ => rfl,
      hstrayed⟩
  | strayed hstrays =>
    exact ⟨rfl, rfl, rfl, rfl, hnotices, hno, fun hnot => absurd ⟨_, rfl, hstrays⟩ (hnot _),
      hstrayed⟩

/-- A batch that is stopped by an integer that is too long. -/
theorem refused_longInteger :
    ∃ f, ((opening : Session Rat).step (.run (.str Command.longInteger))).answer = .error f ∧
      ((opening : Session Rat).step (.run (.str Command.longInteger))).session.scene =
        Scene.fresh Scene.initial .light := by
  have hstopped :=
    Command.stopped_of_fatal Command.commandsIn_longInteger Command.fatal_longInteger
  obtain ⟨f, hf⟩ := Option.ne_none_iff_exists'.mp hstopped
  have hanswer := run_of_stopped (opening : Session Rat) hf
  exact ⟨f, hanswer, (left_of_refused opening _ f hanswer).1⟩

end

/-! ### A drag over doubles -/

/-- The view is being dragged, and the button was pressed in the corner of the screen. -/
def dragging : Session Float :=
  (opening.step (.beginPan ⟨0, 0⟩)).session

/-- A little to the right of the corner, and further down than any double is great. -/
def farDown : Point (Given Float) :=
  ⟨5, .int (Nat.pow 10 400)⟩

theorem strays_farDown : dragging.Strays (.pointerMove farDown) 5.0 := by
  have hlong : (Coordinate.ofInt? (K := Float) (Nat.pow 10 400 - 0)).isNone = true := by
    decide +kernel
  exact ⟨farDown, rfl, ⟨0, 0⟩, 5, Nat.pow 10 400, 0, rfl, rfl, rfl, rfl, rfl,
    Option.isNone_iff_eq_none.mp hlong⟩

theorem view_farDown : dragging.view.panX 5.0 ≠ dragging.view := by
  intro hsame
  have hx : dragging.view.offset.x + 5.0 = dragging.view.offset.x :=
    congrArg (fun v => v.offset.x) hsame
  exact absurd hx (by decide)

/-- The drag is refused after it has moved the view to the right. -/
theorem moved_by_refused :
    (∃ f, (dragging.step (.pointerMove farDown)).answer = .error f) ∧
      (dragging.step (.pointerMove farDown)).session.view ≠ dragging.view := by
  rw [step_of_strays strays_farDown]
  exact ⟨⟨_, rfl⟩, view_farDown⟩

/-! ## 3. Runs without the operations that are refused -/

/-- Under another transcript a batch does the same, and writes behind the lines of that one. -/
theorem runText_withTranscript (s : Session K) (shown text : String) (lines : List String) :
    (s.withTranscript lines).runText shown text =
      { s.runText shown text with
        session := (s.runText shown text).session.withTranscript
          (lines ++ (Command.runBatch s.scene.toDrawing text).transcript shown text) } := by
  unfold runText
  rw [scene_withTranscript]
  generalize Command.runBatch s.scene.toDrawing text = r
  dsimp only
  cases r.stopped with
  | some f => rfl
  | none =>
    cases r.changed with
    | false => rfl
    | true =>
      cases r.fresh with
      | true => rfl
      | false => rfl

variable [Coordinate K]

/-- Nothing that is done reads the transcript: what an operation does to a session it does under any
other transcript as well. -/
theorem step_withTranscript (s : Session K) (op : Op K) (lines : List String) :
    ∃ lines', (s.withTranscript lines).step op =
      { s.step op with session := (s.step op).session.withTranscript lines' } := by
  cases op with
  | run source =>
    simp only [step, run]
    cases source.typedLines with
    | error f => exact ⟨lines, rfl⟩
    | ok text => exact ⟨_, s.runText_withTranscript source.shown text lines⟩
  | act a =>
    refine ⟨lines, ?_⟩
    simp only [step, act]
    rw [scene_withTranscript]
    cases a.apply s.scene with
    | error f => rfl
    | ok change =>
      dsimp only
      cases change.scene with
      | none => rfl
      | some new => rfl
  | undo =>
    refine ⟨lines, ?_⟩
    simp only [step]
    rw [snapshots_withTranscript]
    cases s.snapshots.undo? with
    | none => rfl
    | some p => rfl
  | redo =>
    refine ⟨lines, ?_⟩
    simp only [step]
    rw [snapshots_withTranscript]
    cases s.snapshots.redo? with
    | none => rfl
    | some p => rfl
  | selectMatrix name =>
    refine ⟨lines, ?_⟩
    have hsame : (s.withTranscript lines).selectable name = s.selectable name := rfl
    simp only [step, selectMatrix, hsame]
    cases s.selectable name with
    | ok u => rfl
    | error f => rfl
  | importDocument data =>
    refine ⟨lines, ?_⟩
    simp only [step, importDocument]
    cases Document.read data with
    | ok d => rfl
    | error f => rfl
  | loadFile path opened =>
    refine ⟨lines, ?_⟩
    simp only [step, loadFile]
    cases opened.bind readFile with
    | ok d => rfl
    | error f => rfl
  | saveFile path opened =>
    refine ⟨lines, ?_⟩
    have hsame : (s.withTranscript lines).savePath path = s.savePath path := rfl
    simp only [step, saveFile, hsame]
    rw [scene_withTranscript]
    split
    · rfl
    · cases opened >>= fun _ => written s.scene.toDrawing with
      | ok text => rfl
      | error f => rfl
  | pointerMove p =>
    refine ⟨lines, ?_⟩
    simp only [step, pointerMove]
    rw [drag_withTranscript, view_withTranscript, scene_withTranscript]
    cases s.drag.move s.view p with
    | some moved =>
      obtain ⟨drag, view, fault⟩ := moved
      cases fault with
      | none => rfl
      | some f => rfl
    | none =>
      dsimp only
      cases p.read >>= s.scene.cellAt s.view with
      | error f => rfl
      | ok r =>
        dsimp only
        cases r == s.scene.hovered with
        | true => rfl
        | false => rfl
  | pointerLeave =>
    refine ⟨lines, ?_⟩
    simp only [step, pointerLeave]
    rw [scene_withTranscript]
    cases s.scene.hovered.isSome with
    | true => rfl
    | false => rfl
  | doubleClick p =>
    refine ⟨lines, ?_⟩
    simp only [step, doubleClick]
    rw [scene_withTranscript, view_withTranscript]
    cases p.read >>= s.scene.matrixAt s.view with
    | error f => rfl
    | ok found =>
      cases found with
      | none => rfl
      | some n => rfl
  | clearTranscript => exact ⟨[], rfl⟩
  | selectArrow | selectTint | toggleTheme | reset | newScene | beginPan | endPan | wheel
  | resetView => exact ⟨lines, rfl⟩

/-- The operations of a run that are answered. -/
def accepted (s : Session K) : List (Op K) → List (Op K)
  | [] => []
  | op :: ops =>
    if (s.step op).answer.isOk then op :: accepted (s.step op).session ops
    else accepted (s.step op).session ops

theorem after_withTranscript (s : Session K) (ops : List (Op K)) (lines : List String) :
    ∃ lines', (s.withTranscript lines).after ops = (s.after ops).withTranscript lines' := by
  induction ops generalizing s lines with
  | nil => exact ⟨lines, rfl⟩
  | cons op ops ih =>
    obtain ⟨lines', hstep⟩ := s.step_withTranscript op lines
    rw [after_cons, after_cons, hstep]
    exact ih _ lines'

/-- **Operations that are refused might as well not have been tried**: without them a run comes to
the same session, up to the transcript, if no drag strays in it. -/
theorem after_accepted (s : Session K) (ops : List (Op K))
    (hops : ∀ e ∈ s.turns ops, ∀ dx, ¬ e.1.Strays e.2 dx) :
    ∃ lines, s.after ops = (s.after (s.accepted ops)).withTranscript lines := by
  induction ops generalizing s with
  | nil => exact ⟨s.transcript, rfl⟩
  | cons op ops ih =>
    obtain ⟨hop, hrest⟩ := List.forall_mem_cons.mp hops
    obtain ⟨lines, hsame⟩ := ih (s.step op).session hrest
    rw [after_cons, accepted]
    cases ha : (s.step op).answer with
    | ok a =>
      rw [if_pos (by rfl), after_cons]
      exact ⟨lines, hsame⟩
    | error f =>
      rw [if_neg (by exact nofun)]
      -- what the refused operation leaves is the session it found, up to the transcript
      obtain ⟨new, hleft⟩ : ∃ new, (s.step op).session = s.withTranscript new := by
        obtain ⟨s', hleaves, hturn⟩ := step_of_error ha
        have hsession : (s.step op).session = s' := congrArg Turn.session hturn
        rw [hsession]
        cases hleaves with
        | same => exact ⟨s.transcript, rfl⟩
        | written source lines => exact ⟨_, rfl⟩
        | strayed hstrays => exact absurd ⟨_, rfl, hstrays⟩ (hop _)
      generalize accepted (s.step op).session ops = rest at hsame ⊢
      obtain ⟨lines', hrun⟩ := s.after_withTranscript rest new
      refine ⟨lines, ?_⟩
      rw [hsame, hleft, hrun, withTranscript_withTranscript]

end Session

end GridSketch
