import GridSketch.Session.Basic

/-!
# Runs of a session

`Session.step` does one operation. This file says what a *run* is, a list of operations done one
after the other, and what one step of it can do to the drawing and to the history. There are more
than thirty operations, and for the drawing and its history they come down to five things
(`Event`): nothing happens, a new drawing is committed, the history goes a step back or forward, or
it starts anew from another drawing. `Session.event` reads off which of them an operation is, from
the result of the action, the batch or the reading behind it, and `step_event` is the inversion that
everything else about runs rests on: the step does to the pair of drawing and history what its
event says, whatever else it does.

A property of drawings that every committed and every loaded drawing has is therefore a property of
all the drawings a session can come back to (`Session.Keeps`, `keeps_step`). Where some operations
do break the property, it holds along a run exactly as long as none of them is done (`states_iff`).
-/

set_option autoImplicit false

namespace GridSketch

/-! ## 1. Events -/

namespace History

variable {σ τ : Type}

/-- The steps of a history, those that can be undone and those that can be redone. -/
def steps (h : History σ τ) : List (Step σ τ) :=
  h.done ++ h.undone

/-- Going back leads to a state of the history, and no step is new. -/
theorem steps_of_undo? {h h' : History σ τ} {x : σ} (hu : h.undo? = some (x, h')) :
    (∃ e ∈ h.steps, e.before = x) ∧ ∀ e ∈ h'.steps, e ∈ h.steps := by
  obtain ⟨done, undone⟩ := h
  cases done with
  | nil => simp [undo?] at hu
  | cons e rest =>
    simp only [undo?, Option.some.injEq, Prod.mk.injEq] at hu
    obtain ⟨rfl, rfl⟩ := hu
    refine ⟨⟨e, by simp [steps], rfl⟩, ?_⟩
    intro e' hm
    simpa [steps, or_left_comm] using hm

theorem steps_of_redo? {h h' : History σ τ} {x : σ} (hr : h.redo? = some (x, h')) :
    (∃ e ∈ h.steps, e.after = x) ∧ ∀ e ∈ h'.steps, e ∈ h.steps := by
  obtain ⟨done, undone⟩ := h
  cases undone with
  | nil => simp [redo?] at hr
  | cons e rest =>
    simp only [redo?, Option.some.injEq, Prod.mk.injEq] at hr
    obtain ⟨rfl, rfl⟩ := hr
    refine ⟨⟨e, by simp [steps], rfl⟩, ?_⟩
    intro e' hm
    simpa [steps, or_left_comm] using hm

end History

/-- What an operation does to a drawing and its history. -/
inductive Event where
  | keep
  | commit (d : Drawing) (label : String)
  | back
  | forward
  | restart (d : Drawing)

namespace Event

def effect : Event → Drawing × History Drawing String → Drawing × History Drawing String
  | .keep, p => p
  | .commit d label, (current, h) => (d, h.record ⟨current, d, label⟩)
  | .back, (current, h) => h.undo?.getD (current, h)
  | .forward, (current, h) => h.redo?.getD (current, h)
  | .restart d, _ => (d, {})

/-- The drawings that an event brings in from outside the history have a property. -/
def Brings (P : Drawing → Prop) : Event → Prop
  | .commit d _ | .restart d => P d
  | .keep | .back | .forward => True

def isMove : Event → Bool
  | .back | .forward => true
  | .keep | .commit .. | .restart _ => false

/-- A property of a drawing and of every drawing in its history. -/
def Held (P : Drawing → Prop) (p : Drawing × History Drawing String) : Prop :=
  P p.1 ∧ ∀ e ∈ p.2.steps, P e.before ∧ P e.after

/-- An event keeps a property if what it brings in has it. A step back or forward brings nothing in:
what it goes to is in the history. -/
theorem held_effect {P : Drawing → Prop} {ev : Event} {p : Drawing × History Drawing String}
    (hp : Held P p) (hb : ev.Brings P) : Held P (ev.effect p) := by
  obtain ⟨current, h⟩ := p
  obtain ⟨hd, hh⟩ := hp
  cases ev with
  | keep => exact ⟨hd, hh⟩
  | commit d label =>
    refine ⟨hb, ?_⟩
    intro e hm
    simp only [effect, History.record, History.steps, List.append_nil, List.mem_cons] at hm
    rcases hm with rfl | hm
    · exact ⟨hd, hb⟩
    · exact hh e (List.mem_append_left _ hm)
  | back =>
    -- with nothing to undo the event does nothing
    cases hu : h.undo? with
    | none => simpa [effect, hu] using ⟨hd, hh⟩
    | some q =>
      obtain ⟨⟨e, hm, hx⟩, hsub⟩ := History.steps_of_undo? hu
      simp only [effect, hu, Option.getD_some]
      exact ⟨hx ▸ (hh e hm).1, fun e' hm' => hh e' (hsub e' hm')⟩
  | forward =>
    cases hr : h.redo? with
    | none => simpa [effect, hr] using ⟨hd, hh⟩
    | some q =>
      obtain ⟨⟨e, hm, hx⟩, hsub⟩ := History.steps_of_redo? hr
      simp only [effect, hr, Option.getD_some]
      exact ⟨hx ▸ (hh e hm).2, fun e' hm' => hh e' (hsub e' hm')⟩
  | restart d => exact ⟨hb, fun e hm => absurd hm (by simp [effect, History.steps])⟩

end Event

namespace Session

variable {K : Type}

section

variable [Coordinate K]

/-! ## 2. Runs -/

/-- The session after operations, done one after the other. -/
def after (s : Session K) (ops : List (Op K)) : Session K :=
  ops.foldl (fun s op => (s.step op).session) s

@[simp] theorem after_nil (s : Session K) : s.after [] = s :=
  rfl

@[simp] theorem after_cons (s : Session K) (op : Op K) (ops : List (Op K)) :
    s.after (op :: ops) = (s.step op).session.after ops :=
  rfl

theorem after_append (s : Session K) (ops ops' : List (Op K)) :
    s.after (ops ++ ops') = (s.after ops).after ops' :=
  List.foldl_append

/-- The sessions a run goes through, the first and the last included. -/
def states (s : Session K) : List (Op K) → List (Session K)
  | [] => [s]
  | op :: ops => s :: (s.step op).session.states ops

/-- The operations of a run, each with the session it is done in. -/
def turns (s : Session K) : List (Op K) → List (Session K × Op K)
  | [] => []
  | op :: ops => (s, op) :: (s.step op).session.turns ops

/-- The session a run starts from where no scene is given. -/
def opening : Session K :=
  start (Scene.fresh Scene.initial .light)

end

/-! ## 3. What a step does to the drawing and its history -/

/-- The event of a batch. It is one commit, however many of its lines were done, and none where it
was stopped or no line made a new drawing. -/
def runEvent (r : Command.Run) : Event :=
  if r.stopped.isNone && r.changed && r.fresh then
    .commit r.drawing s!"Run {r.successes} command(s)"
  else .keep

theorem runEvent_of_fresh {d : Drawing} {text : String}
    (hstop : (Command.runBatch d text).stopped = none)
    (hfresh : (Command.runBatch d text).fresh = true) :
    runEvent (Command.runBatch d text) = .commit (Command.runBatch d text).drawing
      s!"Run {(Command.runBatch d text).successes} command(s)" := by
  have hchanged : (Command.runBatch d text).changed = true := Command.changed_of_fresh hfresh
  simp [runEvent, hstop, hchanged, hfresh]

/-- The event of an action: a commit of the scene it makes, if it is done and makes one. -/
def actEvent : Except Fault Change → Event
  | .ok change =>
    match change.scene with
    | some new => .commit new.toDrawing change.label
    | none => .keep
  | .error _ => .keep

/-- The event of a drawing that is read: a new start, if it can be read. -/
def readEvent : Except Fault Drawing → Event
  | .ok d => .restart d
  | .error _ => .keep

@[simp] theorem isMove_runEvent (r : Command.Run) : (runEvent r).isMove = false := by
  unfold runEvent
  split <;> rfl

@[simp] theorem isMove_actEvent (r : Except Fault Change) : (actEvent r).isMove = false := by
  unfold actEvent
  split
  · split <;> rfl
  · rfl

@[simp] theorem isMove_readEvent (r : Except Fault Drawing) : (readEvent r).isMove = false := by
  cases r <;> rfl

def event (s : Session K) : Op K → Event
  | .act a => actEvent (a.apply s.scene)
  | .run source =>
    match source.typedLines with
    | .ok text => runEvent (Command.runBatch s.scene.toDrawing text)
    | .error _ => .keep
  | .undo => .back
  | .redo => .forward
  | .reset => .restart Scene.initial
  | .newScene => .restart {}
  | .importDocument data => readEvent (Document.read data)
  | .loadFile _ opened => readEvent (opened.bind readFile)
  | .clearTranscript | .selectMatrix _ | .selectArrow _ | .selectTint _ | .toggleTheme
  | .saveFile .. | .pointerMove _ | .pointerLeave | .beginPan _ | .endPan | .doubleClick _
  | .wheel _ | .resetView => .keep

/-- The part of a session that its history is about. -/
def record (s : Session K) : Drawing × History Drawing String :=
  (s.scene.toDrawing, s.history)

theorem scene_commit (s : Session K) (scene : Option Scene) (label : String) (answer : Answer K) :
    (s.commit scene label answer).session.scene = scene.getD s.scene := by
  cases scene with
  | none => rfl
  | some new => rfl

theorem record_act (s : Session K) (a : Action) :
    (s.act a).session.record = (actEvent (a.apply s.scene)).effect s.record := by
  unfold act actEvent
  cases a.apply s.scene with
  | error f => rfl
  | ok change =>
    cases h : change.scene <;>
      simp [commit, quiet, Event.effect, record, history, Step.map, h]

theorem record_runText (s : Session K) (shown text : String) :
    (s.runText shown text).session.record =
      (runEvent (Command.runBatch s.scene.toDrawing text)).effect s.record := by
  unfold runText runEvent
  generalize Command.runBatch s.scene.toDrawing text = r
  cases hs : r.stopped with
  | some f => simp [hs, refuse, Event.effect, record, history]
  | none =>
    cases hc : r.changed <;> cases hf : r.fresh <;>
      simp [hs, hc, hf, announce, commit, quiet, Event.effect, record, history, Step.map,
        Scene.withDrawing]

/-- A scene and the snapshots around it without their looks. -/
def drawn (p : Scene × History Scene String) : Drawing × History Drawing String :=
  (p.1.toDrawing, p.2.map Scene.toDrawing)

/-- Of the snapshot that a step leads to, only the drawing comes into it. -/
theorem record_travel (s : Session K) (step : Option (Scene × History Scene String)) :
    (s.travel step).session.record = (step.map drawn).getD s.record := by
  cases step <;> rfl

theorem undo?_history (s : Session K) : s.history.undo? = s.snapshots.undo?.map drawn :=
  History.undo?_map _ _

theorem redo?_history (s : Session K) : s.history.redo? = s.snapshots.redo?.map drawn :=
  History.redo?_map _ _

theorem toDrawing_hover (s : Scene) (r : Option CellRef) : (s.hover r).toDrawing = s.toDrawing := by
  unfold Scene.hover
  split <;> rfl

/-- Only undo and redo move along the history. -/
theorem isMove_event {s : Session K} {op : Op K} (h : (s.event op).isMove = true) :
    op = .undo ∨ op = .redo := by
  cases op with
  | undo => exact Or.inl rfl
  | redo => exact Or.inr rfl
  | act | importDocument | loadFile => simp [event] at h
  | run source =>
    cases hl : source.typedLines with
    | ok text => simp [event, hl] at h
    | error f => simp [event, hl, Event.isMove] at h
  | _ => simp [event, Event.isMove] at h

variable [Coordinate K]

/-- **A step does to the drawing and its history what its event says**, whatever it does to the
rest of the session. -/
theorem step_event (s : Session K) (op : Op K) :
    (s.step op).session.record = (s.event op).effect s.record := by
  -- the operations about looks and views leave the pair alone whichever way they branch
  cases op with
  | act a => exact record_act s a
  | run source =>
    simp only [step, event, Session.run]
    cases source.typedLines with
    | ok text => exact record_runText s source.shown text
    | error f => rfl
  | undo =>
    have htravel := record_travel s s.snapshots.undo?
    rw [← undo?_history] at htravel
    exact htravel
  | redo =>
    have htravel := record_travel s s.snapshots.redo?
    rw [← redo?_history] at htravel
    exact htravel
  | importDocument data =>
    simp only [step, event, importDocument]
    cases Document.read data <;> rfl
  | loadFile path opened =>
    simp only [step, event, loadFile]
    cases opened.bind readFile <;> rfl
  | selectMatrix name =>
    simp only [step, event, selectMatrix]
    cases s.selectable name <;> rfl
  | saveFile path opened =>
    simp only [step, event, saveFile]
    split
    · rfl
    · split <;> rfl
  | pointerMove p =>
    simp only [step, event, pointerMove]
    split
    · rfl
    · rfl
    · split
      · rfl
      · split
        · rfl
        · simp [present, announce, record, history, Event.effect, toDrawing_hover]
  | pointerLeave =>
    simp only [step, event, pointerLeave]
    split
    · simp [present, announce, record, history, Event.effect, toDrawing_hover]
    · rfl
  | doubleClick p =>
    simp only [step, event, doubleClick]
    split <;> rfl
  | clearTranscript | selectArrow | selectTint | toggleTheme | reset | newScene | beginPan | endPan
  | wheel | resetView => rfl

/-- Where an action is answered, the scene is the one that it makes, or the one before. -/
theorem scene_act {s : Session K} {action : Action} {answer : Answer K}
    (h : (s.step (.act action)).answer = .ok answer) : ∃ change,
      action.apply s.scene = .ok change ∧
      (s.step (.act action)).session.scene = change.scene.getD s.scene := by
  simp only [step, act] at h ⊢
  cases happly : action.apply s.scene with
  | error f =>
    rw [happly] at h
    cases h
  | ok change => exact ⟨change, rfl, scene_commit _ _ _ _⟩

/-! ## 4. Properties of every drawing a session holds -/

/-- A property of the drawing of a session and of every drawing of its history. -/
def Keeps (P : Drawing → Prop) (s : Session K) : Prop :=
  Event.Held P s.record

theorem keeps_start {P : Drawing → Prop} {scene : Scene} (h : P scene.toDrawing) :
    Keeps P (start scene : Session K) :=
  ⟨h, fun _ he => absurd he (by simp [start, record, history, History.steps])⟩

theorem keeps_step {P : Drawing → Prop} {s : Session K} {op : Op K} (hs : s.Keeps P)
    (hb : (s.event op).Brings P) : (s.step op).session.Keeps P := by
  rw [Keeps, step_event]
  exact Event.held_effect hs hb

/-- A property that some operations break and all others keep holds in all states of a run exactly
as long as none of those is done. The operations of the run may be of a certain sort only. -/
theorem states_iff {I P : Session K → Prop} {Breaks : Session K → Op K → Prop} {Q : Op K → Prop}
    {s : Session K} {ops : List (Op K)} (hP : ∀ s, I s → P s)
    (hkeep : ∀ s op, Q op → I s → ¬ Breaks s op → I (s.step op).session)
    (hbreak : ∀ s op, I s → Breaks s op → ¬ P (s.step op).session) (hs : I s)
    (hops : ∀ op ∈ ops, Q op) :
    (∀ s' ∈ s.states ops, P s') ↔ ∀ e ∈ s.turns ops, ¬ Breaks e.1 e.2 := by
  induction ops generalizing s with
  | nil => simpa [states, turns] using hP s hs
  | cons op ops ih =>
    by_cases hb : Breaks s op
    · -- the state right after the breaking operation is the one that lacks the property
      have hnot : ¬ P (s.step op).session := hbreak s op hs hb
      have hmem : (s.step op).session ∈ (s.step op).session.states ops := by
        cases ops <;> simp [states]
      constructor
      · intro h
        exact absurd (h _ (List.mem_cons_of_mem _ hmem)) hnot
      · intro h
        exact absurd hb (h (s, op) List.mem_cons_self)
    · have hop : Q op := hops op List.mem_cons_self
      have ih := ih (hkeep s op hop hs hb) fun op' hm => hops op' (List.mem_cons_of_mem _ hm)
      simp only [states, turns, List.forall_mem_cons]
      exact ⟨fun h => ⟨hb, ih.mp h.2⟩, fun h => ⟨hP s hs, ih.mpr h.2⟩⟩

/-- What every operation keeps is true in all states of a run. -/
theorem forall_states {I : Session K → Prop} (hkeep : ∀ s op, I s → I (s.step op).session)
    {s : Session K} (hs : I s) (ops : List (Op K)) : ∀ s' ∈ s.states ops, I s' := by
  induction ops generalizing s with
  | nil => exact List.forall_mem_singleton.mpr hs
  | cons op ops ih => exact List.forall_mem_cons.mpr ⟨hs, ih (hkeep s op hs)⟩

/-- What is true of the operations alone is true of them whatever session they are done in. -/
theorem forall_turns {P : Op K → Prop} {s : Session K} {ops : List (Op K)} :
    (∀ e ∈ s.turns ops, P e.2) ↔ ∀ op ∈ ops, P op := by
  induction ops generalizing s with
  | nil => exact iff_of_true (List.forall_mem_nil _) (List.forall_mem_nil _)
  | cons op ops ih => rw [turns, List.forall_mem_cons, List.forall_mem_cons, ih]

/-- The same where it is up to the operation alone whether it breaks the property. -/
theorem states_iff_ops {I P : Session K → Prop} {Breaks : Op K → Prop} {s : Session K}
    {ops : List (Op K)} (hP : ∀ s, I s → P s)
    (hkeep : ∀ s op, I s → ¬ Breaks op → I (s.step op).session)
    (hbreak : ∀ s op, I s → Breaks op → ¬ P (s.step op).session) (hs : I s) :
    (∀ s' ∈ s.states ops, P s') ↔ ∀ op ∈ ops, ¬ Breaks op := by
  have hstates := @states_iff K _ I P (fun _ op => Breaks op) (fun _ => True) s ops hP
    (fun s op _ => hkeep s op) hbreak hs fun _ _ => trivial
  exact hstates.trans (forall_turns (P := fun op => ¬ Breaks op))

end Session

end GridSketch
