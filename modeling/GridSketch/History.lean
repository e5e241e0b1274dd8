/-!
# Undo and redo

A history is a list of steps, each from one state to another, with a place in it: the steps before
the place can be undone, those after it redone. Recording a step takes away the steps after the
place. Both halves are kept with the nearest step first. Each step has a label, by which it is
offered; what labels are is left open.

`Move` and `History.act` say the same once more for someone who drives a history from outside: what
each move answers, which state it applies, and whether it is announced.
-/

set_option autoImplicit false

namespace GridSketch

/-- A change from one state to another, with the label it is offered for undoing by. -/
structure Step (σ τ : Type) where
  before : σ
  after : σ
  label : τ

/-- The steps that can be undone and those that can be redone, each with the nearest first. -/
structure History (σ τ : Type) where
  done : List (Step σ τ) := []
  undone : List (Step σ τ) := []

namespace History

variable {σ τ : Type}

def empty : History σ τ := {}

/-- Records a step. What was undone can then no longer be redone. -/
def record (h : History σ τ) (s : Step σ τ) : History σ τ :=
  ⟨s :: h.done, []⟩

/-- Goes one step back: the state to go to and the history after it, unless there is no step. -/
def undo? (h : History σ τ) : Option (σ × History σ τ) :=
  match h.done with
  | [] => none
  | s :: rest => some (s.before, ⟨rest, s :: h.undone⟩)

def redo? (h : History σ τ) : Option (σ × History σ τ) :=
  match h.undone with
  | [] => none
  | s :: rest => some (s.after, ⟨s :: h.done, rest⟩)

@[simp] theorem undo?_record (h : History σ τ) (s : Step σ τ) :
    (h.record s).undo? = some (s.before, ⟨h.done, [s]⟩) :=
  rfl

@[simp] theorem redo?_record (h : History σ τ) (s : Step σ τ) : (h.record s).redo? = none :=
  rfl

/-- A step back can be taken forward again, to the same history. -/
theorem redo?_of_undo? {h h' : History σ τ} {x : σ} (hu : h.undo? = some (x, h')) :
    ∃ s ∈ h.done.head?, s.before = x ∧ h'.redo? = some (s.after, h) := by
  obtain ⟨done, undone⟩ := h
  cases done with
  | nil => simp [undo?] at hu
  | cons s rest =>
    simp only [undo?, Option.some.injEq, Prod.mk.injEq] at hu
    obtain ⟨rfl, rfl⟩ := hu
    exact ⟨s, rfl, rfl, rfl⟩

/-- A step forward can be taken back again, to the same history. -/
theorem undo?_of_redo? {h h' : History σ τ} {x : σ} (hr : h.redo? = some (x, h')) :
    ∃ s ∈ h.undone.head?, s.after = x ∧ h'.undo? = some (s.before, h) := by
  obtain ⟨done, undone⟩ := h
  cases undone with
  | nil => simp [redo?] at hr
  | cons s rest =>
    simp only [redo?, Option.some.injEq, Prod.mk.injEq] at hr
    obtain ⟨rfl, rfl⟩ := hr
    exact ⟨s, rfl, rfl, rfl⟩

def canUndo (h : History σ τ) : Bool :=
  !h.done.isEmpty

def canRedo (h : History σ τ) : Bool :=
  !h.undone.isEmpty

theorem canUndo_eq_isSome (h : History σ τ) : h.canUndo = h.undo?.isSome := by
  cases hd : h.done <;> simp [canUndo, undo?, hd]

theorem canRedo_eq_isSome (h : History σ τ) : h.canRedo = h.redo?.isSome := by
  cases hu : h.undone <;> simp [canRedo, redo?, hu]

/-- The label of the step that would be undone, if there is one. -/
def undoLabel? (h : History σ τ) : Option τ :=
  h.done.head?.map Step.label

/-- The label of the step that would be redone, if there is one. -/
def redoLabel? (h : History σ τ) : Option τ :=
  h.undone.head?.map Step.label

end History

/-- The same step between what is told of its states. -/
def Step.map {σ ρ τ : Type} (f : σ → ρ) (e : Step σ τ) : Step ρ τ :=
  ⟨f e.before, f e.after, e.label⟩

namespace History

variable {σ ρ τ : Type}

/-- The same history of what is told of its states. -/
def map (f : σ → ρ) (h : History σ τ) : History ρ τ :=
  ⟨h.done.map (Step.map f), h.undone.map (Step.map f)⟩

@[simp] theorem map_empty (f : σ → ρ) : ({} : History σ τ).map f = {} :=
  rfl

@[simp] theorem map_record (f : σ → ρ) (h : History σ τ) (e : Step σ τ) :
    (h.record e).map f = (h.map f).record (e.map f) :=
  rfl

@[simp] theorem undo?_map (f : σ → ρ) (h : History σ τ) :
    (h.map f).undo? = h.undo?.map fun p => (f p.1, p.2.map f) := by
  obtain ⟨done, undone⟩ := h
  cases done <;> rfl

@[simp] theorem redo?_map (f : σ → ρ) (h : History σ τ) :
    (h.map f).redo? = h.redo?.map fun p => (f p.1, p.2.map f) := by
  obtain ⟨done, undone⟩ := h
  cases undone <;> rfl

/-- What can be done to a history. A step that is pushed may have been made already, or is to be
made now. -/
inductive Move (σ τ : Type) where
  | push (step : Step σ τ) (execute : Bool)
  | undo
  | redo
  | clear

/-- What a move does: the history after it, its answer if it gives one, the state it applies if it
applies one, and whether it is announced. -/
structure Reply (σ τ : Type) where
  history : History σ τ
  answer : Option Bool
  applied : Option σ
  announced : Bool

def Reply.ofTravel (h : History σ τ) : Option (σ × History σ τ) → Reply σ τ
  | some (s, h') => ⟨h', some true, some s, true⟩
  | none => ⟨h, some false, none, false⟩

def act (h : History σ τ) : Move σ τ → Reply σ τ
  | .push step execute => ⟨h.record step, none, if execute then some step.after else none, true⟩
  | .undo => .ofTravel h h.undo?
  | .redo => .ofTravel h h.redo?
  | .clear => ⟨empty, none, none, true⟩

/-- A history with a note of every state it has applied, and of how often it announced a change to
a listener, if it has one. -/
structure Recorder (σ τ : Type) where
  history : History σ τ := {}
  applied : List σ := []
  announcements : Nat := 0
  hasListener : Bool := true

/-- Does a move and takes note of it; with its answer. -/
def Recorder.act (r : Recorder σ τ) (m : Move σ τ) : Recorder σ τ × Option Bool :=
  let reply := r.history.act m
  ( { r with
      history := reply.history
      applied := r.applied ++ reply.applied.toList
      announcements := r.announcements + if reply.announced && r.hasListener then 1 else 0 },
    reply.answer )

end History

end GridSketch
