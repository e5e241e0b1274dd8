import GridSketch.History

/-!
# A history as a list with a place in it

A history is kept as two stacks, with the nearest step on top of each. What it stands for is one
list: the steps in the order in which they were pushed, and a place among them, with the done ones
before it and the undone ones after it (`Ledger`). To undo and to redo is to move the place over a
step, and to push is to cut the list off at the place and to write the step there.

The list is read off the stacks by turning the done steps round (`History.ledger`). A step that is
undone goes from the end of what was turned round to the front of what was not, so in the list it
stays where it is. What a push after that takes away is therefore the rest of the list, and nothing
of it comes back.

Every move does to the ledger of a history what it does to the history (`ledger_act`). It gives the
same answer and applies the same state, and it is announced unless the ledger refuses it. From there
`recorder_reads_ledger` says the same of all the moves that were made since the history was empty.
-/

set_option autoImplicit false

namespace GridSketch

namespace History

/-! ## 1. Ledgers -/

/-- Steps in the order in which they were pushed, and a place among them. Those before the place are
done and those after it are undone. -/
structure Ledger (σ τ : Type) where
  steps : List (Step σ τ) := []
  place : Nat := 0

namespace Ledger

variable {σ τ : Type}

def hasEarlier (l : Ledger σ τ) : Bool :=
  0 < l.place

def hasLater (l : Ledger σ τ) : Bool :=
  l.place < l.steps.length

/-- The step right before the place. -/
def earlier? (l : Ledger σ τ) : Option (Step σ τ) :=
  if l.hasEarlier then l.steps[l.place - 1]? else none

/-- The step right after the place. -/
def later? (l : Ledger σ τ) : Option (Step σ τ) :=
  l.steps[l.place]?

/-- The ledger after a move. A step that is pushed takes the stead of all that come after the place,
whether it is made now or was made already. -/
def next (l : Ledger σ τ) : Move σ τ → Ledger σ τ
  | .push step _ => ⟨l.steps.take l.place ++ [step], l.place + 1⟩
  | .undo => if l.hasEarlier then { l with place := l.place - 1 } else l
  | .redo => if l.hasLater then { l with place := l.place + 1 } else l
  | .clear => {}

/-- Whether there was a step to move over, for the two moves that need one. -/
def answer? (l : Ledger σ τ) : Move σ τ → Option Bool
  | .undo => some l.hasEarlier
  | .redo => some l.hasLater
  | .push .. | .clear => none

/-- The state that a move applies: what was before the step that it goes back over, or what comes
after the one that it goes forward over or makes. -/
def applied? (l : Ledger σ τ) : Move σ τ → Option σ
  | .push step execute => if execute then some step.after else none
  | .undo => l.earlier?.map Step.before
  | .redo => l.later?.map Step.after
  | .clear => none

/-- Whether a move is refused, because there is no step to move over. -/
def refuses (l : Ledger σ τ) : Move σ τ → Bool
  | .undo => !l.hasEarlier
  | .redo => !l.hasLater
  | .push .. | .clear => false

/-- The ledger after moves, made one after the other. -/
def after (l : Ledger σ τ) (ms : List (Move σ τ)) : Ledger σ τ :=
  ms.foldl next l

/-- The moves, each with the ledger it is made in. -/
def turns (l : Ledger σ τ) : List (Move σ τ) → List (Ledger σ τ × Move σ τ)
  | [] => []
  | m :: ms => (l, m) :: (l.next m).turns ms

end Ledger

/-! ## 2. One move -/

variable {σ τ : Type}

/-- The list that two stacks stand for. -/
def ledger (h : History σ τ) : Ledger σ τ :=
  ⟨h.done.reverse ++ h.undone, h.done.length⟩

theorem hasEarlier_ledger (h : History σ τ) : h.ledger.hasEarlier = h.canUndo := by
  cases hdone : h.done <;> simp [Ledger.hasEarlier, ledger, canUndo, hdone]

theorem hasLater_ledger (h : History σ τ) : h.ledger.hasLater = h.canRedo := by
  cases hundone : h.undone <;> simp [Ledger.hasLater, ledger, canRedo, hundone]

theorem earlier?_ledger (h : History σ τ) : h.ledger.earlier? = h.done.head? := by
  rw [Ledger.earlier?, hasEarlier_ledger, canUndo]
  cases hdone : h.done with
  | nil => rfl
  | cons e rest => simp [ledger, hdone]

theorem later?_ledger (h : History σ τ) : h.ledger.later? = h.undone.head? := by
  have hplace : h.ledger.place = h.done.reverse.length := by simp [ledger]
  rw [Ledger.later?, hplace, ledger, List.getElem?_append_right (Nat.le_refl _)]
  cases hundone : h.undone <;> simp

/-- **A move does to the ledger of a history what it does to the history.** -/
theorem ledger_act (h : History σ τ) (m : Move σ τ) :
    (h.act m).history.ledger = h.ledger.next m := by
  cases m with
  | push e execute =>
    -- what is left of the list at the place are the done steps
    have hdone : h.ledger.steps.take h.ledger.place = h.done.reverse :=
      List.take_left' (by simp [ledger])
    rw [Ledger.next, hdone]
    simp [act, record, ledger]
  | undo =>
    rw [Ledger.next, hasEarlier_ledger, canUndo]
    cases hdone : h.done with
    | nil => simp [act, undo?, Reply.ofTravel, hdone]
    | cons e rest => simp [act, undo?, Reply.ofTravel, ledger, hdone]
  | redo =>
    rw [Ledger.next, hasLater_ledger, canRedo]
    cases hundone : h.undone with
    | nil => simp [act, redo?, Reply.ofTravel, hundone]
    | cons e rest => simp [act, redo?, Reply.ofTravel, ledger, hundone]
  | clear => rfl

theorem answer_act (h : History σ τ) (m : Move σ τ) : (h.act m).answer = h.ledger.answer? m := by
  cases m with
  | push e execute => rfl
  | undo =>
    rw [Ledger.answer?, hasEarlier_ledger, canUndo_eq_isSome]
    cases hundo : h.undo? <;> simp [act, Reply.ofTravel, hundo]
  | redo =>
    rw [Ledger.answer?, hasLater_ledger, canRedo_eq_isSome]
    cases hredo : h.redo? <;> simp [act, Reply.ofTravel, hredo]
  | clear => rfl

theorem applied_act (h : History σ τ) (m : Move σ τ) :
    (h.act m).applied = h.ledger.applied? m := by
  cases m with
  | push e execute => rfl
  | undo =>
    rw [Ledger.applied?, earlier?_ledger]
    cases hdone : h.done <;> simp [act, undo?, Reply.ofTravel, hdone]
  | redo =>
    rw [Ledger.applied?, later?_ledger]
    cases hundone : h.undone <;> simp [act, redo?, Reply.ofTravel, hundone]
  | clear => rfl

theorem announced_act (h : History σ τ) (m : Move σ τ) :
    (h.act m).announced = !h.ledger.refuses m := by
  cases m with
  | push e execute => rfl
  | undo =>
    rw [Ledger.refuses, hasEarlier_ledger, canUndo_eq_isSome]
    cases hundo : h.undo? <;> simp [act, Reply.ofTravel, hundo]
  | redo =>
    rw [Ledger.refuses, hasLater_ledger, canRedo_eq_isSome]
    cases hredo : h.redo? <;> simp [act, Reply.ofTravel, hredo]
  | clear => rfl

/-! ## 3. Runs of moves -/

namespace Recorder

/-- The recorder after moves, made one after the other. -/
def after (r : Recorder σ τ) (ms : List (Move σ τ)) : Recorder σ τ :=
  ms.foldl (fun r m => (r.act m).1) r

/-- What the moves answer, one after the other. -/
def answers (r : Recorder σ τ) : List (Move σ τ) → List (Option Bool)
  | [] => []
  | m :: ms => (r.act m).2 :: (r.act m).1.answers ms

theorem ledger_step (r : Recorder σ τ) (m : Move σ τ) :
    (r.act m).1.history.ledger = r.history.ledger.next m :=
  ledger_act r.history m

theorem ledger_after (r : Recorder σ τ) (ms : List (Move σ τ)) :
    (r.after ms).history.ledger = r.history.ledger.after ms := by
  induction ms generalizing r with
  | nil => rfl
  | cons m ms ih =>
    calc ((r.act m).1.after ms).history.ledger
        = (r.act m).1.history.ledger.after ms := ih _
      _ = (r.history.ledger.next m).after ms := by rw [ledger_step]

theorem answers_eq (r : Recorder σ τ) (ms : List (Move σ τ)) :
    r.answers ms = (r.history.ledger.turns ms).map fun t => t.1.answer? t.2 := by
  induction ms generalizing r with
  | nil => rfl
  | cons m ms ih =>
    have hanswer : (r.act m).2 = r.history.ledger.answer? m := answer_act r.history m
    rw [answers, ih, ledger_step, hanswer, Ledger.turns, List.map_cons]

theorem applied_after (r : Recorder σ τ) (ms : List (Move σ τ)) :
    (r.after ms).applied =
      r.applied ++ (r.history.ledger.turns ms).filterMap fun t => t.1.applied? t.2 := by
  induction ms generalizing r with
  | nil => exact (List.append_nil _).symm
  | cons m ms ih =>
    have happlied : (r.act m).1.applied = r.applied ++ (r.history.ledger.applied? m).toList := by
      rw [← applied_act]
      rfl
    have hrest : (r.after (m :: ms)).applied = _ := ih (r.act m).1
    rw [hrest, ledger_step, happlied, Ledger.turns, List.filterMap_cons, List.append_assoc]
    cases r.history.ledger.applied? m <;> rfl

theorem announcements_after (r : Recorder σ τ) (ms : List (Move σ τ)) :
    let turns := r.history.ledger.turns ms
    (r.after ms).announcements =
      r.announcements + if r.hasListener then turns.countP fun t => !t.1.refuses t.2 else 0 := by
  dsimp only
  induction ms generalizing r with
  | nil => simp [after, Ledger.turns]
  | cons m ms ih =>
    have hcount : (r.act m).1.announcements =
        r.announcements + if !r.history.ledger.refuses m && r.hasListener then 1 else 0 := by
      rw [← announced_act]
      rfl
    have hlistener : (r.act m).1.hasListener = r.hasListener := rfl
    have hrest : (r.after (m :: ms)).announcements = _ := ih (r.act m).1
    rw [hrest, ledger_step, hcount, hlistener, Ledger.turns, List.countP_cons]
    cases r.hasListener with
    | false => simp
    | true => simp [Nat.add_assoc, Nat.add_comm]

/-- **The moves of a history are those of a list with a place in it.** From the empty history on,
whatever is pushed, undone, redone and cleared and in whatever order, the same is answered, the same
states are applied in the same order, and the same can be undone and redone, by the same labels. A
listener is told once of every move but those that are refused, and nobody is told where there is
none. -/
theorem recorder_reads_ledger (listens : Bool) (ms : List (Move σ τ)) :
    let start : Recorder σ τ := { hasListener := listens }
    let r := start.after ms
    let l := ({} : Ledger σ τ).after ms
    let turns := ({} : Ledger σ τ).turns ms
    start.answers ms = turns.map (fun t => t.1.answer? t.2) ∧
      r.applied = turns.filterMap (fun t => t.1.applied? t.2) ∧
      r.announcements = (if listens then turns.countP fun t => !t.1.refuses t.2 else 0) ∧
      r.history.canUndo = l.hasEarlier ∧ r.history.canRedo = l.hasLater ∧
      r.history.undoLabel? = l.earlier?.map Step.label ∧
      r.history.redoLabel? = l.later?.map Step.label := by
  intro start r l turns
  have hledger : r.history.ledger = l := start.ledger_after ms
  have happlied : r.applied = [] ++ turns.filterMap _ := start.applied_after ms
  have hannounced : r.announcements = 0 + if listens then turns.countP _ else 0 :=
    start.announcements_after ms
  refine ⟨start.answers_eq ms, ?_, ?_, ?_, ?_, ?_, ?_⟩
  · rw [happlied, List.nil_append]
  · rw [hannounced, Nat.zero_add]
  · rw [← hledger, hasEarlier_ledger]
  · rw [← hledger, hasLater_ledger]
  · rw [← hledger, earlier?_ledger, undoLabel?]
  · rw [← hledger, later?_ledger, redoLabel?]

/-- What was undone when a step is pushed does not come back, and is not applied again. -/
example :
    let ms : List (Move Nat String) :=
      [.push ⟨0, 1, "one"⟩ true, .push ⟨1, 2, "two"⟩ true, .undo, .undo,
        .push ⟨0, 3, "three"⟩ false, .redo, .undo]
    (({} : Recorder Nat String).after ms).applied = [1, 2, 1, 0, 0] ∧
      (({} : Ledger Nat String).after ms).later?.map Step.label = some "three" := by
  decide

end Recorder

end History

end GridSketch
