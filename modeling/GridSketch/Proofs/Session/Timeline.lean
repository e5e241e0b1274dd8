import GridSketch.Proofs.Session.Run

/-!
# The history of a session as a timeline

What undo and redo are meant to be is a *timeline*: the documents in the order in which they were
made, and a place among them. A new document goes after the place and takes the later ones away;
undo and redo move the place. What a session has instead is two stacks of steps, each step with the
scene before it and the scene after it, and a current scene that is none of them: only a drawing is
put back, under a look that may have changed in between. So it is the drawings of the steps
(`Session.history`) that make up the timeline.

The two agree because of one invariant (`Timeline.Tracks`): adjacent steps chain, and the current
drawing is where the done steps end and the undone ones begin. It is stated by recursion on each
stack (`LeadsTo`, `LeadsFrom`), so that moving a step from one stack to the other is a case of the
recursion, and `Tracks.effect` shows each of the five events to keep it. `undo_redo_linear` is the
conclusion for sessions.
-/

set_option autoImplicit false

namespace GridSketch

/-- Documents in the order in which they were made, the labels of the steps between them, and the
index of the present one. -/
structure Timeline (σ τ : Type) where
  documents : List σ
  labels : List τ
  place : Nat

namespace Timeline

variable {σ τ : Type}

def single (d : σ) : Timeline σ τ :=
  ⟨[d], [], 0⟩

def present? (t : Timeline σ τ) : Option σ :=
  t.documents[t.place]?

/-- Puts a document after the place, in the stead of all that come later, and goes to it. -/
def record (t : Timeline σ τ) (label : τ) (d : σ) : Timeline σ τ :=
  ⟨t.documents.take (t.place + 1) ++ [d], t.labels.take t.place ++ [label], t.place + 1⟩

def hasEarlier (t : Timeline σ τ) : Bool :=
  0 < t.place

def hasLater (t : Timeline σ τ) : Bool :=
  t.place + 1 < t.documents.length

/-- Goes to the document before, if there is one. -/
def back (t : Timeline σ τ) : Timeline σ τ :=
  if t.hasEarlier then { t with place := t.place - 1 } else t

/-- Goes to the document after, if there is one. -/
def forward (t : Timeline σ τ) : Timeline σ τ :=
  if t.hasLater then { t with place := t.place + 1 } else t

/-- The label of the step that led to the present document. -/
def undoLabel? (t : Timeline σ τ) : Option τ :=
  if t.hasEarlier then t.labels[t.place - 1]? else none

/-- The label of the step that leads on from the present document. -/
def redoLabel? (t : Timeline σ τ) : Option τ :=
  t.labels[t.place]?

def next (t : Timeline Drawing String) : Event → Timeline Drawing String
  | .keep => t
  | .commit d label => t.record label d
  | .back => t.back
  | .forward => t.forward
  | .restart d => single d

/-! ## 1. Stacks that chain -/

/-- Done steps, the latest first, lead up to a document. -/
def LeadsTo : σ → List (Step σ τ) → Prop
  | _, [] => True
  | d, e :: rest => e.after = d ∧ LeadsTo e.before rest

/-- Undone steps, the next first, lead on from a document. -/
def LeadsFrom : σ → List (Step σ τ) → Prop
  | _, [] => True
  | d, e :: rest => e.before = d ∧ LeadsFrom e.after rest

/-- A timeline is that of a document and the history around it. -/
structure Tracks (t : Timeline σ τ) (d : σ) (h : History σ τ) : Prop where
  documents : t.documents = (h.done.map Step.before).reverse ++ d :: h.undone.map Step.after
  labels : t.labels = (h.done.map Step.label).reverse ++ h.undone.map Step.label
  place : t.place = h.done.length
  past : LeadsTo d h.done
  future : LeadsFrom d h.undone

theorem tracks_single (d : σ) : Tracks (single d) d ({} : History σ τ) :=
  ⟨rfl, rfl, rfl, trivial, trivial⟩

namespace Tracks

variable {t : Timeline σ τ} {d : σ} {h : History σ τ}

theorem present (ht : Tracks t d h) : t.present? = some d := by
  have hlen : t.place = (h.done.map Step.before).reverse.length := by simp [ht.place]
  rw [present?, ht.documents, hlen, List.getElem?_append_right (Nat.le_refl _)]
  simp

theorem hasEarlier_eq (ht : Tracks t d h) : t.hasEarlier = h.canUndo := by
  rw [hasEarlier, History.canUndo, ht.place]
  cases h.done <;> simp

theorem hasLater_eq (ht : Tracks t d h) : t.hasLater = h.canRedo := by
  have hlen : t.documents.length = h.done.length + (h.undone.length + 1) := by simp [ht.documents]
  rw [hasLater, History.canRedo, ht.place, hlen]
  cases h.undone <;> simp

theorem undoLabel_eq (ht : Tracks t d h) : t.undoLabel? = h.undoLabel? := by
  rw [undoLabel?, ht.hasEarlier_eq, History.undoLabel?, History.canUndo, ht.place, ht.labels]
  cases hdone : h.done with
  | nil => rfl
  | cons e rest => simp

theorem redoLabel_eq (ht : Tracks t d h) : t.redoLabel? = h.redoLabel? := by
  have hlen : t.place = (h.done.map Step.label).reverse.length := by simp [ht.place]
  rw [redoLabel?, ht.labels, hlen, List.getElem?_append_right (Nat.le_refl _)]
  cases hundone : h.undone <;> simp [History.redoLabel?, hundone]

/-! ## 2. The five events -/

theorem record (ht : Tracks t d h) (label : τ) (d' : σ) :
    Tracks (t.record label d') d' (h.record ⟨d, d', label⟩) where
  documents := by
    have hlen : t.place + 1 = ((h.done.map Step.before).reverse ++ [d]).length := by
      simp [ht.place]
    have hdocs : t.documents =
        ((h.done.map Step.before).reverse ++ [d]) ++ h.undone.map Step.after := by
      simp [ht.documents]
    rw [Timeline.record, hdocs, hlen, List.take_left' rfl]
    simp [History.record]
  labels := by
    have hlen : t.place = (h.done.map Step.label).reverse.length := by simp [ht.place]
    rw [Timeline.record, ht.labels, hlen, List.take_left' rfl]
    simp [History.record]
  place := by simp [Timeline.record, History.record, ht.place]
  past := ⟨rfl, ht.past⟩
  future := trivial

/-- Undoing goes to the document before. The step changes stacks, and the documents stay. -/
theorem back {h' : History σ τ} {x : σ} (ht : Tracks t d h) (hu : h.undo? = some (x, h')) :
    Tracks t.back x h' := by
  obtain ⟨done, undone⟩ := h
  cases done with
  | nil => simp [History.undo?] at hu
  | cons e rest =>
    simp only [History.undo?, Option.some.injEq, Prod.mk.injEq] at hu
    obtain ⟨rfl, rfl⟩ := hu
    obtain ⟨hdocs, hlabels, hplace, ⟨rfl, hpast⟩, hfuture⟩ := ht
    have hb : t.back = { t with place := t.place - 1 } := by
      rw [Timeline.back, if_pos (by simp [hasEarlier, hplace])]
    rw [hb]
    exact
      { documents := by simp [hdocs]
        labels := by simp [hlabels]
        place := by simp [hplace]
        past := hpast
        future := ⟨rfl, hfuture⟩ }

theorem forward {h' : History σ τ} {x : σ} (ht : Tracks t d h) (hr : h.redo? = some (x, h')) :
    Tracks t.forward x h' := by
  obtain ⟨done, undone⟩ := h
  cases undone with
  | nil => simp [History.redo?] at hr
  | cons e rest =>
    simp only [History.redo?, Option.some.injEq, Prod.mk.injEq] at hr
    obtain ⟨rfl, rfl⟩ := hr
    obtain ⟨hdocs, hlabels, hplace, hpast, ⟨rfl, hfuture⟩⟩ := ht
    have hf : t.forward = { t with place := t.place + 1 } := by
      rw [Timeline.forward, if_pos (by simp [hasLater, hplace, hdocs])]
    rw [hf]
    exact
      { documents := by simp [hdocs]
        labels := by simp [hlabels]
        place := by simp [hplace]
        past := ⟨rfl, hpast⟩
        future := hfuture }

/-- **Every event moves the timeline as it moves the drawing and its history.** -/
theorem effect {t : Timeline Drawing String} {p : Drawing × History Drawing String}
    (ht : Tracks t p.1 p.2) (ev : Event) : Tracks (t.next ev) (ev.effect p).1 (ev.effect p).2 := by
  obtain ⟨d, h⟩ := p
  cases ev with
  | keep => exact ht
  | commit d' label => exact ht.record label d'
  | back =>
    cases hu : h.undo? with
    | none =>
      have hno : t.hasEarlier = false := by
        rw [ht.hasEarlier_eq, History.canUndo_eq_isSome, hu]
        rfl
      simpa [next, Timeline.back, hno, Event.effect, hu] using ht
    | some q => simpa [next, Event.effect, hu] using ht.back hu
  | forward =>
    cases hr : h.redo? with
    | none =>
      have hno : t.hasLater = false := by
        rw [ht.hasLater_eq, History.canRedo_eq_isSome, hr]
        rfl
      simpa [next, Timeline.forward, hno, Event.effect, hr] using ht
    | some q => simpa [next, Event.effect, hr] using ht.forward hr
  | restart d' => exact tracks_single d'

end Tracks

def replay (t : Timeline Drawing String) (evs : List Event) : Timeline Drawing String :=
  evs.foldl next t

end Timeline

namespace Session

variable {K : Type}

/-! ## 3. Sessions -/

theorem answer_travel (s : Session K) (step : Option (Scene × History Scene String)) :
    (s.travel step).answer = .ok (.flag step.isSome) := by
  cases step <;> rfl

variable [Coordinate K]

def events (s : Session K) (ops : List (Op K)) : List Event :=
  (s.turns ops).map fun e => e.1.event e.2

theorem tracks_after {t : Timeline Drawing String} {s : Session K}
    (ht : t.Tracks s.record.1 s.record.2) (ops : List (Op K)) :
    (t.replay (s.events ops)).Tracks (s.after ops).record.1 (s.after ops).record.2 := by
  -- by induction on the run, from any session that its timeline tracks
  induction ops generalizing s t with
  | nil => exact ht
  | cons op ops ih =>
    have hstep : (t.next (s.event op)).Tracks (s.step op).session.record.1
        (s.step op).session.record.2 := by
      rw [step_event]
      exact ht.effect _
    exact ih hstep

/-- A session shows what a timeline does: its document, what can be undone and redone, and by which
labels. -/
structure Follows (s : Session K) (t : Timeline Drawing String) : Prop where
  document : t.present? = some s.scene.toDrawing
  undo_answer : (s.step .undo).answer = .ok (.flag t.hasEarlier)
  redo_answer : (s.step .redo).answer = .ok (.flag t.hasLater)
  undo_label : s.history.undoLabel? = t.undoLabel?
  redo_label : s.history.redoLabel? = t.redoLabel?

theorem follows_of_tracks {t : Timeline Drawing String} {s : Session K}
    (ht : t.Tracks s.record.1 s.record.2) : s.Follows t where
  document := ht.present
  undo_answer := by
    have hundo : t.hasEarlier = s.history.undo?.isSome := by
      rw [ht.hasEarlier_eq, History.canUndo_eq_isSome]
      rfl
    rw [hundo, undo?_history, Option.isSome_map]
    exact answer_travel s _
  redo_answer := by
    have hredo : t.hasLater = s.history.redo?.isSome := by
      rw [ht.hasLater_eq, History.canRedo_eq_isSome]
      rfl
    rw [hredo, redo?_history, Option.isSome_map]
    exact answer_travel s _
  undo_label := ht.undoLabel_eq.symm
  redo_label := ht.redoLabel_eq.symm

/-- One step back and one forward lead to the same session, look and all. -/
theorem redo_of_undo {s : Session K} {e : Step Drawing String} {rest : List (Step Drawing String)}
    (hdone : s.history.done = e :: rest) (he : e.after = s.scene.toDrawing) :
    ((s.step .undo).session.step .redo).session = s := by
  obtain ⟨⟨d, theme, selection, hovered⟩, view, drag, transcript, ⟨done, undone⟩, file⟩ := s
  -- the snapshot that is put back has the drawing, and the look is that of the scene
  obtain ⟨last, rest', rfl, rfl, _⟩ := List.map_eq_cons_iff.mp hdone
  obtain rfl : last.after.toDrawing = d := he
  rfl

/-- So many steps back and as many forward lead to the same session. -/
theorem redos_of_undos {s : Session K} (hs : Timeline.LeadsTo s.scene.toDrawing s.history.done)
    {k : Nat} (hk : k ≤ s.history.done.length) :
    (s.after (List.replicate k .undo)).after (List.replicate k .redo) = s := by
  induction k generalizing s with
  | zero => rfl
  | succ k ih =>
    cases hdone : s.history.done with
    | nil => simp [hdone] at hk
    | cons e rest =>
      rw [hdone] at hs hk
      have hstep : (s.step .undo).session.record = (e.before, ⟨rest, e :: s.history.undone⟩) := by
        rw [step_event]
        simp [event, Event.effect, record, History.undo?, hdone]
      have hdoc : (s.step .undo).session.scene.toDrawing = e.before := congrArg Prod.fst hstep
      have hhist : (s.step .undo).session.history.done = rest :=
        congrArg (fun p => p.2.done) hstep
      -- the run is the first undo, the other undos and their redos, and the redo of the first
      have hback := ih (s := (s.step .undo).session) (by rw [hdoc, hhist]; exact hs.2)
        (by rw [hhist]; simpa using hk)
      rw [List.replicate_succ, after_cons, List.replicate_succ', after_append, hback]
      exact redo_of_undo hdone hs.1

/-- Everything but undo and redo leaves the drawing and its history as they are, records one step,
or empties the history. -/
theorem record_step {s : Session K} {op : Op K} (hu : op ≠ .undo) (hr : op ≠ .redo) :
    (s.step op).session.record = s.record ∨
      (∃ label, (s.step op).session.history = s.history.record
        ⟨s.scene.toDrawing, (s.step op).session.scene.toDrawing, label⟩) ∨
      (s.step op).session.history = {} := by
  have he := step_event s op
  cases hev : s.event op with
  | keep =>
    rw [hev] at he
    exact Or.inl he
  | commit d label =>
    rw [hev] at he
    simp only [Event.effect, record, Prod.mk.injEq] at he
    exact Or.inr (Or.inl ⟨label, by rw [he.1, he.2]⟩)
  | restart d =>
    rw [hev] at he
    exact Or.inr (Or.inr (congrArg Prod.snd he))
  | back | forward =>
    rcases (isMove_event (by rw [hev]; rfl) : op = .undo ∨ op = .redo) with h | h
    · exact absurd h hu
    · exact absurd h hr

/-- Undoing right after a commit leads back to the drawing before it. -/
theorem undo_of_commit {s : Session K} {op : Op K} {d : Drawing} {label : String}
    (hev : s.event op = .commit d label) :
    ((s.step op).session.step .undo).session.scene.toDrawing = s.scene.toDrawing := by
  have hc := step_event s op
  have hu := step_event (s.step op).session .undo
  rw [hev] at hc
  rw [hc] at hu
  simpa [event, Event.effect, record] using congrArg Prod.fst hu

/-- **Undo and redo are moves along a line of documents.** After any run from any scene a session
shows the timeline that the events of the run make of the scene's drawing, and goes on to do so with
every operation: so undoing is refused exactly where there is no earlier document and otherwise
leads to the one before, and redoing likewise to the one after. Apart from these two, whatever
changes the drawing either records one step from the old drawing to the new one, or empties the
history. As many redos as undos lead to the same session, and a whole batch is one step. -/
theorem undo_redo_linear (scene : Scene) (ops : List (Op K)) :
    let s : Session K := (start scene).after ops
    let t := (Timeline.single scene.toDrawing).replay ((start scene : Session K).events ops)
    s.Follows t ∧
      (∀ op, (s.step op).session.Follows (t.next (s.event op))) ∧
      (∀ op, op ≠ .undo → op ≠ .redo →
        (s.step op).session.record = s.record ∨
          (∃ label, (s.step op).session.history = s.history.record
            ⟨s.scene.toDrawing, (s.step op).session.scene.toDrawing, label⟩) ∨
          (s.step op).session.history = {}) ∧
      (∀ k ≤ t.place, (s.after (List.replicate k .undo)).after (List.replicate k .redo) = s) ∧
      (∀ text, (Command.runBatch s.scene.toDrawing text).stopped = none →
        (Command.runBatch s.scene.toDrawing text).fresh = true →
          let r := (s.step (.run (.str text))).session
          r.scene.toDrawing = (Command.runBatch s.scene.toDrawing text).drawing ∧
            (r.step .undo).session.scene.toDrawing = s.scene.toDrawing) := by
  intro s t
  have ht : t.Tracks s.record.1 s.record.2 := tracks_after (Timeline.tracks_single _) ops
  refine ⟨follows_of_tracks ht, ?_, fun op => record_step, ?_, ?_⟩
  · intro op
    apply follows_of_tracks
    rw [step_event]
    exact ht.effect _
  · intro k hk
    exact redos_of_undos ht.past (Nat.le_trans hk (Nat.le_of_eq ht.place))
  · intro text hstop hfresh
    have hev : s.event (.run (.str text)) = .commit _ _ := runEvent_of_fresh hstop hfresh
    have he := step_event s (.run (.str text))
    rw [hev] at he
    exact ⟨congrArg Prod.fst he, undo_of_commit hev⟩

end Session

end GridSketch
