import GridSketch.Proofs.Command.FrontEnds
import GridSketch.Session.Basic

/-!
# A batch is a fold of its commands

`Command.runLines` goes through the lines of a text with the drawing, the results and the fault that
may stop it all in its hands, passes lines over and counts them. What a batch comes to is simpler.
The lines that are no blank and no remark are its *commands*, each with the number of its line
(`commandLines`). A command is tried on the drawing that those before it have made (`Attempt`), and
a command that fails makes none. So the drawing is reached by a fold over the commands (`reached`),
and the results are what became of the attempts, one for each (`runLines_eq`).

Whether a batch is stopped is a matter of its attempts, too (`stopped_eq_none_iff`): one that fails
for a cause that is not recoverable stops it. A batch that is not stopped can therefore be cut in
two at any line feed, and the second part be run on what the first has made (`runLines_append`);
only the numbers of its lines differ. `Session.run_is_fold` says all this of the console of a
session, with what becomes of the look of the scene and of the transcript.
-/

set_option autoImplicit false

namespace GridSketch

namespace Command

/-! ## 1. Commands and attempts -/

/-- The commands among lines, the white space around them dropped, each with the number of its line.
The first line has the given number. -/
def commandLines (number : Nat) (ls : List (List Char)) : List (Nat × List Char) :=
  ((ls.zipIdx number).map fun l => (l.2, Text.trim l.1)).filter fun c => !isSkipped c.2

/-- The commands of a text. -/
def commandsIn (text : String) : List (Nat × List Char) :=
  commandLines 1 (Text.lines text.toList)

/-- A fault after which a batch does not go on. -/
def Fatal {α : Type} (x : Except Fault α) : Prop :=
  ∃ fault, x = .error fault ∧ fault.kind.recoverable = false

/-- A command, and the drawing that it is tried on. -/
structure Attempt where
  drawing : Drawing
  number : Nat
  line : List Char

namespace Attempt

def outcome (a : Attempt) : Except Fault Effect :=
  execute a.drawing a.line

/-- The drawing that an attempt leaves. One that fails leaves the drawing that it found. -/
def next (a : Attempt) : Drawing :=
  match a.outcome with
  | .ok effect => effect.drawing.getD a.drawing
  | .error _ => a.drawing

/-- Whether an attempt makes a new drawing. -/
def fresh (a : Attempt) : Bool :=
  match a.outcome with
  | .ok effect => effect.drawing.isSome
  | .error _ => false

/-- The result that is noted of an attempt. -/
def result (a : Attempt) : LineResult where
  number := a.number
  source := String.ofList a.line
  ok := a.outcome.isOk
  message :=
    match a.outcome with
    | .ok effect => effect.message
    | .error fault => fault.message

theorem result_ok (a : Attempt) : a.result.ok = a.outcome.isOk :=
  rfl

def Stops (a : Attempt) : Prop :=
  Fatal a.outcome

theorem next_of_not_fresh {a : Attempt} (h : a.fresh = false) : a.next = a.drawing := by
  rw [fresh] at h
  rw [next]
  cases ho : a.outcome with
  | error fault => rfl
  | ok effect =>
    rw [ho] at h
    simp only [Option.isSome_eq_false_iff, Option.isNone_iff_eq_none] at h
    simp [h]

end Attempt

/-- The attempts that commands come to, each on the drawing that the one before it leaves. -/
def attempts (d : Drawing) : List (Nat × List Char) → List Attempt
  | [] => []
  | c :: cs => ⟨d, c.1, c.2⟩ :: attempts (Attempt.mk d c.1 c.2).next cs

/-- The drawing that commands lead to. -/
def reached (d : Drawing) (cs : List (Nat × List Char)) : Drawing :=
  cs.foldl (fun d c => (Attempt.mk d c.1 c.2).next) d

def LineResult.shift (k : Nat) (r : LineResult) : LineResult :=
  { r with number := r.number + k }

@[simp] theorem commandLines_nil (number : Nat) : commandLines number [] = [] :=
  rfl

theorem commandLines_cons (number : Nat) (raw : List Char) (rest : List (List Char)) :
    commandLines number (raw :: rest) =
      if isSkipped (Text.trim raw) then commandLines (number + 1) rest
      else (number, Text.trim raw) :: commandLines (number + 1) rest := by
  cases h : isSkipped (Text.trim raw) <;> simp [commandLines, List.zipIdx_cons, h]

theorem commandLines_append (number : Nat) (ls ls' : List (List Char)) :
    commandLines number (ls ++ ls') =
      commandLines number ls ++ commandLines (number + ls.length) ls' := by
  simp [commandLines, List.zipIdx_append]

/-- Where the lines are counted from shows in the numbers only. -/
theorem commandLines_add (number k : Nat) (ls : List (List Char)) :
    commandLines (number + k) ls = (commandLines number ls).map fun c => (c.1 + k, c.2) := by
  induction ls generalizing number with
  | nil => rfl
  | cons raw rest ih =>
    have hnext : number + k + 1 = number + 1 + k := by omega
    rw [commandLines_cons, commandLines_cons, hnext, ih]
    split <;> rfl

@[simp] theorem reached_cons (d : Drawing) (c : Nat × List Char) (cs : List (Nat × List Char)) :
    reached d (c :: cs) = reached (Attempt.mk d c.1 c.2).next cs :=
  rfl

theorem reached_append (d : Drawing) (cs cs' : List (Nat × List Char)) :
    reached d (cs ++ cs') = reached (reached d cs) cs' :=
  List.foldl_append

theorem attempts_append (d : Drawing) (cs cs' : List (Nat × List Char)) :
    attempts d (cs ++ cs') = attempts d cs ++ attempts (reached d cs) cs' := by
  induction cs generalizing d with
  | nil => rfl
  | cons c cs ih => rw [List.cons_append, attempts, attempts, ih, reached_cons, List.cons_append]

/-- The attempt of a command is made on what the commands before it lead to. -/
theorem getElem?_attempts (d : Drawing) (cs : List (Nat × List Char)) (i : Nat) :
    (attempts d cs)[i]? = cs[i]?.map fun c => ⟨reached d (cs.take i), c.1, c.2⟩ := by
  induction cs generalizing d i with
  | nil => rfl
  | cons c cs ih =>
    cases i with
    | zero => rfl
    | succ i => simp [attempts, ih]

/-- The numbers of lines are noted and make no difference otherwise. -/
theorem reached_renumbered (d : Drawing) (k : Nat) (cs : List (Nat × List Char)) :
    reached d (cs.map fun c => (c.1 + k, c.2)) = reached d cs := by
  induction cs generalizing d with
  | nil => rfl
  | cons c cs ih => exact ih _

theorem attempts_renumbered (d : Drawing) (k : Nat) (cs : List (Nat × List Char)) :
    attempts d (cs.map fun c => (c.1 + k, c.2)) =
      (attempts d cs).map fun a => { a with number := a.number + k } := by
  induction cs generalizing d with
  | nil => rfl
  | cons c cs ih => exact congrArg _ (ih _)

/-! ## 2. Lines -/

variable {d : Drawing} {number : Nat} {ls ls' : List (List Char)}

theorem runLines_skipped {raw : List Char} (hs : isSkipped (Text.trim raw) = true) :
    runLines d number (raw :: ls) = runLines d (number + 1) ls := by
  rw [runLines, if_pos hs]

/-- What one command does to a batch: it stops it, or its result is noted and the batch goes on with
the drawing that it leaves. -/
theorem runLines_command (d : Drawing) (number : Nat) (ls : List (List Char)) {raw : List Char}
    (hs : isSkipped (Text.trim raw) = false) :
    let a : Attempt := ⟨d, number, Text.trim raw⟩
    (a.Stops ∧ ∃ fault, runLines d number (raw :: ls) = ⟨d, false, [], some fault⟩) ∨
      (¬ a.Stops ∧
        runLines d number (raw :: ls) = (runLines a.next (number + 1) ls).after a.result a.fresh) := by
  intro a
  have ha : execute d (Text.trim raw) = a.outcome := rfl
  rw [runLines, hs, if_neg Bool.false_ne_true, ha, Attempt.Stops, Fatal, Attempt.next,
    Attempt.result, Attempt.fresh]
  cases ho : a.outcome with
  | ok effect => exact Or.inr ⟨by simp, rfl⟩
  | error fault =>
    cases hr : fault.kind.recoverable with
    | true => exact Or.inr ⟨by simp [hr], by simp [hr, Except.isOk, Except.toBool, a]⟩
    | false => exact Or.inl ⟨⟨fault, rfl, hr⟩, fault, by simp [hr]⟩

/-- **A batch is stopped by its attempts**: it is not, if none of them stops it. -/
theorem stopped_eq_none_iff :
    (runLines d number ls).stopped = none ↔
      ∀ a ∈ attempts d (commandLines number ls), ¬ a.Stops := by
  induction ls generalizing d number with
  | nil => simp [runLines, attempts]
  | cons raw rest ih =>
    rw [commandLines_cons]
    cases hs : isSkipped (Text.trim raw) with
    | true =>
      rw [runLines_skipped hs, if_pos rfl]
      exact ih
    | false =>
      rw [if_neg Bool.false_ne_true, attempts, List.forall_mem_cons]
      rcases runLines_command d number rest hs with
        ⟨hstops, fault, hrun⟩ | ⟨hgoes, hrun⟩
      · rw [hrun]
        exact ⟨fun h => absurd h (Option.some_ne_none fault), fun h => absurd hstops h.1⟩
      · rw [hrun]
        exact ⟨fun h => ⟨hgoes, ih.mp h⟩, fun h => ih.mpr h.2⟩

/-- **A batch that is not stopped is the fold of its commands**, and its results are those of the
attempts. -/
theorem runLines_eq (h : (runLines d number ls).stopped = none) :
    (runLines d number ls).drawing = reached d (commandLines number ls) ∧
      (runLines d number ls).results =
        (attempts d (commandLines number ls)).map Attempt.result := by
  induction ls generalizing d number with
  | nil => exact ⟨rfl, rfl⟩
  | cons raw rest ih =>
    rw [commandLines_cons]
    cases hs : isSkipped (Text.trim raw) with
    | true =>
      rw [runLines_skipped hs] at h ⊢
      exact ih h
    | false =>
      rcases runLines_command d number rest hs with
        ⟨_, fault, hrun⟩ | ⟨_, hrun⟩
      · rw [hrun] at h
        exact nomatch h
      · rw [hrun] at h ⊢
        obtain ⟨hdrawing, hresults⟩ := ih h
        exact ⟨hdrawing, congrArg _ hresults⟩

/-- Where no command makes a new drawing, the drawing is the one that was there. -/
theorem drawing_of_not_fresh (h : (runLines d number ls).fresh = false) :
    (runLines d number ls).drawing = d := by
  induction ls generalizing d number with
  | nil => rfl
  | cons raw rest ih =>
    cases hs : isSkipped (Text.trim raw) with
    | true =>
      rw [runLines_skipped hs] at h ⊢
      exact ih h
    | false =>
      rcases runLines_command d number rest hs with
        ⟨_, fault, hrun⟩ | ⟨_, hrun⟩
      · rw [hrun]
      · rw [hrun] at h ⊢
        obtain ⟨hfresh, hrest⟩ := Bool.or_eq_false_iff.mp h
        exact (ih hrest).trans (Attempt.next_of_not_fresh hfresh)

/-- A batch of one command. -/
theorem runLines_one {raw : List Char} (hs : isSkipped (Text.trim raw) = false) {a : Attempt}
    (ha : a = ⟨d, number, Text.trim raw⟩) (hgoes : ¬ a.Stops) :
    runLines d number [raw] = ⟨a.next, a.fresh, [a.result], none⟩ := by
  subst ha
  rcases runLines_command d number [] hs with
    ⟨hstops, _⟩ | ⟨_, hrun⟩
  · exact absurd hstops hgoes
  · rw [hrun, runLines, Run.after, Bool.or_false]

/-- **A batch can be cut in two between lines**, where neither part is stopped. -/
theorem runLines_append (h : (runLines d number ls).stopped = none)
    (h' : (runLines (runLines d number ls).drawing number ls').stopped = none) :
    (runLines d number (ls ++ ls')).stopped = none ∧
      (runLines d number (ls ++ ls')).drawing =
        (runLines (runLines d number ls).drawing number ls').drawing ∧
      (runLines d number (ls ++ ls')).results =
        (runLines d number ls).results ++
          (runLines (runLines d number ls).drawing number ls').results.map
            (LineResult.shift ls.length) := by
  obtain ⟨hdrawing, hresults⟩ := runLines_eq h
  obtain ⟨hdrawing', hresults'⟩ := runLines_eq h'
  -- the commands of both parts, those of the second with the numbers that they have in the whole
  have hcommands : commandLines number (ls ++ ls') = commandLines number ls ++
      (commandLines number ls').map fun c => (c.1 + ls.length, c.2) := by
    rw [commandLines_append, commandLines_add]
  have hstopped : (runLines d number (ls ++ ls')).stopped = none := by
    rw [stopped_eq_none_iff] at h h' ⊢
    rw [hcommands, attempts_append, attempts_renumbered, ← hdrawing]
    intro a ha
    rcases List.mem_append.mp ha with ha | ha
    · exact h a ha
    · obtain ⟨a', ha', rfl⟩ := List.mem_map.mp ha
      exact h' a' ha'
  obtain ⟨hwhole, hnoted⟩ := runLines_eq hstopped
  refine ⟨hstopped, ?_, ?_⟩
  · rw [hwhole, hcommands, reached_append, reached_renumbered, ← hdrawing, hdrawing']
  · rw [hnoted, hcommands, attempts_append, attempts_renumbered, ← hdrawing, List.map_append,
      hresults, hresults', List.map_map, List.map_map]
    rfl

end Command

namespace Session

variable {K : Type} [Coordinate K]

/-! ## 3. The console of a session -/

/-- A batch that is stopped is refused for the fault that stopped it. -/
theorem run_of_stopped (s : Session K) {text : String} {f : Fault}
    (h : (Command.runBatch s.scene.toDrawing text).stopped = some f) :
    (s.step (.run (.str text))).answer = .error f := by
  have hturn : s.step (.run (.str text)) = s.runText text text := rfl
  rw [hturn, runText]
  dsimp only
  rw [h]
  rfl

omit [Coordinate K] in
/-- What is left of a batch that is not stopped: its results are answered, its drawing is shown
under the look that the scene had, and the transcript has grown by what it says of itself. -/
theorem runText_of_not_stopped (s : Session K) (shown : String) {text : String}
    (h : (Command.runBatch s.scene.toDrawing text).stopped = none) :
    let r := Command.runBatch s.scene.toDrawing text
    let turn := s.runText shown text
    turn.answer = .ok (.run r) ∧ turn.session.scene = s.scene.withDrawing r.drawing ∧
      turn.session.transcript = s.transcript ++ r.transcript shown text := by
  intro r turn
  have hstopped : r.stopped = none := h
  have hturn : turn = s.runText shown text := rfl
  rw [hturn, runText]
  dsimp only
  rw [hstopped]
  by_cases hfresh : r.fresh = true
  · have hchanged : r.changed = true := Command.changed_of_fresh hfresh
    rw [hchanged, hfresh]
    exact ⟨rfl, rfl, rfl⟩
  · -- no command made a new drawing, so the one that is there already is that of the batch
    have hfresh : r.fresh = false := Bool.eq_false_iff.mpr hfresh
    have hsame : r.drawing = s.scene.toDrawing := Command.drawing_of_not_fresh hfresh
    rw [hsame, hfresh]
    cases r.changed with
    | true => exact ⟨rfl, rfl, rfl⟩
    | false => exact ⟨rfl, rfl, rfl⟩

theorem run_of_not_stopped (s : Session K) {text : String}
    (h : (Command.runBatch s.scene.toDrawing text).stopped = none) :
    let r := Command.runBatch s.scene.toDrawing text
    let turn := s.step (.run (.str text))
    turn.answer = .ok (.run r) ∧ turn.session.scene = s.scene.withDrawing r.drawing ∧
      turn.session.transcript = s.transcript ++ r.transcript text text :=
  runText_of_not_stopped s text h

/-- **A batch is the fold of its commands and can be cut in two at any line feed.** Of two texts
that are not stopped when one is run after the other, the text of both is not stopped either: it
makes the same drawing, and has the results of both, those of the second with the numbers that their
lines have in the whole. The drawing of a batch is reached by its commands from left to right, and
there is one result for each, in their order, which says what became of it on the drawing that those
before it reach; one that fails leaves that drawing as it is (`Command.Attempt`). Of the scene the
batch changes the drawing alone, and the transcript grows by the two lines in front, by a line for
each result and by a closing line. -/
theorem run_is_fold (s : Session K) (t u : String)
    (ht : (Command.runBatch s.scene.toDrawing t).stopped = none)
    (hu : (Command.runBatch (Command.runBatch s.scene.toDrawing t).drawing u).stopped = none) :
    let d := s.scene.toDrawing
    let first := Command.runBatch d t
    let second := Command.runBatch first.drawing u
    let both := Command.runBatch d (t ++ "\n" ++ u)
    let turn := s.step (.run (.str t))
    (both.stopped = none ∧ both.drawing = second.drawing ∧
      both.results =
        first.results ++ second.results.map (.shift (Text.lines t.toList).length)) ∧
    (first.drawing = Command.reached d (Command.commandsIn t) ∧
      ∀ i, first.results[i]? = (Command.commandsIn t)[i]?.map fun c =>
        Command.Attempt.result ⟨Command.reached d ((Command.commandsIn t).take i), c.1, c.2⟩) ∧
    first.successes + first.failures = first.results.length ∧
    turn.answer = .ok (.run first) ∧ turn.session.scene = s.scene.withDrawing first.drawing ∧
    turn.session.transcript = s.transcript ++
      (Command.opening t t ++ first.results.map Command.LineResult.entry ++
        [Command.closing first]) := by
  intro d first second both turn
  have hlines : Text.lines (t ++ "\n" ++ u).toList =
      Text.lines t.toList ++ Text.lines u.toList := by
    rw [String.toList_append, String.toList_append, List.append_assoc]
    exact Text.lines_append t.toList u.toList
  obtain ⟨hstopped, hdrawing, hresults⟩ := Command.runLines_append ht hu
  obtain ⟨hreached, hattempts⟩ := Command.runLines_eq ht
  obtain ⟨hanswer, hscene, htranscript⟩ := run_of_not_stopped s ht
  have hboth : both = Command.runLines d 1 (Text.lines t.toList ++ Text.lines u.toList) :=
    congrArg (Command.runLines d 1) hlines
  refine ⟨?_, ⟨hreached, ?_⟩, first.successes_add_failures, hanswer, hscene, ?_⟩
  · rw [hboth]
    exact ⟨hstopped, hdrawing, hresults⟩
  · intro i
    have hfirst : first.results =
        (Command.attempts d (Command.commandsIn t)).map Command.Attempt.result := hattempts
    rw [hfirst, List.getElem?_map, Command.getElem?_attempts, Option.map_map]
    rfl
  · have hclosed : first.stopped.isNone = true := by
      rw [show first.stopped = none from ht]
      rfl
    rw [htranscript, Command.Run.transcript, hclosed, if_pos rfl]

/-! ### Two lines for the first drawing -/

/-- A value that is no number, which is refused. -/
def noNumber (d : Drawing) : Command.Attempt :=
  ⟨d, 1, "A[1][1]=x".toList⟩

/-- The removal of a colour, which is done. -/
def noColour (d : Drawing) : Command.Attempt :=
  ⟨d, 1, "A[1][1]:None".toList⟩

theorem outcome_noNumber :
    ∃ fault, (noNumber Scene.initial).outcome = .error fault ∧ fault.kind = .invalidNumber := by
  have htyped := Command.typed_value_initial
  rw [Drawing.typed] at htyped
  cases ho : Command.execute Scene.initial "A[1][1]=x".toList with
  | ok effect =>
    rw [ho] at htyped
    cases htyped
  | error fault =>
    rw [ho] at htyped
    exact ⟨fault, ho, Except.error.inj htyped⟩

theorem outcome_noColour : (noColour Scene.initial).outcome.isOk = true := by
  obtain ⟨m, hfind, hinside⟩ := Command.hasCell_middle
  have hcell := Drawing.requireCell_of_find? rfl hfind hinside "Cell"
  have hdone : (noColour Scene.initial).outcome =
      Command.tint Scene.initial Command.middle.ref "None".toList :=
    Command.execute_spelled Command.spelled_colour
  rw [hdone, Command.tint, hcell]
  rfl

theorem run_is_fold_first :
    let s : Session Rat := start Command.firstScene
    let d := s.scene.toDrawing
    (Command.runBatch d "A[1][1]=x").stopped = none ∧
      (Command.runBatch (Command.runBatch d "A[1][1]=x").drawing "A[1][1]:None").stopped = none ∧
      (Command.runBatch d ("A[1][1]=x" ++ "\n" ++ "A[1][1]:None")).results.map
        (fun r => (r.number, r.ok)) = [(1, false), (2, true)] := by
  intro s d
  obtain ⟨fault, hfault, hkind⟩ := outcome_noNumber
  have hgoes : ¬ (noNumber d).Stops := by
    rintro ⟨fault', hfault', hstops⟩
    obtain rfl := Except.error.inj (hfault.symm.trans hfault')
    rw [hkind] at hstops
    exact nomatch hstops
  have hnext : (noNumber d).next = d := by
    rw [Command.Attempt.next, show (noNumber d).outcome = _ from hfault]
    rfl
  have hgoes' : ¬ (noColour d).Stops := by
    rintro ⟨fault', hfault', _⟩
    have hdone := outcome_noColour
    rw [show (noColour Scene.initial).outcome = _ from hfault'] at hdone
    exact nomatch hdone
  have hfirst : Command.runBatch d "A[1][1]=x" =
      ⟨(noNumber d).next, (noNumber d).fresh, [(noNumber d).result], none⟩ :=
    Command.runLines_one (by decide) rfl hgoes
  have hsecond : Command.runBatch d "A[1][1]:None" =
      ⟨(noColour d).next, (noColour d).fresh, [(noColour d).result], none⟩ :=
    Command.runLines_one (by decide) rfl hgoes'
  have ht : (Command.runBatch d "A[1][1]=x").stopped = none := by rw [hfirst]
  have hu : (Command.runBatch (Command.runBatch d "A[1][1]=x").drawing
      "A[1][1]:None").stopped = none := by
    rw [hfirst]
    dsimp only
    rw [hnext, hsecond]
  obtain ⟨⟨_, _, hresults⟩, _⟩ := run_is_fold s "A[1][1]=x" "A[1][1]:None" ht hu
  refine ⟨ht, hu, ?_⟩
  have hfailed : (noNumber d).result.ok = false := by
    rw [Command.Attempt.result_ok, show (noNumber d).outcome = _ from hfault]
    rfl
  have hdone : (noColour d).result.ok = true := by
    rw [Command.Attempt.result_ok]
    exact outcome_noColour
  have hshift : (Text.lines "A[1][1]=x".toList).length = 1 := by decide
  rw [hresults, hfirst]
  dsimp only
  rw [hnext, hsecond, hshift]
  simp only [List.map_cons, List.map_nil, List.cons_append, List.nil_append,
    Command.LineResult.shift, hfailed, hdone]
  rfl

end Session

end GridSketch
