import GridSketch.Proofs.Command.Batch
import GridSketch.Proofs.Command.Effects
import GridSketch.Proofs.Session.Run

/-!
# The console and those who watch it

The transcript of the console is shown by someone who watches the scene, and is shown anew when the
watchers of the scene are told. A batch has two ways to tell them. If a command was done, the
drawing of the batch is committed, which tells of it; if none was, they are told all the same, for
the transcript has grown. Between the two is a gap. A command can be done and make no new drawing,
and where no command makes one there is nothing to commit, and nobody is told.

There is one such command, which takes the colour away from a cell that has none
(`Command.drawing_eq_none_iff`). So a batch that is answered tells the watchers once, unless it has
a command that is done and all of those that are done are of this kind (`Session.told_once_iff`).
-/

set_option autoImplicit false

namespace GridSketch

namespace Command

/-! ## 1. Commands that change nothing -/

variable {d : Drawing} {cs : List Char} {effect : Effect}

theorem clearTint_eq_none {r : CellRef} :
    d.clearTint r = none ↔ ∀ t ∈ d.tints, t.cell.equals r = false := by
  rw [Drawing.clearTint, Option.map_eq_none_iff, Drawing.findTint?, List.findIdx?_eq_none_iff]

/-- **A command that is done makes no new drawing exactly where it takes the colour away from a cell
that has none.** -/
theorem drawing_eq_none_iff (h : execute d cs = .ok effect) :
    effect.drawing = none ↔ classify cs = some .cellColour ∧
      Tint.isNone (String.ofList (Text.trim (cellColour cs))) = true ∧
      ∃ r, cell (cellPart Form.colon cs) "Cell" = .ok r ∧
        ∀ t ∈ d.tints, t.cell.equals r = false := by
  unfold execute at h
  split at h
  · exact nomatch h
  · rename_i hform
    simp only [Command.define, create, bind_eq_ok, pure_eq_ok] at h
    obtain ⟨_, _, _, _, _, _, _, _, _, _, rfl⟩ := h
    rw [hform]
    simp
  · rename_i hform
    simp only [addArrow, join, bind_eq_ok, pure_eq_ok] at h
    obtain ⟨_, _, _, _, _, _, _, _, rfl⟩ := h
    rw [hform]
    simp
  · rename_i hform
    simp only [colourCell, Command.tint, bind_eq_ok] at h
    obtain ⟨r, hr, m, hm, h⟩ := h
    have hread : ∀ r', cell (cellPart Form.colon cs) "Cell" = .ok r' ↔ r' = r := by
      intro r'
      rw [cellPart, hr, Except.ok.injEq, eq_comm]
    simp only [hform, hread, exists_eq_left, true_and, cellColour]
    split at h
    · exact absurd h throw_ne_ok
    · split at h
      · rename_i hnone
        obtain rfl := pure_eq_ok.mp h
        rw [hnone, clearTint_eq_none]
        simp
      · rename_i hsome
        obtain rfl := pure_eq_ok.mp h
        simp [hsome]
  · rename_i hform
    simp only [setValue, assign, bind_eq_ok, pure_eq_ok] at h
    obtain ⟨_, _, _, _, _, _, _, _, rfl⟩ := h
    rw [hform]
    simp

/-- The attempt is done and takes the colour away from a cell that has none. -/
def Attempt.Idles (a : Attempt) : Prop :=
  a.outcome.isOk = true ∧ classify a.line = some .cellColour ∧
    Tint.isNone (String.ofList (Text.trim (cellColour a.line))) = true ∧
    ∃ r, cell (cellPart Form.colon a.line) "Cell" = .ok r ∧
      ∀ t ∈ a.drawing.tints, t.cell.equals r = false

theorem Attempt.idles_iff {a : Attempt} (h : a.outcome.isOk = true) :
    a.Idles ↔ a.fresh = false := by
  rw [Idles, fresh]
  cases ho : a.outcome with
  | error fault =>
    rw [ho] at h
    exact absurd h Bool.false_ne_true
  | ok effect =>
    have hexecute : execute a.drawing a.line = .ok effect := ho
    have hdone := drawing_eq_none_iff hexecute
    dsimp only
    rw [Option.isSome_eq_false_iff, Option.isNone_iff_eq_none, hdone]
    exact and_iff_right rfl

theorem Attempt.isOk_of_fresh {a : Attempt} (h : a.fresh = true) : a.outcome.isOk = true := by
  rw [fresh] at h
  cases ho : a.outcome with
  | error fault =>
    rw [ho] at h
    exact absurd h Bool.false_ne_true
  | ok effect => rfl

/-! ## 2. Batches -/

variable {number : Nat} {ls : List (List Char)}

/-- A batch makes a new drawing if one of its attempts does. -/
theorem fresh_runLines (h : (runLines d number ls).stopped = none) :
    (runLines d number ls).fresh = true ↔
      ∃ a ∈ attempts d (commandLines number ls), a.fresh = true := by
  induction ls generalizing d number with
  | nil => simp [runLines, attempts]
  | cons raw rest ih =>
    rw [commandLines_cons]
    cases hs : isSkipped (Text.trim raw) with
    | true =>
      rw [runLines_skipped hs] at h ⊢
      rw [if_pos rfl]
      exact ih h
    | false =>
      simp only [if_neg Bool.false_ne_true, attempts, List.mem_cons, exists_eq_or_imp]
      rcases runLines_command d number rest hs with ⟨_, fault, hrun⟩ | ⟨_, hrun⟩
      · rw [hrun] at h
        cases h
      · rw [hrun] at h ⊢
        rw [Run.after, Bool.or_eq_true, ih h]

/-- A command of a batch was done if one of its attempts was. -/
theorem changed_runLines (h : (runLines d number ls).stopped = none) :
    (runLines d number ls).changed = true ↔
      ∃ a ∈ attempts d (commandLines number ls), a.outcome.isOk = true := by
  rw [Run.changed, Run.successes, decide_eq_true_iff, List.length_pos_iff_exists_mem,
    (runLines_eq h).2]
  constructor
  · rintro ⟨result, hresult⟩
    obtain ⟨hresult, hok⟩ := List.mem_filter.mp hresult
    obtain ⟨a, ha, rfl⟩ := List.mem_map.mp hresult
    exact ⟨a, ha, hok⟩
  · rintro ⟨a, ha, hok⟩
    exact ⟨a.result, List.mem_filter.mpr ⟨List.mem_map_of_mem ha, hok⟩⟩

end Command

/-! ## 3. Sessions -/

namespace Session

variable {K : Type}

/-- In the text some command is done, and none that is done has anything to change. -/
def RunsIdly (s : Session K) (source : Json) : Prop :=
  ∃ text, source.typedLines = .ok text ∧
    let tried := Command.attempts s.scene.toDrawing (Command.commandsIn text)
    (∃ a ∈ tried, a.outcome.isOk = true) ∧ ∀ a ∈ tried, a.outcome.isOk = true → a.Idles

/-- A batch that is not stopped runs idly exactly where a command was done and no new drawing
made. -/
theorem runsIdly_iff {s : Session K} {source : Json} {text : String}
    (htext : source.typedLines = .ok text)
    (hstop : (Command.runBatch s.scene.toDrawing text).stopped = none) :
    s.RunsIdly source ↔ (Command.runBatch s.scene.toDrawing text).changed = true ∧
      (Command.runBatch s.scene.toDrawing text).fresh = false := by
  have hfresh := Command.fresh_runLines hstop
  have hchanged := Command.changed_runLines hstop
  rw [Bool.eq_false_iff, ne_eq, Command.runBatch, hfresh, hchanged]
  constructor
  · rintro ⟨text', htext', hdone, hidle⟩
    obtain rfl := Except.ok.inj (htext.symm.trans htext')
    refine ⟨hdone, ?_⟩
    rintro ⟨a, ha, hnew⟩
    have hok := Command.Attempt.isOk_of_fresh hnew
    rw [(Command.Attempt.idles_iff hok).mp (hidle a ha hok)] at hnew
    exact nomatch hnew
  · rintro ⟨hdone, hold⟩
    refine ⟨text, htext, hdone, ?_⟩
    intro a ha hok
    exact (Command.Attempt.idles_iff hok).mpr (Bool.eq_false_iff.mpr fun hnew => hold ⟨a, ha, hnew⟩)

/-- The watchers of the scene are told of a batch, unless a command was done and no new drawing
made. -/
theorem notices_runText (s : Session K) (shown : String) {text : String}
    (h : (Command.runBatch s.scene.toDrawing text).stopped = none) :
    (s.runText shown text).notices.scene =
      if (Command.runBatch s.scene.toDrawing text).changed = true ∧
        (Command.runBatch s.scene.toDrawing text).fresh = false then 0 else 1 := by
  unfold runText
  revert h
  generalize Command.runBatch s.scene.toDrawing text = r
  intro h
  dsimp only
  rw [h]
  cases r.changed with
  | false => rfl
  | true =>
    cases r.fresh with
    | true => rfl
    | false => rfl

/-- A batch that is done and makes no new drawing leaves all but the transcript. -/
theorem session_of_not_fresh (s : Session K) (shown : String) {text : String}
    (hstop : (Command.runBatch s.scene.toDrawing text).stopped = none)
    (hchanged : (Command.runBatch s.scene.toDrawing text).changed = true)
    (hfresh : (Command.runBatch s.scene.toDrawing text).fresh = false) :
    (s.runText shown text).session =
      { s with
        transcript := s.transcript ++
          (Command.runBatch s.scene.toDrawing text).transcript shown text } := by
  simp [runText, hstop, hchanged, hfresh, commit, quiet]

variable [Coordinate K]

/-- A text that is answered has lines, and its batch is not stopped. -/
theorem run_of_answer {s : Session K} {source : Json} {answer : Answer K}
    (h : (s.step (.run source)).answer = .ok answer) :
    ∃ text, source.typedLines = .ok text ∧
      (Command.runBatch s.scene.toDrawing text).stopped = none ∧
      s.step (.run source) = s.runText source.shown text := by
  simp only [step, run] at h ⊢
  cases hlines : source.typedLines with
  | error f =>
    rw [hlines] at h
    cases h
  | ok text =>
    rw [hlines] at h
    refine ⟨text, rfl, ?_, rfl⟩
    cases hstop : (Command.runBatch s.scene.toDrawing text).stopped with
    | none => rfl
    | some f => simp [runText, hstop, refuse] at h

/-- **A batch that is answered tells the watchers of the scene once, unless it runs idly**, and
never twice. The transcript has grown in any case, and where a batch runs idly that is all that has
changed. -/
theorem told_once_iff (s : Session K) {source : Json} {answer : Answer K}
    (h : (s.step (.run source)).answer = .ok answer) :
    let turn := s.step (.run source)
    (∃ entries, entries ≠ [] ∧ turn.session.transcript = s.transcript ++ entries) ∧
      turn.notices.scene ≤ 1 ∧ (turn.notices.scene = 1 ↔ ¬ s.RunsIdly source) ∧
      (s.RunsIdly source →
        turn.session = { s with transcript := turn.session.transcript }) := by
  intro turn
  obtain ⟨text, htext, hstop, hturn⟩ := run_of_answer h
  have htranscript := (s.runText_of_not_stopped source.shown hstop).2.2
  have hnotices := s.notices_runText source.shown hstop
  rw [← hturn] at htranscript hnotices
  refine ⟨⟨_, ?_, htranscript⟩, ?_, ?_, ?_⟩
  · simp [Command.Run.transcript, Command.opening]
  · rw [hnotices]
    split
    · exact Nat.zero_le 1
    · exact Nat.le_refl 1
  · rw [hnotices, runsIdly_iff htext hstop]
    split
    · rename_i hidle
      exact iff_of_false Nat.zero_ne_one (not_not_intro hidle)
    · rename_i hheard
      exact iff_of_true rfl hheard
  · intro hidle
    obtain ⟨hchanged, hfresh⟩ := (runsIdly_iff htext hstop).mp hidle
    have hsession := s.session_of_not_fresh source.shown hstop hchanged hfresh
    rw [← hturn] at hsession
    rw [htranscript]
    exact hsession

/-! ### A line for the first drawing -/

omit [Coordinate K] in
/-- A text of one line whose command is done tells the watchers of the scene as often as it makes a
new drawing. -/
theorem run_one (s : Session K) (text : String) {effect : Command.Effect}
    (hlines : Text.lines text.toList = [text.toList])
    (htrim : Text.trim text.toList = text.toList)
    (hs : Command.isSkipped text.toList = false)
    (hdone : Command.execute s.scene.toDrawing text.toList = .ok effect) :
    let r := Command.runBatch s.scene.toDrawing text
    r.stopped = none ∧ r.changed = true ∧ r.fresh = effect.drawing.isSome := by
  intro r
  have hgoes : ¬ (Command.Attempt.mk s.scene.toDrawing 1 text.toList).Stops := by
    rintro ⟨fault, hfault, _⟩
    exact nomatch hdone.symm.trans hfault
  have hcommand : Command.isSkipped (Text.trim text.toList) = false := by rwa [htrim]
  have hattempt : Command.Attempt.mk s.scene.toDrawing 1 text.toList =
      ⟨s.scene.toDrawing, 1, Text.trim text.toList⟩ := by rw [htrim]
  have hrun := Command.runLines_one hcommand hattempt hgoes
  have hr : r = _ := (congrArg (Command.runLines s.scene.toDrawing 1) hlines).trans hrun
  have houtcome : (Command.Attempt.mk s.scene.toDrawing 1 text.toList).outcome = .ok effect := hdone
  refine ⟨by rw [hr], ?_, ?_⟩
  · rw [hr, Command.Run.changed, Command.Run.successes, List.filter_cons_of_pos]
    · rfl
    · rw [Command.Attempt.result_ok, houtcome]
      rfl
  · rw [hr]
    dsimp only
    rw [Command.Attempt.fresh, houtcome]

/-- A cell of the first drawing that has no colour. -/
def bare : Command.Place :=
  ⟨"A", 0, 0⟩

theorem isNumeral_zero : Command.IsNumeral ['0'] 0 :=
  Command.isNumeral_toString (n := 0) (by decide)

theorem bare_spelled : bare.SpelledBy (Command.cellTokens ['A'] ['0'] ['0']) where
  wellFormed := Name.wellFormed_initial.1
  tokens := ⟨['0'], ['0'], isNumeral_zero, isNumeral_zero, rfl⟩

theorem spelled_bare :
    Command.Sentence.SpelledBy (.colour bare "none") "A[0][0]:none".toList :=
  .colour bare_spelled (Command.Spaced.flatten _) (by decide) (by decide)

theorem hasCell_bare : Scene.initial.HasCell bare.ref :=
  Command.hasCell_first (by decide) (by decide)

theorem execute_bare : ∃ message,
    Command.execute Scene.initial "A[0][0]:none".toList = .ok ⟨none, message⟩ := by
  obtain ⟨m, hfind, hinside⟩ := hasCell_bare
  have hcell := Drawing.requireCell_of_find? rfl hfind hinside "Cell"
  have hclear : Scene.initial.clearTint bare.ref = none := by
    rw [Command.clearTint_eq_none]
    intro t ht
    obtain rfl := List.mem_singleton.mp ht
    rfl
  have hdone : Command.execute Scene.initial "A[0][0]:none".toList =
      Command.tint Scene.initial bare.ref "none".toList :=
    Command.execute_spelled spelled_bare
  rw [hdone, Command.tint, hcell, hclear]
  exact ⟨_, rfl⟩

/-- The line is answered and runs idly, since the first drawing has no colour at `bare`. -/
theorem told_once_bare :
    (∃ answer, ((opening : Session Rat).step (.run (.str "A[0][0]:none"))).answer = .ok answer) ∧
      (opening : Session Rat).RunsIdly (.str "A[0][0]:none") ∧
      ((opening : Session Rat).step (.run (.str "A[0][0]:none"))).notices.scene ≠ 1 := by
  obtain ⟨_, hdone⟩ := execute_bare
  obtain ⟨hstop, hchanged, hfresh⟩ := run_one (opening : Session Rat) "A[0][0]:none"
    (by decide) (by decide) (by decide) hdone
  obtain ⟨hanswer, -, -⟩ := run_of_not_stopped (opening : Session Rat) hstop
  have hidle : (opening : Session Rat).RunsIdly (.str "A[0][0]:none") :=
    (runsIdly_iff rfl hstop).mpr ⟨hchanged, hfresh⟩
  obtain ⟨-, -, htold, -⟩ := told_once_iff (opening : Session Rat) hanswer
  exact ⟨⟨_, hanswer⟩, hidle, fun hone => htold.mp hone hidle⟩

/-- So the transcript of the first session grows by it and nobody is told. -/
theorem grown_untold :
    ¬ ∀ (ops : List (Op Rat)) (source : Json) (answer : Answer Rat),
      let s := (opening : Session Rat).after ops
      let turn := s.step (.run source)
      turn.answer = .ok answer →
        s.transcript.length < turn.session.transcript.length ∧ turn.notices.scene = 1 := by
  intro h
  obtain ⟨_, hdone⟩ := execute_bare
  obtain ⟨hstop, hchanged, hfresh⟩ := run_one (opening : Session Rat) "A[0][0]:none"
    (by decide) (by decide) (by decide) hdone
  obtain ⟨hanswer, -, -⟩ := run_of_not_stopped (opening : Session Rat) hstop
  have htold := (h [] (.str "A[0][0]:none") _ hanswer).2
  have hturn : (opening : Session Rat).step (.run (.str "A[0][0]:none")) =
      (opening : Session Rat).runText "A[0][0]:none" "A[0][0]:none" := rfl
  simp only [after_nil] at htold
  rw [hturn, notices_runText _ _ hstop, if_pos ⟨hchanged, hfresh⟩] at htold
  exact Nat.zero_ne_one htold

end Session

end GridSketch
