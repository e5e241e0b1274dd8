import GridSketch.Command.Line

/-!
# Batches of commands

A batch is run line by line, each on the drawing the lines before it made. Blank lines and lines
that start with `#` are passed over. A line that fails for a recoverable cause is noted and changes
nothing, and the next line is run; any other fault stops the batch, and then the batch as a whole
changes nothing.

The transcript of a batch has two lines in front, one line for each result, and a closing line
unless the batch was stopped.
-/

set_option autoImplicit false

namespace GridSketch.Command

/-- What became of a line: its number, counted from one, the command in it, whether it was done,
and the message. -/
structure LineResult where
  number : Nat
  source : String
  ok : Bool
  message : String
  deriving DecidableEq, Repr

/-- What became of the lines of a batch: the drawing, whether any line made a new one, the results
in order, and the fault that stopped it, if one did. -/
structure Run where
  drawing : Drawing
  fresh : Bool
  results : List LineResult
  stopped : Option Fault

def isSkipped (cs : List Char) : Bool :=
  match cs with
  | [] => true
  | c :: _ => c = '#'

def Run.after (r : Run) (result : LineResult) (fresh : Bool) : Run :=
  { r with fresh := fresh || r.fresh, results := result :: r.results }

/-- Runs lines, of which the first has the given number. -/
def runLines (d : Drawing) (number : Nat) : List (List Char) → Run
  | [] => ⟨d, false, [], none⟩
  | raw :: rest =>
    let line := Text.trim raw
    if isSkipped line then runLines d (number + 1) rest
    else
      match execute d line with
      | .ok effect =>
        (runLines (effect.drawing.getD d) (number + 1) rest).after
          ⟨number, String.ofList line, true, effect.message⟩ effect.drawing.isSome
      | .error fault =>
        if fault.kind.recoverable then
          (runLines d (number + 1) rest).after
            ⟨number, String.ofList line, false, fault.message⟩ false
        else ⟨d, false, [], some fault⟩

namespace Run

def successes (r : Run) : Nat :=
  (r.results.filter LineResult.ok).length

def failures (r : Run) : Nat :=
  (r.results.filter fun x => !x.ok).length

theorem successes_add_failures (r : Run) : r.successes + r.failures = r.results.length := by
  rw [successes, failures]
  induction r.results with
  | nil => rfl
  | cons x xs ih =>
    cases h : x.ok <;> simp only [List.filter_cons, h, List.length_cons, Bool.not_true,
      Bool.not_false, if_true, if_false, Bool.false_eq_true] <;> omega

/-- Whether a command was done. It need not have changed anything. -/
def changed (r : Run) : Bool :=
  0 < r.successes

end Run

theorem changed_of_fresh {d : Drawing} {number : Nat} {ls : List (List Char)}
    (h : (runLines d number ls).fresh = true) : (runLines d number ls).changed = true := by
  induction ls generalizing d number with
  | nil => simp [runLines] at h
  | cons raw rest ih =>
    rw [runLines] at h ⊢
    by_cases hs : isSkipped (Text.trim raw)
    · rw [if_pos hs] at h ⊢
      exact ih h
    · rw [if_neg hs] at h ⊢
      cases he : execute d (Text.trim raw) with
      | ok effect => simp [Run.changed, Run.successes, Run.after]
      | error fault =>
        simp only [he] at h ⊢
        split at h
        · rename_i hrec
          rw [if_pos hrec]
          have hrest := ih h
          simpa [Run.changed, Run.successes, Run.after] using hrest
        · simp at h

def runBatch (d : Drawing) (text : String) : Run :=
  runLines d 1 (Text.lines text.toList)

/-! ## The transcript -/

def LineResult.entry (r : LineResult) : String :=
  (if r.ok then "  OK: " else "  Error: ") ++ r.message

/-- The lines of the transcript in front of the results of a text, which is shown as it was
given. -/
def opening (shown text : String) : List String :=
  ["> " ++ shown, s!"==== Running {(Text.lines text.toList).length} line(s) ===="]

def closing (r : Run) : String :=
  s!"==== Done: {r.successes} succeeded, {r.failures} failed ===="

def Run.transcript (r : Run) (shown text : String) : List String :=
  opening shown text ++ r.results.map LineResult.entry ++
    if r.stopped.isNone then [closing r] else []

end GridSketch.Command
