import GridSketch.Launch.Options
import GridSketch.Log.Journal

/-!
# Starting up

The program reads its command line and sets up its log. The option for debugging decides the level
of the log; without it the environment does, and the usual level is that of information.
-/

set_option autoImplicit false

namespace GridSketch.Launch

/-- The environment variable that names the level of the log. -/
def levelVariable : String := "MATRIX_CANVAS_LOG"

def level (o : Options) (setting : Option String) : Log.Level :=
  if o.debug then Log.debug else (Log.levelFrom? setting).getD Log.info

/-- The log once the command line is read, or how the program ends. -/
inductive Started where
  | ended (code : Nat)
  | running (options : Options) (journal : Log.Journal)

def start (args : List String) (setting : Option String) : Except Fault Started :=
  match parse args with
  | .options o => do
    let journal ← ({} : Log.Journal).setUp (.int (level o setting)) o.logFile.path?
    pure (.running o journal)
  | .help => .ok (.ended 0)
  | .refused => .ok (.ended 2)

end GridSketch.Launch
