import GridSketch.Files
import GridSketch.Log.Level

/-!
# The log

A log has a level, and handlers that write to the console or to a file, each with a level of its
own. A message is kept by a handler if it is serious enough for the log and for the handler. A log
whose level was not set takes warnings and what is more serious.

Setting the log up again takes its handlers away and starts the file anew, so that nothing is
written twice. A file that cannot be opened is refused.
-/

set_option autoImplicit false

namespace GridSketch.Log

/-- Where messages go. -/
inductive Handler where
  | console (setting : Setting)
  | file (name : String) (setting : Setting)
  deriving DecidableEq, Repr

/-- The least level of a message that a handler takes. -/
def Handler.level : Handler → Level
  | .console s => s.level
  | .file _ s => s.level

/-- A log with all it has written, on the console and to each file. -/
structure Journal where
  setting : Setting := .int unset
  handlers : List Handler := []
  console : List String := []
  files : Roster String (List String) := .empty

namespace Journal

def name : String := "matrix_canvas"

/-- The least level of a message that the log takes. -/
def threshold (j : Journal) : Level :=
  if j.setting.level = unset then warning else j.setting.level

def line (severity message : String) : String :=
  name ++ " - " ++ severity ++ " - " ++ message

def write (j : Journal) (text : String) : Handler → Journal
  | .console _ => { j with console := j.console ++ [text] }
  | .file f _ => { j with files := j.files.put f ((j.files.find? f).getD [] ++ [text]) }

def log (j : Journal) (level : Level) (severity message : String) : Journal :=
  if j.threshold ≤ level then
    (j.handlers.filter fun h => h.level ≤ level).foldl
      (fun j h => j.write (line severity message) h) j
  else j

def logDebug (j : Journal) (message : String) : Journal :=
  j.log debug "DEBUG" message

def logInfo (j : Journal) (message : String) : Journal :=
  j.log info "INFO" message

def logError (j : Journal) (message : String) : Journal :=
  j.log error "ERROR" message

/-- The file that is asked for, unless its name is empty. -/
def wantedFile (file : Option String) : Option String :=
  file.filter fun f => f ≠ ""

/-- The name of the file that is asked for, once it is open. Its path is tidied first. -/
def openFile (j : Journal) (file : Option String) : Except Fault (Option String) :=
  match wantedFile file with
  | none => .ok none
  | some path => (Files.openForWriting j.files.has (Files.tidied path)).map some

/-- Sets the log up for the console and, if one is asked for, a file, and says so. -/
def setUp (j : Journal) (setting : Setting) (file : Option String) :
    Except Fault Journal := do
  let opened ← j.openFile file
  let fileHandlers := opened.toList.map fun f => Handler.file f setting
  let files := opened.elim j.files fun f => j.files.put f []
  pure <| logInfo { j with setting, handlers := .console setting :: fileHandlers, files }
    "Logging initialized."

/-- What the file that is asked for holds. Here its path is followed as it is written, so it may
lead nowhere though the file was opened. -/
def contents (j : Journal) (file : Option String) : Except Fault (Option (List String)) :=
  match wantedFile file with
  | none => .ok none
  | some path => (Files.openForReading j.files.has path).map j.files.find?

end Journal

end GridSketch.Log
