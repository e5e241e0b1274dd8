import GridSketch.Launch.Startup
import GridSketch.Session.Basic

/-!
# The program

The command line is read, the log set up, and the scene file opened if there is one. Then the
program is a console: it takes command lines from its input, each as a batch, and writes the
transcript of each to its output. Everything it does is decided elsewhere; here it is put into
effect.
-/

set_option autoImplicit false

namespace GridSketch.Console

def usage : String :=
  "usage: matrix-canvas [-h] [--debug] [--log-file LOG_FILE] [file]"

def help : List String :=
  [ usage,
    "",
    "Matrix grid and arrow sketch editor.",
    "",
    "positional arguments:",
    "  file                 scene JSON file to open",
    "",
    "options:",
    "  -h, --help           show this help message and exit",
    "  --debug              log at DEBUG level",
    "  --log-file LOG_FILE  also write the log to this file" ]

def publishLog (j : Log.Journal) : IO Unit := do
  for line in j.console do
    IO.println line
  for (name, lines) in j.files.entries do
    IO.FS.writeFile name (String.join (lines.map fun l => l ++ "\n"))

/-- Says what was wrong; a file that cannot be opened has no wording of its own. -/
def complain (f : Fault) : IO Unit :=
  IO.eprintln (if f.message = "" then "The file cannot be opened." else f.message)

def contents (path : String) : IO (Except Fault ByteArray) := do
  try
    let bytes ← IO.FS.readBinFile path
    pure (.ok bytes)
  catch _ => pure (.error (.file .missing))

def openFile (s : Session Float) (path : String) : IO (Session Float) := do
  let turn := s.step (.loadFile path (← contents path))
  match turn.answer with
  | .ok _ => pure ()
  | .error f => complain f
  pure turn.session

/-- Takes one line of input to the session after it. -/
def takeLine (s : Session Float) (line : String) : IO (Session Float) := do
  let turn := s.step (.run (.str line))
  for entry in turn.session.transcript.drop s.transcript.length do
    IO.println entry
  match turn.answer with
  | .ok _ => pure ()
  | .error f => complain f
  pure turn.session

/-- Takes lines until the input ends. -/
partial def serve (input : IO.FS.Stream) (s : Session Float) : IO Unit := do
  let line ← input.getLine
  if line.isEmpty then pure ()
  else serve input (← takeLine s (Text.trimmed line))

end GridSketch.Console

open GridSketch Console in
def main (args : List String) : IO UInt32 := do
  let setting ← IO.getEnv Launch.levelVariable
  match Launch.start args setting with
  | .error f =>
    complain f
    pure 1
  | .ok (.ended code) =>
    if code = 0 then
      for line in help do
        IO.println line
    else IO.eprintln usage
    pure code.toUInt32
  | .ok (.running options journal) =>
    publishLog journal
    let session := Session.start (Scene.fresh Scene.initial .light)
    let session ← match options.file with
      | some name => openFile session name
      | none => pure session
    serve (← IO.getStdin) session
    pure 0
