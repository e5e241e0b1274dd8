import GridSketch.Command.Batch
import GridSketch.Document.Reader
import GridSketch.Document.Writer
import GridSketch.History
import GridSketch.Json.Reader
import GridSketch.Json.Writer
import GridSketch.Scene.Status
import GridSketch.Session.Action
import GridSketch.View.Picking

/-!
# Sessions

A session is one scene with everything around it: the view and a drag of it, the transcript of the
console, the steps that can be undone and redone, and the path of the file the scene was last loaded
from or saved to. The steps are between whole scenes, but only the drawing of a scene is ever put
back: undoing and redoing change the drawing under whatever look the scene has by then. So the
history of a session is one of drawings (`Session.history`).

Files are opened outside: an operation on a file is given what came of opening it.

What an operation does is a `Turn`. Besides the new session and the answer it says how often those
who watch the scene and those who watch the history were told of a change.
-/

set_option autoImplicit false

namespace GridSketch

/-- A scene and everything around it. -/
structure Session (K : Type) where
  scene : Scene
  view : Viewport K
  drag : Drag K
  transcript : List String
  snapshots : History Scene String
  file : Option String

/-- What was drawn before and after the steps that can be undone and redone. -/
def Session.history {K : Type} (s : Session K) : History Drawing String :=
  s.snapshots.map Scene.toDrawing

/-- How often the watchers of the scene and those of the history were told. -/
structure Notices where
  scene : Nat := 0
  history : Nat := 0
  deriving DecidableEq, Repr

/-- What an operation answers. -/
inductive Answer (K : Type) where
  | done
  | name (n : Json)
  | flag (b : Bool)
  | run (r : Command.Run)
  | cell (r : Option CellRef)
  | scale (k : K)
  | theme (t : Theme)
  | saved (path text : String)

/-- What an operation did: the session after it, who was told, and the answer or the fault. -/
structure Turn (K : Type) where
  session : Session K
  notices : Notices
  answer : Except Fault (Answer K)

namespace Session

variable {K : Type} [Coordinate K]

def start (scene : Scene) : Session K :=
  { scene, view := .initial, drag := .idle, transcript := [], snapshots := {}, file := none }

/-! ## Kinds of turn -/

def quiet (s : Session K) (a : Answer K) : Turn K :=
  ⟨s, {}, .ok a⟩

def refuse (s : Session K) (f : Fault) : Turn K :=
  ⟨s, {}, .error f⟩

/-- The watchers of the scene are told of the session as it is now. -/
def announce (s : Session K) (a : Answer K) : Turn K :=
  ⟨s, { scene := 1 }, .ok a⟩

/-- A scene takes the place of the session's, outside the history. -/
def present (s : Session K) (scene : Scene) (a : Answer K) : Turn K :=
  announce { s with scene } a

/-- A scene takes the place of the session's, as a step that can be undone; without a scene there
is no step. -/
def commit (s : Session K) (scene : Option Scene) (label : String) (a : Answer K) : Turn K :=
  match scene with
  | none => s.quiet a
  | some new =>
    { session :=
        { s with
          scene := new
          snapshots := s.snapshots.record ⟨s.scene, new, label⟩ }
      notices := { scene := 1, history := 1 }
      answer := .ok a }

/-- A scene takes the place of the session's, and there is nothing to undo any more. -/
def restart (s : Session K) (scene : Scene) (file : Option String) : Turn K :=
  { session := { s with scene, file, snapshots := {} }
    notices := { scene := 1, history := 1 }
    answer := .ok .done }

/-- A step back or forward, if there is one: the drawing of a snapshot is put back. -/
def travel (s : Session K) (step : Option (Scene × History Scene String)) : Turn K :=
  match step with
  | none => s.quiet (.flag false)
  | some (snapshot, snapshots) =>
    { session := { s with scene := s.scene.withDrawing snapshot.toDrawing, snapshots }
      notices := { scene := 1, history := 1 }
      answer := .ok (.flag true) }

/-! ## Turns -/

def act (s : Session K) (a : Action) : Turn K :=
  match a.apply s.scene with
  | .ok change => s.commit change.scene change.label (.name ((change.chosen.map .str).getD .null))
  | .error f => s.refuse f

/-- Runs the batch of a text as one step. The transcript grows even where the batch is stopped. -/
def runText (s : Session K) (shown text : String) : Turn K :=
  let r := Command.runBatch s.scene.toDrawing text
  let s := { s with transcript := s.transcript ++ r.transcript shown text }
  match r.stopped with
  | some f => s.refuse f
  | none =>
    if r.changed then
      s.commit (if r.fresh then some (s.scene.withDrawing r.drawing) else none)
        s!"Run {r.successes} command(s)" (.run r)
    else s.announce (.run r)

def run (s : Session K) (source : Json) : Turn K :=
  match source.typedLines with
  | .ok text => s.runText source.shown text
  | .error f => s.refuse f

/-- Whether a value may be the selected matrix: the name of one that is there may, or nothing. -/
def selectable (s : Session K) (name : Json) : Except Fault Unit := do
  if name.isNull then pure ()
  else
    let _ ← s.scene.matrix name
    pure ()

/-- Selects a matrix, which must be there, or none. -/
def selectMatrix (s : Session K) (name : Json) : Turn K :=
  match s.selectable name with
  | .ok () => s.present (s.scene.select .matrix name) .done
  | .error f => s.refuse f

/-- Selects an entry of a list by its index, whether it is there or not, or none. -/
def selectIndex (s : Session K) (slot : Slot) (index : Json) : Turn K :=
  s.present (s.scene.select slot index) .done

def toggleTheme (s : Session K) : Turn K :=
  s.present s.scene.toggleTheme (.theme s.scene.theme.flip)

/-- The pointer moves to a point of the screen: the view moves along while it is being dragged,
and otherwise the cell under the pointer is looked up. A drag that stops half-way is refused, and
leaves the view where it stopped. -/
def pointerMove (s : Session K) (p : Point (Given K)) : Turn K :=
  match s.drag.move s.view p with
  | some ⟨drag, view, none⟩ => announce { s with drag, view } (.cell s.scene.hovered)
  | some ⟨drag, view, some f⟩ => refuse { s with drag, view } f
  | none =>
    match p.read >>= s.scene.cellAt s.view with
    | .error f => s.refuse f
    | .ok r =>
      if r == s.scene.hovered then s.quiet (.cell r) else s.present (s.scene.hover r) (.cell r)

/-- The pointer leaves the screen, and with it the cell it was over. -/
def pointerLeave (s : Session K) : Turn K :=
  if s.scene.hovered.isSome then s.present (s.scene.hover none) .done else s.quiet .done

/-- Selects the matrix under a point of the screen, if there is one. -/
def doubleClick (s : Session K) (p : Point (Given K)) : Turn K :=
  match p.read >>= s.scene.matrixAt s.view with
  | .error f => s.refuse f
  | .ok none => s.quiet (.name .null)
  | .ok (some n) => s.present (s.scene.select .matrix n) (.name n)

/-- The wheel turns by one step; the answer is the scale. -/
def wheel (s : Session K) (up : Bool) : Turn K :=
  let view := s.view.zoom up
  announce { s with view } (.scale view.scale)

def importDocument (s : Session K) (data : Json) : Turn K :=
  match Document.read data with
  | .ok d => s.restart (s.scene.load d) s.file
  | .error f => s.refuse f

def flawFault : Json.Flaw → Fault
  | .malformed => .document .notJson
  | .tooManyDigits count => .misfit (.tooManyDigits count)
  | .tooDeep what => .tooDeep what

def readFile (bytes : ByteArray) : Except Fault Drawing := do
  Document.read (← (Json.readBytes bytes).mapError flawFault)

/-- Loads a file in the place of the scene, or says why it cannot be opened. -/
def loadFile (s : Session K) (path : String) (opened : Except Fault ByteArray) : Turn K :=
  match opened.bind readFile with
  | .ok d => s.restart (s.scene.load d) (some path)
  | .error f => s.refuse f

/-- Where to save: at a path that is given, or that of the current file. -/
def savePath (s : Session K) (path : String) : String :=
  if path = "" then s.file.getD "" else path

/-- The text of a file, which takes that all numbers in it can be printed. -/
def written (d : Drawing) : Except Fault String :=
  let document := Document.write d
  if document.isPrintable then .ok (Json.write document) else .error .unprintable

/-- Saves the drawing: the answer is the path of the file and its text. Nothing is saved, and the
current file is still the one before, where the file cannot be opened or the text not be written. -/
def saveFile (s : Session K) (path : String) (opened : Except Fault Unit) : Turn K :=
  let path := s.savePath path
  if path = "" then s.refuse .noFileName
  else
    match opened >>= fun _ => written s.scene.toDrawing with
    | .ok text => quiet { s with file := some path } (.saved path text)
    | .error f => s.refuse f

/-! ## Operations -/

/-- Everything that can be done to a session. -/
inductive Op (K : Type) where
  | act (a : Action)
  | run (source : Json)
  | clearTranscript
  | selectMatrix (name : Json)
  | selectArrow (index : Json)
  | selectTint (index : Json)
  | toggleTheme
  | undo
  | redo
  | reset
  | newScene
  | importDocument (data : Json)
  | loadFile (path : String) (opened : Except Fault ByteArray)
  | saveFile (path : String) (opened : Except Fault Unit)
  | pointerMove (p : Point (Given K))
  | pointerLeave
  | beginPan (p : Point (Given K))
  | endPan
  | doubleClick (p : Point (Given K))
  | wheel (up : Bool)
  | resetView

def step (s : Session K) : Op K → Turn K
  | .act a => s.act a
  | .run source => s.run source
  | .clearTranscript => announce { s with transcript := [] } .done
  | .selectMatrix name => s.selectMatrix name
  | .selectArrow index => s.selectIndex .arrow index
  | .selectTint index => s.selectIndex .tint index
  | .toggleTheme => s.toggleTheme
  | .undo => s.travel s.snapshots.undo?
  | .redo => s.travel s.snapshots.redo?
  | .reset => s.restart s.scene.reset s.file
  | .newScene => s.restart (s.scene.load {}) none
  | .importDocument data => s.importDocument data
  | .loadFile path opened => s.loadFile path opened
  | .saveFile path opened => s.saveFile path opened
  | .pointerMove p => s.pointerMove p
  | .pointerLeave => s.pointerLeave
  | .beginPan p => quiet { s with drag := .press p } .done
  | .endPan => quiet { s with drag := .idle } .done
  | .doubleClick p => s.doubleClick p
  | .wheel up => s.wheel up
  | .resetView => announce { s with view := .initial } .done

end Session

end GridSketch
