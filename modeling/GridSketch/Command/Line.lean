import GridSketch.Command.Token
import GridSketch.Scene.Drawing

/-!
# Command lines

There are four forms of command:

    A := [3, 3] @ (0, 0)         a new matrix, filled in sequence
    A[0][0] -> B[1][1] : green   an arrow; the colour may be left out
    A[1][1] : lightblue          a tint, or with the word none its removal
    A[0][2] = 4.5                the value of a cell

A line is of the first form whose marks it holds, wherever they stand, and is then taken apart at
the first place of each mark. What is read off it is then done on a drawing: `create`, `join`,
`tint` and `assign` know nothing of lines. What a command does is a new drawing, or nothing where
there was nothing to change, with a message.
-/

set_option autoImplicit false

namespace GridSketch.Command

/-- The forms of command, in the order in which they are tried. -/
inductive Form where
  | definition
  | arrow
  | cellColour
  | cellValue
  deriving DecidableEq, Repr

namespace Form

/-- The forms in the order in which they are tried. -/
def all : List Form :=
  [.definition, .arrow, .cellColour, .cellValue]

def name : Form → String
  | .definition => "definition"
  | .arrow => "arrow"
  | .cellColour => "cell_color"
  | .cellValue => "cell_value"

/-- The marks of the language. -/
def defines : List Char := [':', '=']
def atSign : List Char := ['@']
def pointsTo : List Char := ['-', '>']
def colon : List Char := [':']
def equals : List Char := ['=']

/-- Whether there is an opening and a closing bracket among the marks of a line. -/
def hasBrackets (has : List Char → Bool) : Bool :=
  has ['['] && has [']']

/-- Whether the marks of a form are among those of a line. -/
def matchedBy (has : List Char → Bool) : Form → Bool
  | .definition => has defines && has atSign
  | .arrow => has pointsTo && hasBrackets has
  | .cellColour => has colon && hasBrackets has && !has pointsTo
  | .cellValue => has equals && hasBrackets has && !has pointsTo

/-- The form of a line of which it is known which marks it has. -/
def ofMarks? (has : List Char → Bool) : Option Form :=
  all.find? (matchedBy has)

end Form

def classify (cs : List Char) : Option Form :=
  Form.ofMarks? fun mark => Text.contains mark cs

def formOf (line : Json) : Except Fault (Option Form) := do
  pure (Form.ofMarks? (← line.marks))

@[simp] theorem formOf_str (s : String) : formOf (.str s) = .ok (classify s.toList) :=
  rfl

/-- What a command does: the new drawing, if it changes anything, and a message. -/
structure Effect where
  drawing : Option Drawing
  message : String

/-! ## What commands do -/

/-- Puts a matrix that is filled in sequence under a name. -/
def create (d : Drawing) (name : String) (rows cols : Nat) (corner : Point Float) :
    Except Fault Effect := do
  let values ← Grid.make .sequential rows cols
  let d' ← d.putMatrix (.str name) (.sized rows cols (Grid.ofInts values) corner)
  pure ⟨some d', "Created matrix '" ++ name ++ s!"' ({rows}x{cols})"⟩

def colourOr (default : String) (cs : List Char) : String :=
  let colour := String.ofList (Text.trim cs)
  if colour = "" then default else colour

/-- An arrow of which no more is said than its colour. -/
def plainArrow (source target : CellRef) (colour : List Char) : Arrow where
  source := source
  target := target
  colour := .str (colourOr Arrow.defaultColour colour)
  style := .str Arrow.defaultStyle
  width := .num (.float Arrow.defaultWidth)
  label := .null

/-- Adds an arrow between two cells, which must be there. -/
def join (d : Drawing) (source target : CellRef) (colour : List Char) : Except Fault Effect := do
  let _ ← d.requireCell source "Source"
  let _ ← d.requireCell target "Target"
  pure ⟨some (d.addArrow (plainArrow source target colour)),
    "Added arrow " ++ source.text ++ " -> " ++ target.text⟩

/-- Puts a tint on a cell, which must be there, or takes its tint away. -/
def tint (d : Drawing) (ref : CellRef) (colour : List Char) : Except Fault Effect := do
  let _ ← d.requireCell ref "Cell"
  let colour := String.ofList (Text.trim colour)
  if colour = "" then throw .missingColour
  else if Tint.isNone colour then pure ⟨d.clearTint ref, "Removed colour of " ++ ref.text⟩
  else
    pure ⟨some (d.putTint ⟨ref, .str colour⟩),
      "Set colour of " ++ ref.text ++ " to '" ++ colour ++ "'"⟩

/-- Gives a cell, which must be there, the value that is written down. -/
def assign (d : Drawing) (ref : CellRef) (value : List Char) : Except Fault Effect := do
  let m ← d.requireCell ref "Cell"
  let value ← number value
  let d' ← d.putMatrix ref.matrix (m.withValue ref.row ref.col (.num value))
  pure ⟨some d', "Set " ++ ref.text ++ " to " ++ value.text⟩

/-! ## Reading a line -/

def define (d : Drawing) (cs : List Char) : Except Fault Effect := do
  let (before, rest) := Text.cut Form.defines cs
  let name ← Name.validate (.str (String.ofList (Text.trim before)))
  let (sizePart, positionPart) := Text.cut Form.atSign rest
  let (rows, cols) ← size sizePart
  let corner ← position positionPart
  create d name rows cols corner

def addArrow (d : Drawing) (cs : List Char) : Except Fault Effect := do
  let (sourcePart, rest) := Text.cut Form.pointsTo cs
  let (targetPart, colourPart) := Text.cut Form.colon rest
  let source ← cell sourcePart "Source"
  let target ← cell targetPart "Target"
  join d source target colourPart

def colourCell (d : Drawing) (cs : List Char) : Except Fault Effect := do
  let (cellPart, colourPart) := Text.cut Form.colon cs
  let ref ← cell cellPart "Cell"
  tint d ref colourPart

def setValue (d : Drawing) (cs : List Char) : Except Fault Effect := do
  let (cellPart, valuePart) := Text.cut Form.equals cs
  let ref ← cell cellPart "Cell"
  assign d ref valuePart

/-- Does the command of a line, which must have no white space around it. -/
def execute (d : Drawing) (cs : List Char) : Except Fault Effect :=
  match classify cs with
  | none => .error .unrecognized
  | some .definition => define d cs
  | some .arrow => addArrow d cs
  | some .cellColour => colourCell d cs
  | some .cellValue => setValue d cs

/-- Does the command of what is given as a line. A line that is no text can have a form, but it
cannot be taken apart. -/
def executeValue (d : Drawing) (line : Json) : Except Fault Effect := do
  match line with
  | .str s => execute d s.toList
  | _ =>
    match ← formOf line with
    | none => throw .unrecognized
    | some _ => throw (.noMember line.kindName "partition")

end GridSketch.Command
