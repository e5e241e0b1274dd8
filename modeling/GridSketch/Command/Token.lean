import GridSketch.Fault
import GridSketch.Decimal.Reading
import GridSketch.Scene.Name
import GridSketch.Scene.Parts
import GridSketch.Text.Search

/-!
# The tokens of a command

A command names cells, sizes, positions and numbers. Each has a reader here that takes one off the
beginning of a text; between its tokens white space may stand. Cells, sizes and positions are then
looked for anywhere in their part of a line (`Text.findFirst`), and what stands around them is not
looked at. Only a number must be all of its text.

Digits may be of any script. How long a numeral may be is checked after a whole token was found, so
the readers return the digits.
-/

set_option autoImplicit false

namespace GridSketch.Command

/-- The number in a run of digits, which must not be too long. -/
def natural (ds : List Char) : Except Fault Nat :=
  if Text.digitLimit < ds.length then .error (.misfit (.tooManyDigits ds.length))
  else .ok (Text.digitsValue ds)

/-- What is left after a character that must be there, white space before it skipped. -/
def dropMark (mark : Char) (cs : List Char) : Option (List Char) :=
  match Text.skipBlanks cs with
  | [] => none
  | c :: rest => if c = mark then some rest else none

/-- A run of digits, white space before it skipped. -/
def readDigits (cs : List Char) : Option (List Char × List Char) :=
  match Text.takeDigits (Text.skipBlanks cs) with
  | ([], _) => none
  | r => some r

/-! ## Numbers -/

/-- A decimal: its sign, the digits before its point and, if it has a point, the digits after. -/
structure Literal where
  negative : Bool
  whole : List Char
  places : Option (List Char)
  deriving DecidableEq, Repr

namespace Literal

def toFloat (l : Literal) : Float :=
  let places := l.places.getD []
  Decimal.nearestSigned l.negative (Text.digitsValue (l.whole ++ places)) (-(places.length : Int))

/-- The number a literal stands for: a double if it has a point, else an integer. -/
def value (l : Literal) : Except Fault Number :=
  match l.places with
  | some _ => .ok (.float l.toFloat)
  | none => do
    let n ← natural l.whole
    pure (.int (Decimal.signed l.negative n))

end Literal

/-- A decimal after its sign. There must be a digit before the point or after it. -/
def readUnsigned (negative : Bool) (cs : List Char) : Option (Literal × List Char) :=
  match Text.takeDigits cs with
  | (whole, '.' :: rest) =>
    match Text.takeDigits rest with
    | (places, rest) =>
      if whole.isEmpty ∧ places.isEmpty then none else some (⟨negative, whole, some places⟩, rest)
  | (whole, rest) => if whole.isEmpty then none else some (⟨negative, whole, none⟩, rest)

def readLiteral (cs : List Char) : Option (Literal × List Char) :=
  match Text.takeSign cs with
  | (negative, rest) => readUnsigned negative rest

def literal? (cs : List Char) : Option Literal :=
  match readLiteral cs with
  | some (l, []) => some l
  | _ => none

/-- The number a text stands for, white space around it dropped. -/
def number (cs : List Char) : Except Fault Number :=
  let s := Text.trim cs
  match literal? s with
  | some l => l.value
  | none => .error (.invalidNumber (String.ofList s))

/-! ## Cells -/

def readName (cs : List Char) : Option (List Char × List Char) :=
  match cs.takeWhile Name.isNameChar with
  | [] => none
  | name => some (name, cs.dropWhile Name.isNameChar)

def readIndex (cs : List Char) : Option (List Char × List Char) := do
  let rest ← dropMark '[' cs
  let (ds, rest) ← readDigits rest
  let rest ← dropMark ']' rest
  pure (ds, rest)

/-- A cell as it is spelled: the name and the digits of the two indices. -/
structure CellText where
  name : List Char
  row : List Char
  col : List Char
  deriving DecidableEq, Repr

def readCell (cs : List Char) : Option CellText := do
  let (name, rest) ← readName cs
  let (row, rest) ← readIndex rest
  let (col, _) ← readIndex rest
  pure ⟨name, row, col⟩

/-- The first cell in a text. The role says in the message what it was wanted for. -/
def cell (cs : List Char) (role : String) : Except Fault CellRef :=
  match Text.findFirst readCell cs with
  | none => .error (.endpointFormat role)
  | some c => do
    let row ← natural c.row
    let col ← natural c.col
    pure (.ofText (String.ofList c.name) row col)

/-! ## Sizes and positions -/

/-- Two items with a comma between them, in brackets of some kind. -/
def readPair {α : Type} (opening closing : Char) (item : List Char → Option (α × List Char))
    (cs : List Char) : Option (α × α) := do
  let rest ← match cs with
    | c :: rest => if c = opening then some rest else none
    | [] => none
  let (a, rest) ← item (Text.skipBlanks rest)
  let rest ← dropMark ',' rest
  let (b, rest) ← item (Text.skipBlanks rest)
  let _ ← dropMark closing rest
  pure (a, b)

def size (cs : List Char) : Except Fault (Nat × Nat) :=
  match Text.findFirst (readPair '[' ']' readDigits) cs with
  | none => .error .sizeFormat
  | some (r, c) => do
    let rows ← natural r
    let cols ← natural c
    pure (rows, cols)

def position (cs : List Char) : Except Fault (Point Float) :=
  match Text.findFirst (readPair '(' ')' readLiteral) cs with
  | none => .error .positionFormat
  | some (x, y) => .ok ⟨x.toFloat, y.toFloat⟩

end GridSketch.Command
