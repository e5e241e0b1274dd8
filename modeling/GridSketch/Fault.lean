import GridSketch.Grid.Size
import GridSketch.Json.Numeral
import GridSketch.Unfit

/-!
# Faults

Everything that can be refused is refused for one of the causes below; what the cause was about is
part of it, and the wording is in `Fault.message` alone. Causes are grouped into kinds, which is
what a caller tells apart.

A fault of most kinds is a mistake in what was typed or loaded, and a batch of commands notes it
and goes on to its next line. The other kinds stop a batch (`Fault.Kind.recoverable`): a numeral
too long to be turned into an integer, a number out of range, a grid that is too large, a file that
cannot be opened. And what is shown in a message or a label may itself be an integer that is too
long to be printed; then there is no message, and the fault is that one (`Fault.showing`,
`Json.print`).
-/

set_option autoImplicit false

namespace GridSketch

/-- What is wrong with a document that is to be loaded. -/
inductive DocumentFlaw where
  | notJson
  | noMatrices
  | notAList (key : String)
  | rowsNotLists (name : Option Json)
  | malformedMatrix (name : Option Json)
  | arrowRecord (record : Json)
  | arrowWidth (width : Option Json)
  | reference (what : String) (raw : Option Json)
  | tintRecord (record : Json)

/-- Why a file cannot be opened. -/
inductive FileTrouble where
  | missing
  | isFolder
  /-- A file stands where the path goes on. -/
  | notFolder
  | nameTooLong
  deriving DecidableEq, Repr

/-- Why something is refused. -/
inductive Fault where
  | reservedName (name : String)
  | malformedName (name : String)
  | emptyName
  | sizeFormat
  | sizeNotPositive (rows cols : Json)
  | notSquare (filling : Filling) (rows cols : Int)
  | positionFormat
  | endpointFormat (role : String)
  | unknownMatrix (name : String)
  | cellOutOfRange (role : String) (lastRow lastCol : Json)
  /-- An integer of too many digits would have to be shown. -/
  | unprintable
  | indexOutOfRange (what : String) (index : Json) (count : Nat)
  | invalidNumber (text : String)
  | unrecognized
  | missingColour
  | document (flaw : DocumentFlaw)
  | unknownSlot (kind : Json)
  | unknownFilling (kind : Json)
  | unknownLevel (name : String)
  | noFileName
  | boundTooLow
  | boundTooHigh
  /-- A lower bound is above its upper bound, where all lower bounds are zero or not. -/
  | boundsCrossed (fromZero : Bool)
  /-- The sides of a random grid have a text among them; the texts take up so many places. -/
  | textSides (places : Nat)
  /-- A side of a random grid is too great to be written down beside a text. -/
  | sideTooLong
  | oversize (cause : Oversize)
  | misshape (cause : Misshape)
  | misfit (cause : Misfit)
  | unfit (cause : Unfit)
  /-- A value of that kind cannot be asked for what a text can. -/
  | noMember (name member : String)
  /-- A list or a text ends before the item that is asked for. -/
  | pastEnd (name : String)
  /-- An object has no entry for an index. -/
  | noEntry (index : Nat)
  /-- A point has no second coordinate, but only so many. -/
  | noCoordinate (count : Nat)
  /-- A view is given by more than three numbers. -/
  | surplus (count : Nat)
  | file (trouble : FileTrouble)
  /-- The name of a file, or a setting, has a zero character in it. -/
  | zeroInName
  /-- A file has lists or objects nested too deeply. -/
  | tooDeep (what : String)

namespace Fault

/-- The kinds of fault. -/
inductive Kind where
  | reservedName
  | malformedName
  | malformedSize
  | malformedPosition
  | malformedEndpoint
  | unknownMatrix
  | indexOutOfRange
  | invalidNumber
  | unrecognizedCommand
  | importFormat
  | badValue
  | badType
  | badMember
  | badIndex
  | badKey
  | noLoop
  | overflow
  | unsupported
  | memory
  | recursion
  | missingFile
  | isFolder
  | notFolder
  | system
  deriving DecidableEq, Repr

/-- Whether a batch of commands goes on after a fault of this kind. -/
def Kind.recoverable : Kind → Bool
  | .badValue | .badType | .badMember | .badIndex | .badKey | .noLoop | .overflow | .unsupported
  | .memory | .recursion | .missingFile | .isFolder | .notFolder | .system => false
  | _ => true

end Fault

def Misfit.faultKind : Misfit → Fault.Kind
  | .kind .. => .badType
  | .text .. | .item _ | .tooManyDigits _ | .notANumber => .badValue
  | .infinite | .tooLarge => .overflow

def Misshape.faultKind : Misshape → Fault.Kind
  | .tooManySides _ => .unsupported
  | .ragged _ | .tooDeep | .apart .. | .clash .. => .badValue

def Oversize.faultKind : Oversize → Fault.Kind
  | .memory .. => .memory
  | .side | .count | .bytes | .nothingLeft .. => .badValue

def FileTrouble.faultKind : FileTrouble → Fault.Kind
  | .missing => .missingFile
  | .isFolder => .isFolder
  | .notFolder => .notFolder
  | .nameTooLong => .system

namespace Fault

def kind : Fault → Kind
  | .reservedName _ => .reservedName
  | .malformedName _ | .emptyName => .malformedName
  | .sizeFormat | .sizeNotPositive .. | .notSquare .. => .malformedSize
  | .positionFormat => .malformedPosition
  | .endpointFormat _ => .malformedEndpoint
  | .unknownMatrix _ => .unknownMatrix
  | .cellOutOfRange .. | .indexOutOfRange .. => .indexOutOfRange
  | .invalidNumber _ => .invalidNumber
  | .unrecognized | .missingColour => .unrecognizedCommand
  | .document _ => .importFormat
  | .unprintable | .unknownSlot _ | .unknownFilling _ | .unknownLevel _ | .noFileName
  | .boundTooLow | .boundTooHigh | .boundsCrossed _ | .zeroInName => .badValue
  | .textSides _ => .noLoop
  | .sideTooLong => .overflow
  | .oversize cause => cause.faultKind
  | .misshape cause => cause.faultKind
  | .misfit cause => cause.faultKind
  | .unfit _ | .surplus _ => .badType
  | .noMember .. => .badMember
  | .pastEnd _ | .noCoordinate _ => .badIndex
  | .noEntry _ => .badKey
  | .file trouble => trouble.faultKind
  | .tooDeep _ => .recursion

/-- The last index below a size, which must be a number. -/
def lastIndex : Json → Except Fault Json
  | .num (.int n) => .ok (.num (.int (n - 1)))
  | .num (.float x) => .ok (.num (.float (x - 1.0)))
  | .bool b => .ok (.num (.int (b.toNat - 1)))
  | j => .error (.unfit (.difference j.kindName))

/-- The fault that shows some values. It is another where one of them cannot be printed. -/
def showing (values : List Json) (f : Fault) : Fault :=
  if values.all Json.isPrintable then f else .unprintable

theorem showing_of_printable {values : List Json} (h : values.all Json.isPrintable = true)
    (f : Fault) : showing values f = f :=
  if_pos h

theorem showing_of_unprintable {values : List Json} (h : values.all Json.isPrintable = false)
    (f : Fault) : showing values f = .unprintable :=
  if_neg (by simp [h])

/-- The fault that a cell is not in a matrix of that size. It is another where the last row or
column could not be told or shown. -/
def outOfRange (role : String) (rows cols : Json) : Fault :=
  match lastIndex rows, lastIndex cols with
  | .error f, _ => f
  | .ok row, .error f => if row.isPrintable then f else .unprintable
  | .ok row, .ok col =>
    if row.isPrintable && col.isPrintable then .cellOutOfRange role row col else .unprintable

/-- Examples of the command language, shown after a line that was not understood. -/
def usage : String :=
  "Examples: A := [3, 3] @ (0, 0), A[0][0] -> B[1][1] : red, A[0][0] : blue, A[0][0] = 5"

end Fault

/-- A value as it is shown, which takes that it can be printed. -/
def Json.print (j : Json) : Except Fault String :=
  if j.isPrintable then .ok j.shown else .error .unprintable

theorem Json.print_eq_ok {j : Json} {text : String} :
    j.print = .ok text ↔ j.isPrintable = true ∧ j.shown = text := by
  cases h : j.isPrintable with
  | true => simp [print, h]
  | false => simp [print, h]

@[simp] theorem Json.print_str (s : String) : (Json.str s).print = .ok s :=
  rfl

def DocumentFlaw.message : DocumentFlaw → String
  | .notJson => "Not a valid JSON document"
  | .noMatrices => "Invalid data format: no 'matrices' list found."
  | .notAList key => "Invalid data format: '" ++ key ++ "' must be a list."
  | .rowsNotLists name =>
    "Matrix '" ++ Json.shownOption name ++ "': values must be a list of rows."
  | .malformedMatrix name => "Matrix '" ++ Json.shownOption name ++ "' is malformed."
  | .arrowRecord record => "Invalid arrow record: " ++ record.quoted
  | .arrowWidth width => "Invalid arrow width: " ++ Json.quotedOption width
  | .reference what raw => "Invalid " ++ what ++ " reference: " ++ Json.quotedOption raw
  | .tintRecord record => "Invalid colored cell record: " ++ record.quoted

/-- The wording of a fault. Trouble with a file has none of its own. -/
def Fault.message : Fault → String
  | .reservedName name =>
    "'" ++ name ++ "' is a reserved word and cannot be used as a matrix name."
  | .malformedName name =>
    "'" ++ name ++ "' is not a valid matrix name (letters, digits and '_' only)."
  | .emptyName => "Matrix name must not be empty."
  | .sizeFormat => "Matrix size has the wrong format. Example: [3, 3]"
  | .sizeNotPositive rows cols =>
    "Matrix size must be positive, got [" ++ rows.shown ++ ", " ++ cols.shown ++ "]."
  | .notSquare filling rows cols =>
    "A " ++ filling.adjective ++ s!" matrix must be square, got [{rows}, {cols}]."
  | .positionFormat => "Position has the wrong format. Example: (0, 0)"
  | .endpointFormat role => role ++ " has the wrong format. Example: A[0][0]"
  | .unknownMatrix name => "Matrix '" ++ name ++ "' is not defined."
  | .cellOutOfRange role lastRow lastCol =>
    role ++ " position is out of range. Rows: 0-" ++ lastRow.shown ++ ", cols: 0-" ++ lastCol.shown
  | .unprintable =>
    s!"Exceeds the limit ({Text.digitLimit} digits) for integer string conversion; " ++
      "use sys.set_int_max_str_digits() to increase the limit"
  | .indexOutOfRange what index count =>
    what ++ " index " ++ index.shown ++ s!" is out of range (0-{(count : Int) - 1})."
  | .invalidNumber text => "'" ++ text ++ "' is not a valid number."
  | .unrecognized => "Unrecognized command. " ++ usage
  | .missingColour => "Missing colour after ':'. " ++ usage
  | .document flaw => flaw.message
  | .unknownSlot kind => "Unknown selection kind: " ++ kind.quoted
  | .unknownFilling kind => "Unknown matrix kind: " ++ kind.quoted
  | .unknownLevel name => "Unknown level: " ++ Text.quote name
  | .noFileName => "No file name given."
  | .boundTooLow => "low is out of bounds for int64"
  | .boundTooHigh => "high is out of bounds for int64"
  | .boundsCrossed false => "low > high"
  | .boundsCrossed true => "high < 0"
  | .textSides places =>
    s!"ufunc 'multiply' did not contain a loop with signature matching types (dtype('<U{places}')"
      ++ s!", dtype('<U{places}')) -> None"
  | .sideTooLong => "cannot fit 'int' into an index-sized integer"
  | .oversize cause => cause.message
  | .misshape cause => cause.message
  | .misfit cause => cause.message
  | .unfit cause => cause.message
  | .noMember name member => "'" ++ name ++ "' object has no attribute '" ++ member ++ "'"
  | .pastEnd name => name ++ " index out of range"
  | .noEntry index => toString index
  | .noCoordinate count => s!"index 1 is out of bounds for axis 0 with size {count}"
  | .surplus count =>
    "ViewportTransform.__init__() takes from 1 to 4 positional arguments but " ++
      s!"{count + 1} were given"
  | .file _ => ""
  | .zeroInName => "embedded null byte"
  | .tooDeep what =>
    "maximum recursion depth exceeded while decoding a JSON " ++ what ++ " from a unicode string"

end GridSketch
