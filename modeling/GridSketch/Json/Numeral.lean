import GridSketch.Json.Basic
import GridSketch.Text.Blank
import GridSketch.Text.Case
import GridSketch.Decimal.Reading
import GridSketch.Text.Digit

/-!
# Values taken for numbers

A document or a form may have a text, a truth value or a fraction where a number belongs, and such
a value is taken for the number it stands for where there is one. Truth values stand for zero and
one. A text may have padding around it, digits of any script, and single underscores between
digits; only a text that is to be a double may have a point, an exponent, or be one of the words
for infinity and for what is not a number. A double that is to be an integer loses its fraction.

What stands for no number is a `Misfit`. Two of them are limits of the arithmetic and not mistakes
in the value: infinity has no integer, and a great integer no double.
-/

set_option autoImplicit false

namespace GridSketch

/-- The kinds of number a value can be wanted as. -/
inductive Wanted where
  | integer
  | double
  deriving DecidableEq, Repr

/-- Why a value is no number of the kind that is wanted. -/
inductive Misfit where
  /-- A value of a kind that never is. -/
  | kind (wanted : Wanted) (name : String)
  /-- A text that is no numeral. -/
  | text (wanted : Wanted) (s : String)
  /-- A text that is no integer, among items that all count as texts. -/
  | item (s : String)
  /-- An integer of too many digits. -/
  | tooManyDigits (count : Nat)
  | notANumber
  | infinite
  | tooLarge
  deriving DecidableEq, Repr

namespace Misfit

/-- Whether a misfit is a limit of the arithmetic and not a mistake in the value. -/
def isLimit : Misfit → Bool
  | .infinite | .tooLarge => true
  | _ => false

/-- How much of a text that is no integer is shown. -/
def shownLength : Nat := 200

/-- What is shown of a text that is no integer, given its quoted form. -/
def noInteger (quoted : String) : String :=
  "invalid literal for int() with base 10: " ++ String.ofList (quoted.toList.take shownLength)

/-- The wording of a misfit. A long text that is no integer is cut off. -/
def message : Misfit → String
  | .kind .integer name =>
    "int() argument must be a string, a bytes-like object or a real number, not '" ++ name ++ "'"
  | .kind .double name =>
    "float() argument must be a string or a real number, not '" ++ name ++ "'"
  | .text .integer s => noInteger (Text.quote s)
  | .item s => noInteger ("np.str_(" ++ Text.quote s ++ ")")
  | .text .double s => "could not convert string to float: " ++ Text.quote s
  | .tooManyDigits count =>
    s!"Exceeds the limit ({Text.digitLimit} digits) for integer string conversion: " ++
      s!"value has {count} digits; use sys.set_int_max_str_digits() to increase the limit"
  | .notANumber => "cannot convert float NaN to integer"
  | .infinite => "cannot convert float infinity to integer"
  | .tooLarge => "int too large to convert to float"

end Misfit

namespace Numeral

/-- The leading run of digits without the single underscores between them, and the rest; none if
there is no digit, or an underscore that is not between two digits. -/
def readDigits (cs : List Char) : Option (List Char × List Char) :=
  let inRun (c : Char) : Bool := Text.isDigit c || c = '_'
  let pieces := (cs.takeWhile inRun).splitOn '_'
  if pieces.any List.isEmpty then none else some (pieces.flatten, cs.dropWhile inRun)

/-- The integer a text stands for. Digits are counted before what follows them is looked at. -/
def integer (s : String) : Except Misfit Int :=
  match Text.takeSign (Text.strip Text.isPadding s.toList) with
  | (negative, cs) =>
    match readDigits cs with
    | none => .error (.text .integer s)
    | some (ds, rest) =>
      if Text.digitLimit < ds.length then .error (.tooManyDigits ds.length)
      else if rest.isEmpty then .ok (Decimal.signed negative (Text.digitsValue ds))
      else .error (.text .integer s)

/-- The digits before the point and those after it, with what is left. At least one of the two must
be there. -/
def readPlaces (cs : List Char) : Option (List Char × List Char × List Char) :=
  match readDigits cs with
  | some (whole, '.' :: rest) =>
    match rest with
    | c :: _ =>
      if Text.isDigit c then (readDigits rest).map fun r => (whole, r.1, r.2)
      else some (whole, [], rest)
    | [] => some (whole, [], [])
  | some (whole, rest) => some (whole, [], rest)
  | none =>
    match cs with
    | '.' :: rest => (readDigits rest).map fun r => ([], r.1, r.2)
    | _ => none

/-- An exponent that takes up all that is left, or nothing. -/
def readExponent : List Char → Option Int
  | [] => some 0
  | c :: cs =>
    if c = 'e' ∨ c = 'E' then
      match Text.takeSign cs with
      | (negative, cs) =>
        match readDigits cs with
        | some (ds, []) => some (Decimal.signed negative (Text.digitsValue ds))
        | _ => none
    else none

/-- The words that stand for a double, in small letters. -/
def words : List (String × Float) :=
  [ ("inf", Decimal.infinity), ("infinity", Decimal.infinity), ("nan", Decimal.notANumber) ]

/-- The capital letters of ASCII made small, other characters as they are. -/
def lowered (cs : List Char) : String :=
  String.ofList (cs.map Char.toLower)

def double (s : String) : Except Misfit Float :=
  match Text.takeSign (Text.strip Text.isPadding s.toList) with
  | (negative, cs) =>
    match Keyed.find? (lowered cs) words with
    | some x => .ok (if negative then -x else x)
    | none =>
      match readPlaces cs with
      | none => .error (.text .double s)
      | some (whole, places, rest) =>
        match readExponent rest with
        | none => .error (.text .double s)
        | some e =>
          .ok (Decimal.nearestSigned negative (Text.digitsValue (whole ++ places))
            (e - places.length))

end Numeral

namespace Json

def toInt : Json → Except Misfit Int
  | .bool b => .ok (if b then 1 else 0)
  | .num (.int n) => .ok n
  | .num (.float x) =>
    match Decimal.parts x with
    | .finite negative m e => .ok (Decimal.signed negative (Decimal.wholePart m e))
    | .infinite _ => .error .infinite
    | .nan => .error .notANumber
  | .str s => Numeral.integer s
  | j => .error (.kind .integer j.kindName)

/-- The double nearest to an integer, which must be in range. -/
def floatOfInt (n : Int) : Except Misfit Float :=
  match Decimal.ofInt? n with
  | some x => .ok x
  | none => .error .tooLarge

def toFloat : Json → Except Misfit Float
  | .bool b => .ok (if b then 1.0 else 0.0)
  | .num (.int n) => floatOfInt n
  | .num (.float x) => .ok x
  | .str s => Numeral.double s
  | j => .error (.kind .double j.kindName)

@[simp] theorem toInt_int (n : Int) : (Json.num (.int n)).toInt = .ok n :=
  rfl

@[simp] theorem toFloat_float (x : Float) : (Json.num (.float x)).toFloat = .ok x :=
  rfl

end Json

end GridSketch
