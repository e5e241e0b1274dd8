import GridSketch.Json.Basic

/-!
# Values that do not do

Names, indices, sizes and texts come from outside as values of any kind, and are used as they are.
A value that cannot be used so is refused, with the kind it has and what it was wanted for.
-/

set_option autoImplicit false

namespace GridSketch

/-- The ways in which two values are compared. -/
inductive Comparison where
  | less
  | atMost
  | greater
  deriving DecidableEq, Repr

namespace Comparison

def sign : Comparison → String
  | .less => "<"
  | .atMost => "<="
  | .greater => ">"

/-- Whether a comparison holds of two values of which the first lies so to the second. -/
def holds : Comparison → Ordering → Bool
  | .less, o => o.isLT
  | .atMost, o => o.isLE
  | .greater, o => o.isGT

end Comparison

/-- What an index is used for. -/
inductive Indexing where
  /-- Looking up an item that stays as it is. -/
  | lookUp
  /-- Putting another item in the place of one. -/
  | replace
  /-- Cutting a list in two. -/
  | cut
  deriving DecidableEq, Repr

/-- Why a value of one kind does not do where another is used. The name is that of its kind. -/
inductive Unfit where
  /-- What is looked up by name is a list or an object. -/
  | key (name : String)
  /-- Two values of these kinds are not comparable. -/
  | order (c : Comparison) (left right : String)
  /-- What is used as an index is no integer. -/
  | index (use : Indexing) (name : String)
  /-- What one is taken from is no number. -/
  | difference (name : String)
  /-- What is added to a coordinate is no number. -/
  | sum (name : String)
  /-- A side of a random grid is no integer. -/
  | side (name : String)
  /-- A side of a random grid is a truth value. -/
  | truthSide
  /-- A coordinate is a list. -/
  | coordinate
  /-- What is searched for a cell or a name is no text. -/
  | subject (name : String)
  /-- What is searched for marks has no parts. -/
  | line (name : String)
  /-- What is gone through item by item has no items. -/
  | items (name : String)
  /-- What is asked for an item has none. -/
  | item (name : String)
  /-- What is asked for its length has none. -/
  | length (name : String)
  /-- What is used as the path of a file is no text. -/
  | path (name : String)
  /-- What is used as a setting of the environment is no text. -/
  | setting (name : String)
  /-- The level of the log is neither an integer nor a text. -/
  | level (value : Json)

def Unfit.message : Unfit → String
  | .key name => "unhashable type: '" ++ name ++ "'"
  | .order c left right =>
    "'" ++ c.sign ++ "' not supported between instances of '" ++ left ++ "' and '" ++ right ++ "'"
  | .index .lookUp name => "tuple indices must be integers or slices, not " ++ name
  | .index .replace name => "list indices must be integers or slices, not " ++ name
  | .index .cut _ => "slice indices must be integers or None or have an __index__ method"
  | .difference name => "unsupported operand type(s) for -: '" ++ name ++ "' and 'int'"
  | .sum name => "unsupported operand type(s) for +: 'float' and '" ++ name ++ "'"
  | .side name => "'" ++ name ++ "' object cannot be interpreted as an integer"
  | .truthSide => "an integer is required"
  | .coordinate => "only 0-dimensional arrays can be converted to Python scalars"
  | .subject name => "expected string or bytes-like object, got '" ++ name ++ "'"
  | .line name => "argument of type '" ++ name ++ "' is not iterable"
  | .items name => "'" ++ name ++ "' object is not iterable"
  | .item name => "'" ++ name ++ "' object is not subscriptable"
  | .length name => "object of type '" ++ name ++ "' has no len()"
  | .path name => "expected str, bytes or os.PathLike object, not " ++ name
  | .setting name => "str expected, not " ++ name
  | .level value => "Level not an integer or a valid string: " ++ value.quoted

end GridSketch
