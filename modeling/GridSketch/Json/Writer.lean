import GridSketch.Json.Basic

/-!
# Writing JSON text

Files are written with one item or member to a line and two spaces of indentation for each level.
An empty list or object stays on its line. Only what JSON text cannot hold is escaped: the quote,
the backslash and the control characters. There is no line feed at the end.
-/

set_option autoImplicit false

namespace GridSketch.Json

def writeChar (c : Char) : List Char :=
  if c = '"' ∨ c = '\\' then ['\\', c]
  else if c = '\n' then ['\\', 'n']
  else if c = '\r' then ['\\', 'r']
  else if c = '\t' then ['\\', 't']
  else if c = '\x0c' then ['\\', 'f']
  else if c = '\x08' then ['\\', 'b']
  else if c.toNat < 32 then '\\' :: 'u' :: Text.hex 4 c.toNat
  else [c]

def writeText (s : String) : String :=
  String.ofList ('"' :: s.toList.flatMap writeChar ++ ['"'])

/-- A number; the doubles that are none have a word each. -/
def writeNumber : Number → String
  | .int n => toString n
  | .float x =>
    match Decimal.parts x with
    | .finite .. => Decimal.floatText x
    | .infinite negative => if negative then "-Infinity" else "Infinity"
    | .nan => "NaN"

def newline (depth : Nat) : String :=
  String.ofList ('\n' :: List.replicate (2 * depth) ' ')

mutual

def writeAt : Json → Nat → String
  | .null, _ => "null"
  | .bool true, _ => "true"
  | .bool false, _ => "false"
  | .num n, _ => writeNumber n
  | .str s, _ => writeText s
  | .arr [], _ => "[]"
  | .arr (x :: xs), depth =>
    "[" ++ newline (depth + 1) ++ writeItems (x :: xs) (depth + 1) ++ newline depth ++ "]"
  | .obj [], _ => "\x7b\x7d"
  | .obj (m :: ms), depth =>
    "\x7b" ++ newline (depth + 1) ++ writeMembers (m :: ms) (depth + 1) ++ newline depth ++ "\x7d"
termination_by structural j => j

def writeItems : List Json → Nat → String
  | [], _ => ""
  | [x], depth => writeAt x depth
  | x :: y :: rest, depth =>
    writeAt x depth ++ "," ++ newline depth ++ writeItems (y :: rest) depth
termination_by structural xs => xs

def writeMembers : List (String × Json) → Nat → String
  | [], _ => ""
  | [m], depth => writeMember m depth
  | m :: n :: rest, depth =>
    writeMember m depth ++ "," ++ newline depth ++ writeMembers (n :: rest) depth
termination_by structural ms => ms

def writeMember : String × Json → Nat → String
  | (k, v), depth => writeText k ++ ": " ++ writeAt v depth
termination_by structural m => m

end

def write (j : Json) : String :=
  writeAt j 0

end GridSketch.Json
