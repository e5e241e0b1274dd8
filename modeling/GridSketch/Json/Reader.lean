import GridSketch.Json.Basic
import GridSketch.Decimal.Reading
import GridSketch.Text.Digit

/-!
# Reading JSON text

The reader takes the whole text or nothing. Besides the standard's grammar it knows the three
words `NaN`, `Infinity` and `-Infinity`. A number with a fraction or an exponent is a double, any
other an integer, and an integer of more than `Text.digitLimit` digits is refused with a cause of
its own; so are lists and objects nested more than `depthLimit` deep. A name that occurs twice in an
object has the later value in the earlier place.

Each step of the reader consumes at least one character before it calls itself, so the length of
the text is enough fuel; it never shows, since `read` supplies it.
-/

set_option autoImplicit false

namespace GridSketch.Json

/-- Why a text is not read. -/
inductive Flaw where
  /-- The text is not JSON. -/
  | malformed
  /-- The text holds an integer of that many digits. -/
  | tooManyDigits (count : Nat)
  /-- The text holds lists and objects nested too deeply; the innermost is of that kind. -/
  | tooDeep (what : String)
  deriving DecidableEq, Repr

def depthLimit : Nat := 985

def isGap (c : Char) : Bool :=
  c = ' ' || c = '\t' || c = '\n' || c = '\r'

def skipGap (cs : List Char) : List Char :=
  cs.dropWhile isGap

def isAsciiDigit (c : Char) : Bool :=
  '0' ≤ c && c ≤ '9'

/-- The leading run of ASCII digits, and the rest. -/
def spanDigits (cs : List Char) : List Char × List Char :=
  (cs.takeWhile isAsciiDigit, cs.dropWhile isAsciiDigit)

def readHex4 : List Char → Option (Nat × List Char)
  | a :: b :: c :: d :: rest => do
    let a ← Text.hexValue? a
    let b ← Text.hexValue? b
    let c ← Text.hexValue? c
    let d ← Text.hexValue? d
    pure (((a * 16 + b) * 16 + c) * 16 + d, rest)
  | _ => none

/-- The character an escape of one letter stands for. -/
def letterEscape? : Char → Option Char
  | '"' => some '"'
  | '\\' => some '\\'
  | '/' => some '/'
  | 'b' => some '\x08'
  | 'f' => some '\x0c'
  | 'n' => some '\n'
  | 'r' => some '\r'
  | 't' => some '\t'
  | _ => none

/-- What follows a backslash. Two escapes of four digits that are the halves of one character are
that character; a half alone is no character, and the replacement character stands for it. -/
def readEscape : List Char → Option (Char × List Char)
  | 'u' :: cs => do
    let (n, rest) ← readHex4 cs
    if 0xD800 ≤ n ∧ n < 0xDC00 then
      match rest with
      | '\\' :: 'u' :: more =>
        match readHex4 more with
        | some (low, rest') =>
          if 0xDC00 ≤ low ∧ low < 0xE000 then
            pure (Char.ofNat (0x10000 + (n - 0xD800) * 0x400 + (low - 0xDC00)), rest')
          else pure ('\ufffd', rest)
        | none => none
      | _ => pure ('\ufffd', rest)
    else if 0xDC00 ≤ n ∧ n < 0xE000 then pure ('\ufffd', rest)
    else pure (Char.ofNat n, rest)
  | c :: rest => (letterEscape? c).map fun e => (e, rest)
  | [] => none

/-- The characters of a text up to its closing quote. Control characters must be escaped. -/
def readChars : Nat → List Char → List Char → Option (String × List Char)
  | 0, _, _ => none
  | fuel + 1, done, cs =>
    match cs with
    | [] => none
    | '"' :: rest => some (String.ofList done.reverse, rest)
    | '\\' :: rest =>
      match readEscape rest with
      | some (e, rest) => readChars fuel (e :: done) rest
      | none => none
    | c :: rest => if c.toNat < 32 then none else readChars fuel (c :: done) rest

def readText (cs : List Char) : Except Flaw (String × List Char) :=
  match readChars (cs.length + 1) [] cs with
  | some r => .ok r
  | none => .error .malformed

/-- The digits of a fraction, if a point with a digit follows. -/
def readFraction : List Char → Option (List Char) × List Char
  | '.' :: cs =>
    match spanDigits cs with
    | ([], _) => (none, '.' :: cs)
    | (ds, rest) => (some ds, rest)
  | cs => (none, cs)

/-- An exponent, if its letter, an optional sign and a digit follow. -/
def readExponent (cs : List Char) : Option Int × List Char :=
  match cs with
  | [] => (none, [])
  | c :: tail =>
    if c = 'e' ∨ c = 'E' then
      let (negative, tail) := Text.takeSign tail
      match spanDigits tail with
      | ([], _) => (none, cs)
      | (ds, rest) => (some (Decimal.signed negative (Text.digitsValue ds)), rest)
    else (none, cs)

/-- The digits before the point: a lone zero, or a run that does not start with zero. -/
def readWhole : List Char → Option (List Char × List Char)
  | '0' :: cs => some (['0'], cs)
  | cs =>
    match spanDigits cs with
    | ([], _) => none
    | r => some r

def readNumber (negative : Bool) (cs : List Char) : Except Flaw (Json × List Char) :=
  match readWhole cs with
  | none => .error .malformed
  | some (whole, rest) =>
    match readFraction rest with
    | (fraction, rest) =>
      match readExponent rest with
      | (exponent, rest) =>
        if fraction.isNone ∧ exponent.isNone then
          if Text.digitLimit < whole.length then .error (.tooManyDigits whole.length)
          else .ok (.num (.int (Decimal.signed negative (Text.digitsValue whole))), rest)
        else
          let places := fraction.getD []
          let digits := Text.digitsValue (whole ++ places)
          let x := Decimal.nearestSigned negative digits (exponent.getD 0 - places.length)
          .ok (.num (.float x), rest)

def dropWord (word cs : List Char) : Option (List Char) :=
  if word.isPrefixOf cs then some (cs.drop word.length) else none

def wordValues : List (List Char × Json) :=
  [ ("null".toList, .null),
    ("true".toList, .bool true),
    ("false".toList, .bool false),
    ("NaN".toList, .num (.float Decimal.notANumber)),
    ("Infinity".toList, .num (.float Decimal.infinity)),
    ("-Infinity".toList, .num (.float (-Decimal.infinity))) ]

def readScalar (cs : List Char) : Except Flaw (Json × List Char) :=
  match wordValues.findSome? fun w => (dropWord w.1 cs).map fun rest => (w.2, rest) with
  | some r => .ok r
  | none =>
    match cs with
    | '-' :: rest => readNumber true rest
    | _ => readNumber false cs

mutual

/-- A value with no white space in front of it, with so much room for lists and objects in it. -/
def readValue : Nat → Nat → List Char → Except Flaw (Json × List Char)
  | 0, _, _ => .error .malformed
  | fuel + 1, room, cs =>
    match cs with
    | '"' :: rest => do
      let (s, rest) ← readText rest
      pure (.str s, rest)
    | '[' :: rest =>
      if room = 0 then throw (.tooDeep "array")
      else
        match skipGap rest with
        | ']' :: rest => pure (.arr [], rest)
        | rest => readItems fuel (room - 1) [] rest
    | '\x7b' :: rest =>
      if room = 0 then throw (.tooDeep "object")
      else
        match skipGap rest with
        | '\x7d' :: rest => pure (.obj [], rest)
        | rest => readMembers fuel (room - 1) [] rest
    | _ => readScalar cs

/-- The items of a list from the next one on; the items before it are given in reverse. -/
def readItems : Nat → Nat → List Json → List Char → Except Flaw (Json × List Char)
  | 0, _, _, _ => .error .malformed
  | fuel + 1, room, done, cs => do
    let (x, rest) ← readValue fuel room cs
    match skipGap rest with
    | ',' :: rest => readItems fuel room (x :: done) (skipGap rest)
    | ']' :: rest => pure (.arr (x :: done).reverse, rest)
    | _ => throw .malformed

/-- The members of an object from the next one on, after those before it. -/
def readMembers : Nat → Nat → List (String × Json) → List Char → Except Flaw (Json × List Char)
  | 0, _, _, _ => .error .malformed
  | fuel + 1, room, done, cs =>
    match cs with
    | '"' :: rest => do
      let (k, rest) ← readText rest
      match skipGap rest with
      | ':' :: rest =>
        let (v, rest) ← readValue fuel room (skipGap rest)
        let done := Keyed.put k v done
        match skipGap rest with
        | ',' :: rest => readMembers fuel room done (skipGap rest)
        | '\x7d' :: rest => pure (.obj done, rest)
        | _ => throw .malformed
      | _ => throw .malformed
    | _ => throw .malformed

end

def read (text : String) : Except Flaw Json := do
  let cs := text.toList
  let (j, rest) ← readValue (cs.length + 1) depthLimit (skipGap cs)
  if (skipGap rest).isEmpty then pure j else throw .malformed

/-- Reads the bytes of a file, which must be UTF-8. -/
def readBytes (bytes : ByteArray) : Except Flaw Json :=
  match String.fromUTF8? bytes with
  | some text => read text
  | none => .error .malformed

end GridSketch.Json
