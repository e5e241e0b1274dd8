import GridSketch.Text.Blank
import GridSketch.Text.Case
import GridSketch.Text.Hex

/-!
# Colours

A colour is any text. It has components where it is one of a table of names or six hexadecimal
digits with or without a hash in front, in letters of either case and with white space around it.
The text on a tinted cell is black where the tint is bright and white where it is not, and a colour
without components counts as neither.
-/

set_option autoImplicit false

namespace GridSketch.Colour

/-- The components red, green and blue, each below 256. -/
structure Rgb where
  red : Nat
  green : Nat
  blue : Nat
  deriving DecidableEq, Repr

/-- The names that are known, each with its six digits. -/
def named : List (String × String) :=
  [ ("red", "ff0000"), ("green", "00ff00"), ("blue", "0000ff"), ("yellow", "ffff00"),
    ("cyan", "00ffff"), ("magenta", "ff00ff"), ("black", "000000"), ("white", "ffffff"),
    ("gray", "808080"), ("grey", "808080"), ("lightblue", "add8e6"), ("lightcyan", "e0ffff"),
    ("lightgreen", "90ee90"), ("lightgrey", "d3d3d3"), ("lightpink", "ffb6c1"),
    ("lightyellow", "ffffe0"), ("orange", "ffa500"), ("pink", "ffc0cb"), ("purple", "800080"),
    ("violet", "ee82ee"), ("brown", "a52a2a") ]

def ofDigits (cs : List Char) : Option Rgb := do
  match ← cs.mapM Text.hexValue? with
  | [a, b, c, d, e, f] => some ⟨16 * a + b, 16 * c + d, 16 * e + f⟩
  | _ => none

/-- The digits of a text that may have a hash in front. -/
def dropHash : List Char → List Char
  | '#' :: cs => cs
  | cs => cs

def rgb? (colour : String) : Option Rgb :=
  let key := (Text.trim colour.toList).map Text.lowerAscii
  let digits := (named.find? fun e => e.1.toList = key).map fun e => e.2.toList
  ofDigits (digits.getD (dropHash key))

/-- The brightness of a colour without components. -/
def neutral : Float := 128.0

/-- The brightness of a colour, from zero to 255: the weighted sum of its components, in
thousandths, divided once. -/
def brightness (colour : String) : Float :=
  match rgb? colour with
  | some c => Float.ofNat (c.red * 299 + c.green * 587 + c.blue * 114) / 1000.0
  | none => neutral

def textOn (colour : String) : String :=
  if neutral < brightness colour then "#000000" else "#FFFFFF"

end GridSketch.Colour
