import GridSketch.Text.Hex
import GridSketch.Text.Printable

/-!
# Quoted text

Error messages show a text they did not understand between quotes. Apostrophes are the quotes,
unless the text holds an apostrophe and no double quote; then double quotes are. Inside, the quote
in use and the backslash are escaped by a backslash, line feed, tab and carriage return by their
letters, and a character that cannot be shown by its code point in two, four or eight hexadecimal
digits, whichever is the least that holds it.
-/

set_option autoImplicit false

namespace GridSketch.Text

def escapeCode (n : Nat) : List Char :=
  if n < 0x100 then '\\' :: 'x' :: hex 2 n
  else if n < 0x10000 then '\\' :: 'u' :: hex 4 n
  else '\\' :: 'U' :: hex 8 n

/-- A character as it stands between the given quotes. -/
def quoteChar (mark c : Char) : List Char :=
  if c = mark ∨ c = '\\' then ['\\', c]
  else if c = '\n' then ['\\', 'n']
  else if c = '\t' then ['\\', 't']
  else if c = '\r' then ['\\', 'r']
  else if isPrintable c then [c]
  else escapeCode c.toNat

def quoteMark (cs : List Char) : Char :=
  if cs.contains '\'' ∧ ¬ cs.contains '"' then '"' else '\''

def quote (s : String) : String :=
  let cs := s.toList
  let mark := quoteMark cs
  String.ofList (mark :: cs.flatMap (quoteChar mark) ++ [mark])

end GridSketch.Text
