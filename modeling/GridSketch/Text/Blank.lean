/-!
# White space

Names, colours and command lines are trimmed before they are read, and the command language skips
white space between its tokens. Both use one class of characters, `isBlank`: the Unicode white
space together with the four separators U+001C to U+001F.

Text that is converted to a number on import is trimmed by a narrower class, `isPadding`, which
leaves those four separators out. The two are kept apart here because the difference shows: a
separator around a typed number is dropped, around an imported numeral it makes the numeral
unreadable.
-/

set_option autoImplicit false

namespace GridSketch.Text

def isWideBlank (c : Char) : Bool :=
  let n := c.toNat
  n == 0x85 || n == 0xA0 || n == 0x1680 || (0x2000 ≤ n && n ≤ 0x200A) ||
    n == 0x2028 || n == 0x2029 || n == 0x202F || n == 0x205F || n == 0x3000

/-- White space around numerals: tab to carriage return, the space, and all wide blanks. -/
def isPadding (c : Char) : Bool :=
  let n := c.toNat
  (9 ≤ n && n ≤ 13) || n == 32 || isWideBlank c

/-- White space in typed text: the padding and the separators U+001C to U+001F. -/
def isBlank (c : Char) : Bool :=
  isPadding c || (28 ≤ c.toNat && c.toNat ≤ 31)

def dropEnd (p : Char → Bool) (cs : List Char) : List Char :=
  (cs.reverse.dropWhile p).reverse

/-- Drops the characters of a class from both ends. -/
def strip (p : Char → Bool) (cs : List Char) : List Char :=
  dropEnd p (cs.dropWhile p)

theorem getLast?_dropEnd {p : Char → Bool} {cs : List Char} {c : Char}
    (h : (dropEnd p cs).getLast? = some c) : p c = false := by
  rw [dropEnd, List.getLast?_reverse] at h
  have hd := List.head?_dropWhile_not p cs.reverse
  rw [h] at hd
  simpa using hd

theorem strip_of_all {p : Char → Bool} {cs : List Char} (h : ∀ c ∈ cs, p c) : strip p cs = [] := by
  have hd : cs.dropWhile p = [] := by
    induction cs with
    | nil => rfl
    | cons c cs ih =>
      rw [List.dropWhile_cons_of_pos (h c List.mem_cons_self)]
      exact ih fun d hd => h d (List.mem_cons_of_mem c hd)
  rw [strip, hd]
  rfl

def trim (cs : List Char) : List Char :=
  strip isBlank cs

/-- `trim` on strings. -/
def trimmed (s : String) : String :=
  String.ofList (trim s.toList)

/-- What is left when leading white space is skipped. -/
def skipBlanks (cs : List Char) : List Char :=
  cs.dropWhile isBlank

end GridSketch.Text
