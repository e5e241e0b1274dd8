/-!
# Letter case against ASCII words

Colours, the word `none` and the names of log levels are compared with ASCII words without regard
to case. A text equals an ASCII word after its letters are lowered exactly when each of its
characters lowers to the word's letter, and of all characters outside ASCII only the Kelvin sign
lowers to a single ASCII letter; the capital I with a dot lowers to two characters of which one is
no ASCII letter. In the other direction the dotless i and the long s are the only ones that have
an ASCII capital of their own; the ligatures and the sharp s have several, which no level's name
holds side by side. So two short tables answer every such comparison.
-/

set_option autoImplicit false

namespace GridSketch.Text

/-- The lower case of a character where that is an ASCII letter, and the character otherwise. -/
def lowerAscii (c : Char) : Char :=
  if 'A' ≤ c ∧ c ≤ 'Z' then Char.ofNat (c.toNat + 32)
  else if c = '\u212a' then 'k'
  else c

/-- The upper case of a character where that is an ASCII letter, and the character otherwise. -/
def upperAscii (c : Char) : Char :=
  if 'a' ≤ c ∧ c ≤ 'z' then Char.ofNat (c.toNat - 32)
  else if c = '\u0131' then 'I'
  else if c = '\u017f' then 'S'
  else c

end GridSketch.Text
