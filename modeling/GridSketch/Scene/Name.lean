import GridSketch.Field
import GridSketch.Text.Blank

/-!
# Matrix names

A name is one or more ASCII letters, digits and underscores, and none of a few reserved words. A
line feed at the very end of a name is let through; names that are typed into a form or a command
are trimmed first, so none of theirs ends in one.

A name in a loaded document may be any text, and a matrix can be put under a value that is no text.
So the two rules are separate: `checkReserved` guards every change of a drawing's matrices,
`validate` what is typed.
-/

set_option autoImplicit false

namespace GridSketch.Name

def reserved : List String :=
  ["+", "-", "*", "^", "Det", "Tr", "="]

def isNameChar (c : Char) : Bool :=
  ('A' ≤ c && c ≤ 'Z') || ('a' ≤ c && c ≤ 'z') || ('0' ≤ c && c ≤ '9') || c = '_'

def body (cs : List Char) : List Char :=
  if cs.getLast? = some '\n' then cs.dropLast else cs

/-- Whether a name is spelled with the characters of names. -/
def wellSpelled (name : String) : Bool :=
  let cs := body name.toList
  !cs.isEmpty && cs.all isNameChar

/-- Refuses the reserved words, and what nothing can be looked up by. -/
def checkReserved (name : Json) : Except Fault Unit := do
  name.checkKey
  match name with
  | .str s => if s ∈ reserved then throw (.reservedName s) else pure ()
  | _ => pure ()

/-- Refuses the reserved words first, and then what is not spelled like a name. -/
def validate (name : Json) : Except Fault String := do
  checkReserved name
  let s ← name.asSubject
  if wellSpelled s then pure s else throw (.malformedName s)

def clean (field : Json) : Except Fault String := do
  let name := Text.trimmed (← field.typed)
  if name = "" then throw .emptyName else validate (.str name)

theorem checkReserved_str (s : String) :
    checkReserved (.str s) = if s ∈ reserved then .error (.reservedName s) else .ok () :=
  rfl

end GridSketch.Name
