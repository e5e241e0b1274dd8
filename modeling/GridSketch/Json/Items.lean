import GridSketch.Fault
import GridSketch.Text.Search

/-!
# What a value holds

Lists, texts and objects hold items: a text its characters, and an object, gone through item by
item, the names of its members. A value of another kind holds none, and asking it is a fault.
-/

set_option autoImplicit false

namespace GridSketch.Json

def ofChar (c : Char) : Json :=
  .str (String.ofList [c])

/-- The items of a value, gone through one by one. -/
def items : Json → Except Fault (List Json)
  | .arr xs => .ok xs
  | .str s => .ok (s.toList.map ofChar)
  | .obj ms => .ok (ms.map fun m => .str m.1)
  | j => .error (.unfit (.items j.kindName))

def count : Json → Except Fault Nat
  | .arr xs => .ok xs.length
  | .str s => .ok s.toList.length
  | .obj ms => .ok ms.length
  | j => .error (.unfit (.length j.kindName))

/-- The item at an index of a value: of a list its items, of a text its characters. An object is
asked for members by their names, and no index is one. -/
def item (j : Json) (i : Nat) : Except Fault Json :=
  match j with
  | .arr xs =>
    match xs[i]? with
    | some x => .ok x
    | none => .error (.pastEnd j.kindName)
  | .str s =>
    match s.toList[i]? with
    | some c => .ok (ofChar c)
    | none => .error (.pastEnd "string")
  | .obj _ => .error (.noEntry i)
  | _ => .error (.unfit (.item j.kindName))

/-- Which marks a value holds: a text those that stand in it somewhere, a list those that are its
items, an object those that are names of its members. -/
def marks : Json → Except Fault (List Char → Bool)
  | .str s => .ok fun mark => Text.contains mark s.toList
  | .arr xs => .ok fun mark => xs.any (isText (String.ofList mark))
  | .obj ms => .ok fun mark => (Keyed.find? (String.ofList mark) ms).isSome
  | j => .error (.unfit (.line j.kindName))

@[simp] theorem items_arr (xs : List Json) : (Json.arr xs).items = .ok xs :=
  rfl

@[simp] theorem marks_str (s : String) :
    (Json.str s).marks = .ok fun mark => Text.contains mark s.toList :=
  rfl

end GridSketch.Json
