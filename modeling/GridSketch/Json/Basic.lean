import GridSketch.Keyed
import GridSketch.Number
import GridSketch.Text.Digit
import GridSketch.Text.Quoted

/-!
# JSON values

Scenes are saved as JSON, and a loaded scene keeps in its cells whatever value the document had
there. So the values are part of the drawing and not only of its file. An object is a list of its
members in order; whoever builds one takes care that no name occurs twice (`Keyed.put`).

A value is *shown* inside messages: a text as itself where it is the whole of what is shown, and
everything else, texts inside lists and objects included, in quoted form. A value with an integer in
it that is too long to be printed has no form to be shown in (`Json.isPrintable`).
-/

set_option autoImplicit false

namespace GridSketch

/-- A JSON value. Integers and doubles are told apart, and the members of an object are in
order. -/
inductive Json where
  | null
  | bool (b : Bool)
  | num (n : Number)
  | str (s : String)
  | arr (items : List Json)
  | obj (members : List (String × Json))

namespace Json

def member? (key : String) : Json → Option Json
  | .obj ms => Keyed.find? key ms
  | _ => none

/-- What the kind of a value is called in messages. -/
def kindName : Json → String
  | .null => "NoneType"
  | .bool _ => "bool"
  | .num (.int _) => "int"
  | .num (.float _) => "float"
  | .str _ => "str"
  | .arr _ => "list"
  | .obj _ => "dict"

def isNull : Json → Bool
  | .null => true
  | _ => false

def text? : Json → Option String
  | .str s => some s
  | _ => none

def isText (s : String) : Json → Bool
  | .str t => t = s
  | _ => false

/-- Whether a value counts as absent where a default would do instead: nothing, false, zero, an
empty text, an empty list and an empty object do. -/
def isBare : Json → Bool
  | .null => true
  | .bool b => !b
  | .num n => n.isZero
  | .str s => s == ""
  | .arr xs => xs.isEmpty
  | .obj ms => ms.isEmpty

mutual

def quoted : Json → String
  | .null => "None"
  | .bool true => "True"
  | .bool false => "False"
  | .num n => n.text
  | .str s => Text.quote s
  | .arr xs => "[" ++ quotedItems xs ++ "]"
  | .obj ms => "\x7b" ++ quotedMembers ms ++ "\x7d"
termination_by structural j => j

/-- Values in quoted form with commas between them. -/
def quotedItems : List Json → String
  | [] => ""
  | [x] => quoted x
  | x :: y :: rest => quoted x ++ ", " ++ quotedItems (y :: rest)
termination_by structural xs => xs

/-- Members in quoted form with commas between them. -/
def quotedMembers : List (String × Json) → String
  | [] => ""
  | [m] => quotedMember m
  | m :: n :: rest => quotedMember m ++ ", " ++ quotedMembers (n :: rest)
termination_by structural ms => ms

def quotedMember : String × Json → String
  | (k, v) => Text.quote k ++ ": " ++ quoted v
termination_by structural m => m

end

mutual

/-- Whether a value can be printed: no integer in it is too long. -/
def isPrintable : Json → Bool
  | .num (.int n) => Text.withinDigitLimit n
  | .arr xs => arePrintable xs
  | .obj ms => membersPrintable ms
  | .null | .bool _ | .num (.float _) | .str _ => true
termination_by structural j => j

def arePrintable : List Json → Bool
  | [] => true
  | x :: rest => isPrintable x && arePrintable rest
termination_by structural xs => xs

def membersPrintable : List (String × Json) → Bool
  | [] => true
  | m :: rest => memberPrintable m && membersPrintable rest
termination_by structural ms => ms

def memberPrintable : String × Json → Bool
  | (_, v) => isPrintable v
termination_by structural m => m

end

@[simp] theorem isPrintable_str (s : String) : isPrintable (.str s) = true :=
  rfl

@[simp] theorem isPrintable_int (n : Int) : isPrintable (.num (.int n)) = Text.withinDigitLimit n :=
  rfl

@[simp] theorem isPrintable_float (x : Float) : isPrintable (.num (.float x)) = true :=
  rfl

def shown : Json → String
  | .str s => s
  | j => j.quoted

def quotedOption : Option Json → String
  | some j => j.quoted
  | none => quoted .null

/-- A member as it is shown; one that is missing is shown as nothing is. -/
def shownOption : Option Json → String
  | some j => j.shown
  | none => shown .null

end Json

end GridSketch
