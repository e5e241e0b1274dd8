import GridSketch.Fault

/-!
# Fields

What a form or a caller hands over is a value of any kind. A field that wants a number takes what
the value stands for (`Json.toInt`, `Json.toFloat`), and what stands for none is a fault. A field
that wants a text takes a text alone; where the text is typed into a form, a bare value is an empty
text too.
-/

set_option autoImplicit false

namespace GridSketch.Json

def asInt (j : Json) : Except Fault Int :=
  j.toInt.mapError .misfit

def asFloat (j : Json) : Except Fault Float :=
  j.toFloat.mapError .misfit

@[simp] theorem asInt_int (n : Int) : (Json.num (.int n)).asInt = .ok n :=
  rfl

@[simp] theorem asFloat_float (x : Float) : (Json.num (.float x)).asFloat = .ok x :=
  rfl

/-- The text in a field that is asked for a member of texts, such as the one that trims them. -/
def typedFor (member : String) (j : Json) : Except Fault String :=
  match j with
  | .str s => .ok s
  | _ => if j.isBare then .ok "" else .error (.noMember j.kindName member)

def typed (j : Json) : Except Fault String :=
  j.typedFor "strip"

/-- The text in a field that is taken apart into lines. -/
def typedLines (j : Json) : Except Fault String :=
  j.typedFor "split"

@[simp] theorem typedFor_str (member s : String) : (Json.str s).typedFor member = .ok s :=
  rfl

/-- The text that a cell or a name is looked for in. -/
def asSubject : Json → Except Fault String
  | .str s => .ok s
  | j => .error (.unfit (.subject j.kindName))

/-- Sees to it that a value can be looked up by: a list or an object never is. -/
def checkKey : Json → Except Fault Unit
  | .arr xs => .error (.unfit (.key (arr xs).kindName))
  | .obj ms => .error (.unfit (.key (obj ms).kindName))
  | _ => .ok ()

def asPath (j : Json) : Except Fault (Option String) :=
  match j with
  | .str s => .ok (if s = "" then none else some s)
  | _ => if j.isBare then .ok none else .error (.unfit (.path j.kindName))

/-- The setting of the environment in a field. Nothing leaves it unset. -/
def asSetting : Json → Except Fault (Option String)
  | .null => .ok none
  | .str s => if '\x00' ∈ s.toList then .error .zeroInName else .ok (some s)
  | j => .error (.unfit (.setting j.kindName))

@[simp] theorem asSubject_str (s : String) : (Json.str s).asSubject = .ok s :=
  rfl

@[simp] theorem checkKey_str (s : String) : (Json.str s).checkKey = .ok () :=
  rfl

end GridSketch.Json
