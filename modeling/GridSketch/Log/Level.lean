import GridSketch.Fault
import GridSketch.Text.Blank
import GridSketch.Text.Case

/-!
# Levels of the log

A level is an integer, the higher the more serious; some have names. The level at the start can be
named in the environment, in letters of either case and with white space around it. A name that is
not known changes nothing, and a number is no name. A level that is given otherwise is checked more
strictly (`Setting.ofValue`).
-/

set_option autoImplicit false

namespace GridSketch.Log

/-- How serious a message is, and how serious it must be to be kept. -/
abbrev Level := Int

/-- The levels that have names, in ascending order. -/
def debug : Level := 10
def info : Level := 20
def warning : Level := 30
def error : Level := 40
def critical : Level := 50

def unset : Level := 0

/-- The levels by name; two of them have two names. -/
def named : List (String × Level) :=
  [ ("CRITICAL", critical), ("FATAL", critical), ("ERROR", error), ("WARNING", warning),
    ("WARN", warning), ("INFO", info), ("DEBUG", debug), ("NOTSET", unset) ]

/-- A level as a log or a handler was given it. A truth value stays what it is and counts as zero
or one. -/
inductive Setting where
  | int (level : Level)
  | truth (b : Bool)
  deriving DecidableEq, Repr

namespace Setting

def level : Setting → Level
  | .int l => l
  | .truth b => b.toNat

/-- The setting that a value is: an integer, a truth value, or one of the names as they are written
here. -/
def ofValue : Json → Except Fault Setting
  | .num (.int n) => .ok (.int n)
  | .bool b => .ok (.truth b)
  | .str s =>
    match Keyed.find? s named with
    | some level => .ok (.int level)
    | none => .error (.unknownLevel s)
  | j => .error (.unfit (.level j))

end Setting

def levelOfName? (name : String) : Option Level :=
  let key := (Text.trim name.toList).map Text.upperAscii
  (named.find? fun e => e.1.toList = key).map Prod.snd

/-- The level that the environment asks for, if it names one. -/
def levelFrom? (setting : Option String) : Option Level :=
  setting.bind levelOfName?

end GridSketch.Log
