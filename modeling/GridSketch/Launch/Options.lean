import GridSketch.Text.Digit

/-!
# The command line

The program takes two options and the name of a scene file. An option may be shortened as long as
no other begins the same way, and its value may follow it or be attached by `=`. What looks like a
negative number, holds a space or stands after a lone `--` is no option.

The words are first told apart, all of them (`Token`); an option that could be more than one is
refused there. Then they are taken from left to right. Help is given as soon as it is asked for;
words that are left over are refused at the end.
-/

set_option autoImplicit false

namespace GridSketch.Launch

/-- What was given for the file of the log. -/
inductive LogFile where
  | absent
  /-- A lone divider was attached to the option; it is dropped as any first divider is, and nothing
  is left. -/
  | nothing
  | path (s : String)
  deriving DecidableEq, Repr

namespace LogFile

def path? : LogFile → Option String
  | .path s => some s
  | .absent | .nothing => none

/-- What is given by a value that is attached to the option. -/
def ofAttached (value : String) : LogFile :=
  if value = "--" then .nothing else .path value

end LogFile

/-- What the command line asks for. -/
structure Options where
  debug : Bool := false
  logFile : LogFile := .absent
  file : Option String := none
  deriving DecidableEq, Repr

/-- What became of a command line. -/
inductive Parsed where
  | options (o : Options)
  | help
  | refused
  deriving DecidableEq, Repr

/-- The exit code of a program that ends with its command line. -/
def Parsed.exitCode? : Parsed → Option Nat
  | .options _ => none
  | .help => some 0
  | .refused => some 2

/-- The options there are. -/
inductive Flag where
  | help
  | debug
  | logFile
  deriving DecidableEq, Repr

def Flag.long : Flag → String
  | .help => "--help"
  | .debug => "--debug"
  | .logFile => "--log-file"

/-- The options in the order in which the help lists them. -/
def Flag.all : List Flag :=
  [.help, .debug, .logFile]

def helpLetter : List Char := ['-', 'h']

def spelled? (cs : List Char) : Option Flag :=
  if cs = helpLetter then some .help else Flag.all.find? fun f => f.long.toList = cs

/-- A word of the command line. -/
inductive Token where
  /-- A word that is no option. -/
  | operand (s : String)
  /-- The first lone `--`. -/
  | divider
  /-- An option, with the value attached to it by `=`. -/
  | flag (f : Flag) (value : Option String)
  /-- The letter for help with what is attached to it, by `=` or directly. -/
  | letters (tail : List Char)
  /-- What looks like an option and is none. -/
  | unknown
  deriving DecidableEq, Repr

/-- What stands before the first `=` and, if there is one, what stands after it. -/
def splitValue (cs : List Char) : List Char × Option String :=
  match cs.dropWhile (· ≠ '=') with
  | [] => (cs, none)
  | _ :: value => (cs.takeWhile (· ≠ '='), some (String.ofList value))

/-- Whether a text is a number after its minus: digits, with a point and digits after them or not.
A line feed at the end is let through. -/
def isNumeral (cs : List Char) : Bool :=
  let cs := if cs.getLast? = some '\n' then cs.dropLast else cs
  match Text.takeDigits cs with
  | (whole, []) => !whole.isEmpty
  | (_, '.' :: places) => !places.isEmpty && places.all Text.isDigit
  | _ => false

/-- A word that starts with a hyphen and is no option as it is spelled. -/
def readLoose (word : String) (tail : List Char) : Except Unit Token :=
  let rest : Token :=
    if isNumeral tail ∨ ' ' ∈ tail then .operand word else .unknown
  match tail with
  | '-' :: _ =>
    let (start, value) := splitValue ('-' :: tail)
    match Flag.all.filter fun f => start.isPrefixOf f.long.toList with
    | [] => .ok rest
    | [f] => .ok (.flag f value)
    | _ => .error ()
  | 'h' :: letters => .ok (.letters letters)
  | _ => .ok rest

/-- What a word is that stands before any divider. -/
def readWord (word : String) : Except Unit Token :=
  match word.toList with
  | '-' :: tail =>
    if tail = [] then .ok (.operand word)
    else
      match splitValue ('-' :: tail) with
      | (_, none) =>
        match spelled? ('-' :: tail) with
        | some f => .ok (.flag f none)
        | none => readLoose word tail
      | (start, some value) =>
        match spelled? start with
        | some f =>
          .ok (if start = helpLetter then .letters value.toList else .flag f (some value))
        | none => readLoose word tail
  | _ => .ok (.operand word)

/-- What the words are. After the divider none is an option. -/
def readWords : List String → Except Unit (List Token)
  | [] => .ok []
  | word :: rest =>
    if word = "--" then .ok (.divider :: rest.map .operand)
    else do
      let token ← readWord word
      let tokens ← readWords rest
      pure (token :: tokens)

/-- Whether what is attached to the letter for help leaves it standing: its repetitions do, and
nothing else does, not even an empty value. -/
def lettersAllowed (tail : List Char) : Bool :=
  !tail.isEmpty && tail.all (· = 'h')

/-- Takes the words one after the other. `taken` says that the place of the file is taken, and
`surplus` that some word had no place. -/
def take (o : Options) (taken surplus : Bool) : List Token → Parsed
  | [] => if surplus then .refused else .options o
  | .operand s :: .divider :: rest =>
    if taken then .refused else take { o with file := some s } true surplus rest
  | .operand s :: rest =>
    if taken then take o taken true rest else take { o with file := some s } true surplus rest
  | .divider :: .operand s :: rest =>
    if taken then .refused else take { o with file := some s } true surplus rest
  | .divider :: rest => if taken then .refused else take o true surplus rest
  | .unknown :: rest => take o taken true rest
  | .letters tail :: _ => if lettersAllowed tail then .help else .refused
  | .flag .help none :: _ => .help
  | .flag .help (some _) :: _ => .refused
  | .flag .debug none :: rest => take { o with debug := true } taken surplus rest
  | .flag .debug (some _) :: _ => .refused
  | .flag .logFile (some v) :: rest => take { o with logFile := .ofAttached v } taken surplus rest
  | .flag .logFile none :: .operand v :: rest =>
    take { o with logFile := .path v } taken surplus rest
  | .flag .logFile none :: _ => .refused

def parse (args : List String) : Parsed :=
  match readWords args with
  | .ok tokens => take {} false false tokens
  | .error () => .refused

end GridSketch.Launch
