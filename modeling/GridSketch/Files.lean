import GridSketch.Fault
import GridSketch.Keyed

/-!
# Files

A path is followed part by part, from the working folder or from the root. There are no folders
besides those a path can reach by `.` and `..`: what has a name is a file, or is not there. So a
path that goes on behind a name is trouble, and so is one that ends in a folder. A file that is
opened for writing need not be there yet.

A path is followed as it is written (`openForReading`, `openForWriting`) unless it was tidied
before (`tidied`), which takes a name and the `..` behind it away without looking whether the name
is there.
-/

set_option autoImplicit false

namespace GridSketch.Files

/-- The longest part of a path, and the longest path, in bytes. -/
def maxPart : Nat := 255
def maxPath : Nat := 4095

def parts (path : String) : List String :=
  ((path.toList.splitOn '/').filter fun part => !part.isEmpty).map String.ofList

def isRooted (path : String) : Bool :=
  path.toList.head? = some '/'

/-- Whether a path says itself that it leads to a folder. -/
def isOpenEnded (path : String) : Bool :=
  path.toList.getLast? = some '/'

def baseName (path : String) : String :=
  String.ofList ((path.toList.splitOn '/').getLast?.getD [])

/-- Where a path leads: to a folder, or to what has a name, which is there or not. Names outside the
working folder have the way there in front. -/
inductive Place where
  | folder
  | name (s : String)
  deriving DecidableEq, Repr

/-- The way to the folder above another, from the working folder; none is above the root. -/
def above (folder : String) : String :=
  if folder = "/" then folder else "../" ++ folder

def follow (has : String → Bool) (folder : String) : List String → Except FileTrouble Place
  | [] => .ok .folder
  | part :: rest =>
    if part = "." then follow has folder rest
    else if part = ".." then follow has (above folder) rest
    else if maxPart < part.utf8ByteSize then .error .nameTooLong
    else if rest.isEmpty then .ok (.name (folder ++ part))
    else if has (folder ++ part) then .error .notFolder
    else .error .missing

def locate (has : String → Bool) (path : String) : Except Fault Place :=
  if '\x00' ∈ path.toList then .error .zeroInName
  else if path = "" then .error (.file .missing)
  else if maxPath < path.utf8ByteSize then .error (.file .nameTooLong)
  else (follow has (if isRooted path then "/" else "") (parts path)).mapError .file

/-- The name of the file that a path opens for reading, which must be there. -/
def openForReading (has : String → Bool) (path : String) : Except Fault String := do
  match ← locate has path with
  | .folder => throw (.file .isFolder)
  | .name s =>
    if !has s then throw (.file .missing)
    else if isOpenEnded path then throw (.file .notFolder)
    else pure s

/-- The name of the file that a path opens for writing. -/
def openForWriting (has : String → Bool) (path : String) : Except Fault String := do
  match ← locate has path with
  | .folder => throw (.file .isFolder)
  | .name s => if isOpenEnded path then throw (.file .isFolder) else pure s

/-- Takes away what a path passes through only to leave it again. The parts before are given in
reverse. -/
def tidyParts (rooted : Bool) (done : List String) : List String → List String
  | [] => done.reverse
  | part :: rest =>
    if part = "." then tidyParts rooted done rest
    else if part = ".." then
      match done with
      | [] => tidyParts rooted (if rooted then [] else [part]) rest
      | last :: before =>
        if last = ".." then tidyParts rooted (part :: done) rest
        else tidyParts rooted before rest
    else tidyParts rooted (part :: done) rest

/-- The shortest way to write a path; of an empty one the working folder is left. -/
def tidied (path : String) : String :=
  let rooted := isRooted path
  match tidyParts rooted [] (parts path) with
  | [] => if rooted then "/" else "."
  | ps => (if rooted then "/" else "") ++ "/".intercalate ps

/-! ## Plain names -/

/-- A name that is a path by itself, to a file in the working folder. -/
structure IsPlain (name : String) : Prop where
  ne_empty : name ≠ ""
  ne_here : name ≠ "."
  ne_above : name ≠ ".."
  no_stroke : '/' ∉ name.toList
  no_zero : '\x00' ∉ name.toList
  short : name.utf8ByteSize ≤ maxPart

theorem parts_plain {name : String} (h : IsPlain name) : parts name = [name] := by
  have hn : name.toList ≠ [] := fun e => h.ne_empty (String.toList_eq_nil_iff.mp e)
  simp [parts, List.splitOn_eq_singleton h.no_stroke, hn]

theorem isRooted_plain {name : String} (h : IsPlain name) : isRooted name = false := by
  simpa [isRooted] using fun e => h.no_stroke (List.mem_of_head? e)

theorem locate_plain {has : String → Bool} {name : String} (h : IsPlain name) :
    locate has name = .ok (.name name) := by
  have hl : ¬ maxPath < name.utf8ByteSize := by
    have := h.short
    unfold maxPart at this
    unfold maxPath
    omega
  have hok : Except.mapError Fault.file (.ok (.name name)) = .ok (Place.name name) := rfl
  simp [locate, parts_plain h, follow, isRooted_plain h, hl, h.no_zero, h.ne_empty, h.ne_here,
    h.ne_above, Nat.not_lt.mpr h.short, hok]

theorem tidied_plain {name : String} (h : IsPlain name) : tidied name = name := by
  simp [tidied, tidyParts, parts_plain h, isRooted_plain h, h.ne_here, h.ne_above]

theorem isOpenEnded_plain {name : String} (h : IsPlain name) : isOpenEnded name = false := by
  simpa [isOpenEnded] using fun e => h.no_stroke (List.mem_of_getLast? e)

/-- A plain name opens the file of that name for reading, if it is there. -/
theorem openForReading_plain {has : String → Bool} {name : String} (h : IsPlain name) :
    openForReading has name = if has name then .ok name else .error (.file .missing) := by
  cases hh : has name <;>
    simp [openForReading, locate_plain h, isOpenEnded_plain h, hh, bind, Except.bind, pure,
      Except.pure, throw, throwThe, MonadExceptOf.throw]

/-- A plain name opens the file of that name for writing, whether it is there or not. -/
theorem openForWriting_plain {has : String → Bool} {name : String} (h : IsPlain name) :
    openForWriting has name = .ok name := by
  simp [openForWriting, locate_plain h, isOpenEnded_plain h, bind, Except.bind, pure, Except.pure]

end GridSketch.Files
