import GridSketch.Json.Basic
import GridSketch.Number.Order

/-!
# When two values are the same

Two values are the same if they stand for the same thing: numbers are told apart by what they are
worth and not by their kind, so that `1`, `1.0` and `true` are one number; texts by their
characters; lists by their items in order; objects by their members in any order. What is not a
number is the same as itself and as nothing else. Names are looked up by sameness.

A value is turned into a list of marks, which two values share exactly when they are the same. So
sameness is an equivalence, and on texts and on integers it is equality.

Two values are *equal* (`equals`) if they are the same and are numbers where they are doubles: what
is not a number is equal to nothing, not even to itself, although a list that holds it may be. On
everything else the two relations agree (`equals_eq_beq`).
-/

set_option autoImplicit false

namespace GridSketch.Json

/-- The number that a value is, or counts as: truth values count as zero and one. -/
def number? : Json → Option Number
  | .bool b => some (.int b.toNat)
  | .num n => some n
  | _ => none

/-- What a value is told by. Lists and objects are announced with their lengths; what is not a
number is worth nothing. -/
inductive Mark where
  | nothing
  | number (w : Option Worth)
  | text (s : String)
  | list (count : Nat)
  | object (count : Nat)
  deriving DecidableEq

/-- The marks of members in ascending order of their names. -/
def marksInOrder (ms : List (String × List Mark)) : List Mark :=
  (ms.mergeSort fun a b => a.1 ≤ b.1).flatMap fun m => .text m.1 :: m.2

mutual

def marksOf : Json → List Mark
  | .null => [.nothing]
  | .bool b => [.number (some (.exact b.toNat))]
  | .num n => [.number n.worth?]
  | .str s => [.text s]
  | .arr xs => .list xs.length :: marksOfItems xs
  | .obj ms => .object ms.length :: marksInOrder (marksOfMembers ms)
termination_by structural j => j

/-- The marks of the items of a list, one after the other. -/
def marksOfItems : List Json → List Mark
  | [] => []
  | x :: xs => marksOf x ++ marksOfItems xs
termination_by structural xs => xs

/-- The names of members with the marks of what they hold. -/
def marksOfMembers : List (String × Json) → List (String × List Mark)
  | [] => []
  | m :: ms => marksOfMember m :: marksOfMembers ms
termination_by structural ms => ms

/-- The name of a member with the marks of what it holds. -/
def marksOfMember : String × Json → String × List Mark
  | (k, v) => (k, marksOf v)
termination_by structural m => m

end

instance : BEq Json where
  beq a b := decide (a.marksOf = b.marksOf)

theorem beq_iff {a b : Json} : a == b ↔ a.marksOf = b.marksOf := by
  simp [BEq.beq]

instance : EquivBEq Json where
  rfl := beq_iff.mpr rfl
  symm h := beq_iff.mpr (beq_iff.mp h).symm
  trans h h' := beq_iff.mpr ((beq_iff.mp h).trans (beq_iff.mp h'))

@[simp] theorem str_beq_str (s t : String) : (Json.str s == Json.str t) = (s == t) := by
  rw [Bool.eq_iff_iff, beq_iff]
  simp [marksOf]

@[simp] theorem int_beq_int (m n : Int) :
    (Json.num (.int m) == Json.num (.int n)) = (m == n) := by
  have h : marksOf (.num (.int m)) = marksOf (.num (.int n)) ↔ m = n :=
    ⟨fun e => Rat.intCast_inj.mp (by simpa [marksOf] using e), fun e => e ▸ rfl⟩
  rw [Bool.eq_iff_iff, beq_iff, h]
  simp

@[simp] theorem null_beq_str (s : String) : (Json.null == Json.str s) = false := by
  rw [Bool.eq_false_iff, ne_eq, beq_iff]
  simp [marksOf]

theorem true_beq_one : (Json.bool true == Json.num (.int 1)) = true := by
  rw [beq_iff]
  simp [marksOf]

/-! ## Equality -/

/-- Whether a value is a double that is not a number. -/
def isNaN (j : Json) : Bool :=
  decide (j.marksOf = [.number none])

def equals (a b : Json) : Bool :=
  a == b && !a.isNaN

theorem beq_of_equals {a b : Json} (h : a.equals b) : a == b := by
  rw [equals, Bool.and_eq_true] at h
  exact h.1

theorem equals_of_isNaN {a : Json} (h : a.isNaN) (b : Json) : a.equals b = false := by
  simp [equals, h]

/-- Everything but what is not a number is equal to what it is the same as. -/
theorem equals_eq_beq {a : Json} (h : a.isNaN = false) (b : Json) : a.equals b = (a == b) := by
  simp [equals, h]

theorem isNaN_congr {a b : Json} (h : a == b) : a.isNaN = b.isNaN := by
  rw [isNaN, isNaN, beq_iff.mp h]

theorem equals_comm (a b : Json) : a.equals b = b.equals a := by
  rw [equals, equals, BEq.comm]
  cases h : b == a with
  | true => rw [isNaN_congr h]
  | false => rfl

theorem equals_congr_left {a b : Json} (h : a == b) (c : Json) : a.equals c = b.equals c := by
  rw [equals, equals, BEq.congr_left h, isNaN_congr h]

theorem equals_congr_right {b c : Json} (h : b == c) (a : Json) : a.equals b = a.equals c := by
  rw [equals, equals, BEq.congr_right h]

@[simp] theorem isNaN_str (s : String) : (Json.str s).isNaN = false := by
  simp [isNaN, marksOf]

@[simp] theorem isNaN_int (n : Int) : (Json.num (.int n)).isNaN = false := by
  simp [isNaN, marksOf]

@[simp] theorem isNaN_null : Json.null.isNaN = false := by
  simp [isNaN, marksOf]

@[simp] theorem str_equals (s : String) (j : Json) : (Json.str s).equals j = (.str s == j) :=
  equals_eq_beq (isNaN_str s) j

@[simp] theorem equals_str (j : Json) (s : String) : j.equals (.str s) = (j == .str s) := by
  rw [equals_comm, str_equals, BEq.comm]

/-- What is equal to an integer is the same as it. -/
@[simp] theorem equals_int (j : Json) (n : Int) :
    j.equals (.num (.int n)) = (j == .num (.int n)) := by
  rw [equals_comm, equals_eq_beq (isNaN_int n), BEq.comm]

end GridSketch.Json
