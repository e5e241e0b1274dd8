/-!
# Shapes

A shape is the sides of a list of lists, from the outermost to the innermost. Its places are
counted in the order in which one comes past them, along the innermost side first.

Two shapes meet if, matched from the innermost side outwards, each two sides are equal or one of
them is one. What has a side of one is repeated along it, and what has fewer sides is repeated as a
whole. `offset` leads back from a place, as far as that goes along sides that are not repeated.

The main statement is `offset_placeAt`: a shape's own places lead back to where they were counted.
-/

set_option autoImplicit false

namespace GridSketch

namespace Shape

/-- Sides in brackets, with a separator between them; a single one has a comma behind it. -/
def shownWith (separator : String) : List Nat → String
  | [n] => s!"({n},)"
  | ns => "(" ++ separator.intercalate (ns.map toString) ++ ")"

def sidesText : List Nat → String :=
  shownWith ", "

/-- Sides as they are shown where two shapes do not meet. -/
def narrowText : List Nat → String :=
  shownWith ","

def greatestCount : Nat := 64

/-- How many sides a shape may have where its places are gone through one by one. -/
def greatestWalk : Nat := 32

end Shape

/-- Why lists do not do for numbers in a shape. -/
inductive Misshape where
  /-- Below these sides the items are not of one length. -/
  | ragged (sides : List Nat)
  /-- Lists are nested beyond the greatest count of sides. -/
  | tooDeep
  /-- There are so many sides, too many to go through them. -/
  | tooManySides (count : Nat)
  /-- Two shapes do not meet. -/
  | apart (first second : List Nat)
  /-- Two of several shapes do not meet; each has its number among them. -/
  | clash (first : Nat) (sides : List Nat) (second : Nat) (others : List Nat)
  deriving DecidableEq, Repr

def Misshape.message : Misshape → String
  | .ragged sides =>
    "setting an array element with a sequence. The requested array has an inhomogeneous shape " ++
      s!"after {sides.length} dimensions. The detected shape was " ++ Shape.sidesText sides ++
      " + inhomogeneous part."
  | .tooDeep =>
    "setting an array element with a sequence. The requested array would exceed the maximum " ++
      s!"number of dimension of {Shape.greatestCount}."
  | .tooManySides count =>
    s!"this function only supports up to {Shape.greatestWalk} dimensions but the array has {count}."
  | .apart first second =>
    "operands could not be broadcast together with shapes " ++ Shape.narrowText first ++ " " ++
      Shape.narrowText second ++ " "
  | .clash first sides second others =>
    "shape mismatch: objects cannot be broadcast to a single shape.  Mismatch is between arg " ++
      s!"{first} with shape " ++ Shape.sidesText sides ++ s!" and arg {second} with shape " ++
      Shape.sidesText others ++ "."

namespace Shape

/-! ## Meeting -/

/-- The one of two sides that both can be brought to, if there is one. -/
def sideOf? (a b : Nat) : Option Nat :=
  if a = b ∨ b = 1 then some a else if a = 1 then some b else none

/-- Sides from the innermost outwards, brought together. -/
def meetInner? : List Nat → List Nat → Option (List Nat)
  | [], bs => some bs
  | as, [] => some as
  | a :: as, b :: bs =>
    match sideOf? a b, meetInner? as bs with
    | some c, some cs => some (c :: cs)
    | _, _ => none

/-- The sides that two shapes meet in, if they do. -/
def meet? (as bs : List Nat) : Option (List Nat) :=
  (meetInner? as.reverse bs.reverse).map List.reverse

@[simp] theorem nil_meet? (bs : List Nat) : meet? [] bs = some bs := by
  simp [meet?, meetInner?]

theorem meetInner?_self (as : List Nat) : meetInner? as as = some as := by
  induction as with
  | nil => rfl
  | cons a as ih => simp [meetInner?, sideOf?, ih]

theorem meet?_self (as : List Nat) : meet? as as = some as := by
  simp [meet?, meetInner?_self]

/-! ## Places -/

def volume : List Nat → Nat
  | [] => 1
  | n :: sides => n * volume sides

@[simp] theorem volume_nil : volume [] = 1 :=
  rfl

@[simp] theorem volume_cons (n : Nat) (sides : List Nat) :
    volume (n :: sides) = n * volume sides :=
  rfl

/-- The place that is counted at a number, as the indices that lead there. -/
def placeAt : List Nat → Nat → List Nat
  | [], _ => []
  | _ :: sides, k => k / volume sides :: placeAt sides (k % volume sides)

/-- The number that the item for a place is counted at, where sides of one are repeated. -/
def offset : List Nat → List Nat → Nat
  | n :: sides, i :: place => (if n = 1 then 0 else i) * volume sides + offset sides place
  | _, _ => 0

def places (sides : List Nat) : List (List Nat) :=
  (List.range (volume sides)).map (placeAt sides)

theorem length_placeAt (sides : List Nat) (k : Nat) :
    (placeAt sides k).length = sides.length := by
  induction sides generalizing k with
  | nil => rfl
  | cons n sides ih => simp [placeAt, ih]

/-- There are as many places as the sides multiply to. -/
theorem length_places (sides : List Nat) : (places sides).length = volume sides := by
  simp [places]

/-- The place of a cell in a grid is its row and its column. -/
theorem placeAt_cell {rows cols i j : Nat} (h : j < cols) :
    placeAt [rows, cols] (i * cols + j) = [i, j] := by
  have hd : (i * cols + j) / cols = i := by
    rw [Nat.mul_comm, Nat.mul_add_div (by omega), Nat.div_eq_of_lt h, Nat.add_zero]
  have hm : (i * cols + j) % cols = j := by
    rw [Nat.mul_comm, Nat.mul_add_mod, Nat.mod_eq_of_lt h]
  simp [placeAt, hd, hm]

/-- A place leads back to the number that it is counted at. -/
theorem offset_placeAt {sides : List Nat} {k : Nat} (h : k < volume sides) :
    offset sides (placeAt sides k) = k := by
  induction sides generalizing k with
  | nil =>
    have hk : k = 0 := by simpa using h
    simp [offset, hk]
  | cons n sides ih =>
    rw [volume_cons] at h
    have hp : 0 < volume sides := Nat.pos_of_ne_zero fun e => by simp [e] at h
    rw [placeAt, offset, ih (Nat.mod_lt k hp)]
    by_cases hn : n = 1
    · have hk : k < volume sides := by simpa [hn] using h
      simp [hn, Nat.mod_eq_of_lt hk]
    · rw [if_neg hn, Nat.mul_comm]
      exact Nat.div_add_mod k (volume sides)

end Shape

end GridSketch
