import GridSketch.Json.Basic

/-!
# Grids of values

A grid is a list of rows. The rows of a grid that this library makes have one length; those of a
loaded document may differ, and its declared size may differ from both. So a cell is looked up in
the rows, and a cell that is not there has no value.
-/

set_option autoImplicit false

namespace GridSketch

abbrev Grid := List (List Json)

/-- The item at an index, counted from the end where the index is negative: minus one is the
last. -/
def fromEitherEnd? {α : Type} (xs : List α) (i : Int) : Option α :=
  if 0 ≤ i then xs[i.toNat]?
  else if 0 ≤ i + xs.length then xs[(i + xs.length).toNat]?
  else none

@[simp] theorem fromEitherEnd?_ofNat {α : Type} (xs : List α) (n : Nat) :
    fromEitherEnd? xs n = xs[n]? := by
  simp [fromEitherEnd?]

theorem fromEitherEnd?_neg_one {α : Type} (xs : List α) :
    fromEitherEnd? xs (-1) = xs.getLast? := by
  cases xs with
  | nil => rfl
  | cons x xs =>
    have h : (0 : Int) ≤ -1 + (x :: xs).length := by
      rw [List.length_cons]
      omega
    have hn : (-1 + ((x :: xs).length : Int)).toNat = (x :: xs).length - 1 := by
      rw [List.length_cons]
      omega
    rw [fromEitherEnd?, if_neg (by decide), if_pos h, hn, List.getLast?_eq_getElem?]

namespace Grid

/-- The value of a cell; negative indices count from the end. -/
def value? (g : Grid) (row col : Int) : Option Json := do
  let r ← fromEitherEnd? g row
  fromEitherEnd? r col

/-- The grid with one cell changed. Where the grid has no such cell it stays as it is; here a
negative index denotes no cell. -/
def set (g : Grid) (row col : Int) (v : Json) : Grid :=
  if 0 ≤ row ∧ 0 ≤ col then g.modify row.toNat fun r => r.set col.toNat v else g

def ofInts (rows : List (List Int)) : Grid :=
  rows.map fun r => r.map fun n => .num (.int n)

end Grid

/-- The ways to fill a new grid other than by chance. -/
inductive Filling where
  | sequential
  | identity
  | zeros
  | ones
  | upper
  | lower
  | diagonal
  deriving DecidableEq, Repr

namespace Filling

def all : List Filling :=
  [.sequential, .identity, .zeros, .ones, .upper, .lower, .diagonal]

def name : Filling → String
  | .sequential => "sequential"
  | .identity => "identity"
  | .zeros => "zeros"
  | .ones => "ones"
  | .upper => "upper"
  | .lower => "lower"
  | .diagonal => "diagonal"

def ofName? (s : String) : Option Filling :=
  all.find? fun f => f.name = s

/-- What a grid of this filling is called in a message. -/
def adjective : Filling → String
  | .upper => "upper triangular"
  | .lower => "lower triangular"
  | f => f.name

def squareOnly : Filling → Bool
  | .identity | .upper | .lower | .diagonal => true
  | .sequential | .zeros | .ones => false

end Filling

end GridSketch
