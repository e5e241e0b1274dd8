import GridSketch.Grid.Bounds
import GridSketch.Grid.Make

/-!
# Grids filled by chance

A random grid takes its numbers from a `Noise`, an arbitrary number for each cell, and brings each
between the bounds of the cell (`Bounds.draw`); so its shape and its range do not depend on chance.

The sides are stricter than those of the other grids: what stands for an integer is enough to be
found too small, but only an integer is a side. Before the bounds are read the sides are multiplied,
and that is refused where one of them is a text.
-/

set_option autoImplicit false

namespace GridSketch

abbrev Noise := Nat → Nat → Nat

namespace Grid

/-! ## Sides -/

/-- Both sides must stand for positive integers. They are shown as they are. -/
def checkSides (rows cols : Json) : Except Fault Unit := do
  let refused : Except Fault Unit := .error (.showing [rows, cols] (.sizeNotPositive rows cols))
  if (← rows.asInt) < 1 then refused
  else if (← cols.asInt) < 1 then refused
  else .ok ()

/-- The integers that a word without a sign can be are below this. -/
def wordCount : Int := 2 * (maxWord + 1)

/-- The places that a side takes up where sides are written as texts. An integer beyond the words
is not written at all. -/
def placesOf : Json → Except Fault Nat
  | .str s => .ok s.length
  | .num (.float _) => .ok 32
  | .bool _ => .ok 5
  | .num (.int n) =>
    if n ≤ maxWord then .ok 21 else if n < wordCount then .ok 20 else .error .sideTooLong
  | _ => .ok 0

/-- Sees to it that two sides can be multiplied. Texts cannot be, and an integer is only by a double
where it is in the range of doubles. -/
def checkProduct (rows cols : Json) : Except Fault Unit :=
  match rows, cols with
  | .str _, _ | _, .str _ => do
    let r ← placesOf rows
    let c ← placesOf cols
    throw (.textSides (max r c))
  | .num (.int n), .num (.float _) | .num (.float _), .num (.int n) => do
    let _ ← (Json.floatOfInt n).mapError Fault.misfit
  | _, _ => .ok ()

/-- Whether the product of two sides comes to nothing in a word of 64 bits. -/
def vanishes (rows cols : Json) : Bool :=
  match rows.number?, cols.number? with
  | some (.int r), some (.int c) =>
    let signed (n : Int) : Bool := n ≤ maxWord
    r < wordCount && c < wordCount && signed r == signed c && r * c % wordCount == 0
  | _, _ => false

def side : Json → Except Fault Nat
  | .num (.int n) => if maxWord < n.toNat then .error (.oversize .side) else .ok n.toNat
  | .bool _ => .error (.unfit .truthSide)
  | j => .error (.unfit (.side j.kindName))

def roomFor (rows cols : Json) : Except Fault (Nat × Nat) := do
  let rows ← side rows
  let cols ← side cols
  tooLarge (reserve .integer [rows, cols])
  pure (rows, cols)

/-! ## Grids -/

/-- A grid of given sides, whose cells take their bounds in the order of the places of a shape. -/
def drawn (noise : Noise) (bounds : Bounds) (sides : List Nat) (rows cols : Nat) :
    List (List Int) :=
  tabulate rows cols fun i j => bounds.draw (Shape.placeAt sides (i * cols + j)) (noise i j)

/-- Between the same bounds for all cells, each number depends on the noise of its cell alone. -/
theorem drawn_uniform (noise : Noise) (low high : Int) (sides : List Nat) (rows cols : Nat) :
    drawn noise (.uniform low high) sides rows cols =
      tabulate rows cols fun i j => Bounds.between low high (noise i j) := by
  simp [drawn, Bounds.draw]

/-- A grid of numbers between two bounds. Its room is asked for last, but where the product of the
sides vanishes it is asked for before the bounds are read. -/
def random (noise : Noise) (rows cols low high : Json) : Except Fault (List (List Int)) := do
  checkSides rows cols
  let (low, high) ← Bounds.inOrder low high
  checkProduct rows cols
  if vanishes rows cols then
    let _ ← roomFor rows cols
  let bounds ← Bounds.read low high
  let (rows, cols) ← roomFor rows cols
  let sides ← bounds.sidesWith [rows, cols]
  pure (drawn noise bounds sides rows cols)

end Grid

end GridSketch
