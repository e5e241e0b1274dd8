import GridSketch.Block
import GridSketch.Field
import GridSketch.Json.Order
import GridSketch.Text.Blank

/-!
# The bounds of a random grid

A random grid has a lower and an upper bound for each of its cells. Both are integers of 64 bits,
given in either order, or lists of such: then each is a block, and the two are repeated until they
meet each other and the grid. The cells take the bounds in the order of the places.

Two bounds are put in order as the values they are, and read as integers afterwards. So two texts
can come out crossed. The items of a list count as items of one kind: beside a text every item is a
text, and beside a double every integer is rounded to one (`ItemKind`).

The main statements: a number drawn between two bounds in order lies between them
(`between_bounds`), and bounds for all cells suit every grid (`sidesWith_uniform`).
-/

set_option autoImplicit false

namespace GridSketch

/-- What the items of a list of bounds count as. -/
inductive ItemKind where
  /-- Integers in range, and truth values. -/
  | word
  /-- Doubles, and integers rounded to doubles; also no items at all. -/
  | double
  /-- Texts, and numbers as they are shown. -/
  | text
  /-- Values of any kind, as they are. -/
  | value
  deriving DecidableEq, Repr

namespace ItemKind

/-- Whether an item leaves the items of its list as they are: nothing does, an object, and an
integer beyond 64 bits with a sign or without. -/
def isLoose : Json → Bool
  | .num (.int n) => n < -(Grid.maxWord + 1) || 2 * (Grid.maxWord + 1) ≤ n
  | .num (.float _) | .bool _ | .str _ => false
  | .null | .arr _ | .obj _ => true

/-- Whether an item makes the items of its list doubles: a double does, and an integer of 64 bits
without a sign that does not fit with one. It is out of range as a double too. -/
def isWide : Json → Bool
  | .num (.float _) => true
  | .num (.int n) => Grid.maxWord + 1 ≤ n
  | _ => false

def ofItems (items : List Json) : ItemKind :=
  if items.any isLoose then .value
  else if items.any fun j => j.text?.isSome then .text
  else if items.isEmpty || items.any isWide then .double
  else .word

end ItemKind

/-- A text without the zero characters at its end. -/
def Text.beforeZeros (s : String) : String :=
  String.ofList (dropEnd (· = '\x00') s.toList)

def Numeral.itemInteger (s : String) : Except Misfit Int :=
  match integer (Text.beforeZeros s) with
  | .error (.text _ t) => .error (.item t)
  | result => result

/-- The integer of an item that counts as one of a kind. -/
def ItemKind.toInt : ItemKind → Json → Except Misfit Int
  | .text, j => Numeral.itemInteger j.shown
  | .double, .num (.int n) =>
    .ok (Decimal.signed (n < 0) (Decimal.nearestWhole n.natAbs))
  | _, j => j.toInt

/-- The lower and the upper bounds of the cells of a grid. -/
structure Bounds where
  low : Block Int
  high : Block Int

namespace Bounds

/-- The least and the greatest integer a bound may be: those of 64 bits. -/
def least : Int := -(Grid.maxWord + 1)
def greatest : Int := Grid.maxWord

def uniform (low high : Int) : Bounds :=
  ⟨.single low, .single high⟩

/-- The bounds for a place; zero where there is none. -/
def lowAt (b : Bounds) (place : List Nat) : Int :=
  (b.low.item? place).getD 0
def highAt (b : Bounds) (place : List Nat) : Int :=
  (b.high.item? place).getD 0

@[simp] theorem lowAt_uniform (low high : Int) (place : List Nat) :
    (uniform low high).lowAt place = low := by
  simp [lowAt, uniform]

@[simp] theorem highAt_uniform (low high : Int) (place : List Nat) :
    (uniform low high).highAt place = high := by
  simp [highAt, uniform]

/-! ## Reading -/

/-- The two bounds in ascending order. Bounds that are not comparable are refused. -/
def inOrder (a b : Json) : Except Fault (Json × Json) := do
  if ← Json.comparesTo .greater a b then pure (b, a) else pure (a, b)

/-- The fault that an upper bound is below its lower one. It is told apart whether all the lower
bounds are zero. -/
def crossed (low : Block Int) : Fault :=
  .boundsCrossed (low.items.all (· = 0))

/-- Bounds none of which is above its upper bound. -/
def checked (b : Bounds) : Except Fault Bounds :=
  match Shape.meet? b.low.sides b.high.sides with
  | none => .error (.misshape (.apart b.low.sides b.high.sides))
  | some sides =>
    if (Shape.places sides).any fun p => b.highAt p < b.lowAt p then .error (crossed b.low)
    else .ok b

/-- A bound for all cells. Zero characters at the end of a text do not count. -/
def single : Json → Except Fault Int
  | .str s => (Json.str (Text.beforeZeros s)).asInt
  | j => j.asInt

/-- The same bounds for all cells, from two values. -/
def ofValues (low high : Json) : Except Fault Bounds := do
  let low ← single low
  let high ← single high
  if low < least then throw .boundTooLow
  else if greatest < high then throw .boundTooHigh
  else (uniform low high).checked

/-- Sees to it that the places of a shape can be gone through. -/
def checkWalk (sides : List Nat) : Except Fault Unit :=
  if Shape.greatestWalk < sides.length then .error (.misshape (.tooManySides sides.length))
  else .ok ()

/-- An integer in range. What is beyond either end is refused for the fault of that end. -/
def inRange (below above : Fault) (n : Int) : Except Fault Int :=
  if n < least then .error below else if greatest < n then .error above else .ok n

/-- The integers of a block, each of which must be in range. -/
def integers (below above : Fault) (b : Block Json) : Except Fault (Block Int) := do
  let kind := ItemKind.ofItems b.items
  if kind ≠ .word then checkWalk b.sides
  b.mapM fun j => do inRange below above (← (kind.toInt j).mapError .misfit)

/-- Bounds from two lists. A lower bound is refused alike beyond either end. An upper bound below
the least integer is below any lower bound, and is refused for that. -/
def ofLists (low high : Json) : Except Fault Bounds := do
  let low ← (Block.ofValue low).mapError .misshape
  let high ← (Block.ofValue high).mapError .misshape
  let low ← integers .boundTooLow .boundTooLow low
  let high ← integers (crossed low) .boundTooHigh high
  checked ⟨low, high⟩

/-- The bounds in two values, of which the first is the lower one. -/
def read (low high : Json) : Except Fault Bounds :=
  match low, high with
  | .arr _, .arr _ => ofLists low high
  | _, _ => ofValues low high

/-! ## Bounds and grids -/

/-- Sides with ones in front of them, up to so many. -/
def padded (count : Nat) (sides : List Nat) : List Nat :=
  List.replicate (count - sides.length) 1 ++ sides

/-- The first side at which bounds and a grid do not meet: which of the bounds it is. -/
def clash? (lows highs sides : List Nat) : Option Nat :=
  (lows.zip (highs.zip sides)).findSome? fun (low, high, side) =>
    if side = 1 then none
    else if low ≠ 1 then if low ≠ side then some 0 else none
    else if high ≠ 1 ∧ high ≠ side then some 1
    else none

/-- The shape that bounds and a grid of given sides meet in. -/
def sidesWith (b : Bounds) (sides : List Nat) : Except Fault (List Nat) := do
  let low := b.low.sides
  let high := b.high.sides
  checkWalk low
  checkWalk high
  let count := max (max low.length high.length) sides.length
  match clash? (padded count low) (padded count high) (padded count sides) with
  | some 0 => throw (.misshape (.clash 0 low 2 sides))
  | some n => throw (.misshape (.clash n high 2 sides))
  | none => pure (((Shape.meet? low high).bind (Shape.meet? · sides)).getD sides)

theorem sidesWith_uniform (low high : Int) (rows cols : Nat) :
    (uniform low high).sidesWith [rows, cols] = .ok [rows, cols] := by
  simp [sidesWith, uniform, Block.single, checkWalk, padded, clash?, bind, Except.bind, pure,
    Except.pure]

/-- An arbitrary number brought between two others. -/
def between (low high : Int) (n : Nat) : Int :=
  low + (n % (high - low + 1).toNat : Nat)

/-- A number brought between two others that are in order lies between them. -/
theorem between_bounds {low high : Int} (h : low ≤ high) (n : Nat) :
    low ≤ between low high n ∧ between low high n ≤ high := by
  have hm : n % (high - low + 1).toNat < (high - low + 1).toNat := Nat.mod_lt n (by omega)
  unfold between
  omega

def draw (b : Bounds) (place : List Nat) (n : Nat) : Int :=
  between (b.lowAt place) (b.highAt place) n

end Bounds

end GridSketch
