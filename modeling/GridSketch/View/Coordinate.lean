import GridSketch.Fault
import GridSketch.Point

/-!
# Coordinates

Views and pointers work the same over any coordinates that have arithmetic, an order and a floor.
On the screen they are doubles; the laws of a view hold of exact fractions, where rounding is out
of the way. An integer may be too great for a coordinate, which is why `ofInt?` is partial: of
doubles it is, of fractions never.

Whoever moves a pointer may give its place in integers as well (`Given`). They are of any size, and
stay what they are until they meet a coordinate.
-/

set_option autoImplicit false

namespace GridSketch

/-- The arithmetic that views need. -/
class Coordinate (K : Type) extends Add K, Sub K, Mul K, Div K, Neg K, LT K, LE K,
    OfScientific K where
  decLt : DecidableLT K
  decLe : DecidableLE K
  /-- The coordinate of an integer, if there is one. -/
  ofInt? : Int → Option K
  /-- The coordinate a position is kept as. -/
  ofFloat : Float → K
  /-- The greatest integer that is not above a coordinate, if there is one. -/
  floor? : K → Option Int

attribute [reducible, instance] Coordinate.decLt Coordinate.decLe

instance : Coordinate Float where
  decLt := inferInstance
  decLe := inferInstance
  ofInt? := Decimal.ofInt?
  ofFloat x := x
  floor? := Decimal.floor?

instance : Coordinate Rat where
  decLt := inferInstance
  decLe := inferInstance
  ofInt? n := some n
  ofFloat := Decimal.toRat
  floor? x := some x.floor

/-- A coordinate as it is given: an integer, or a coordinate already. -/
inductive Given (K : Type) where
  | int (n : Int)
  | coordinate (k : K)
  deriving Repr

instance {K : Type} (n : Nat) : OfNat (Given K) n :=
  ⟨.int n⟩

variable {K : Type}

/-- A point whose coordinates are given as such. -/
def Point.given (p : Point K) : Point (Given K) :=
  ⟨.coordinate p.x, .coordinate p.y⟩

variable [Coordinate K]

/-- The position of something on the plane, in other coordinates. -/
def Point.ofFloats (p : Point Float) : Point K :=
  ⟨Coordinate.ofFloat p.x, Coordinate.ofFloat p.y⟩

/-- The coordinate of an integer, which must be in range. -/
def Coordinate.ofInt (n : Int) : Except Fault K :=
  match Coordinate.ofInt? n with
  | some k => .ok k
  | none => .error (.misfit .tooLarge)

namespace Given

/-- The coordinate that is given. -/
def read : Given K → Except Fault K
  | .int n => Coordinate.ofInt n
  | .coordinate k => .ok k

/-- The difference of two. Between integers it is exact, and otherwise both must be in range. -/
def minus : Given K → Given K → Except Fault (Given K)
  | .int m, .int n => .ok (.int (m - n))
  | a, b => do
    let a ← a.read
    let b ← b.read
    pure (.coordinate (a - b))

@[simp] theorem read_int (n : Int) : (Given.int n : Given K).read = Coordinate.ofInt n :=
  rfl

@[simp] theorem read_coordinate (k : K) : (Given.coordinate k).read = .ok k :=
  rfl

end Given

/-- The point that is given. -/
def Point.read (p : Point (Given K)) : Except Fault (Point K) := do
  let x ← p.x.read
  let y ← p.y.read
  pure ⟨x, y⟩

@[simp] theorem Point.read_given (p : Point K) : p.given.read = .ok p :=
  rfl

end GridSketch
