import GridSketch.Scene.Drawing
import GridSketch.View.Viewport

/-!
# Picking

Which cell is under a point? Matrices are asked in ascending order of their names, whatever the
order they are drawn in, and the first that has the point within its bounds and a cell there
answers. The left and upper edges belong to a matrix, the right and lower ones do not.

The size of a loaded matrix can be too great for a coordinate. Bounds are compared one after the
other, so that such a size is a fault only where it is needed to decide. A point can be so far from
the corner of a matrix without an end that there is no cell to count to.
-/

set_option autoImplicit false

namespace GridSketch

variable {K : Type} [Coordinate K]

/-- The coordinate of a row, a column or a size, which must be a number. -/
def Coordinate.ofValue (j : Json) : Except Fault K :=
  match j.number? with
  | some (.int n) => Coordinate.ofInt n
  | some (.float x) => .ok (Coordinate.ofFloat x)
  | none => .error (.unfit (.sum j.kindName))

@[simp] theorem Coordinate.ofValue_int (n : Int) :
    (Coordinate.ofValue (.num (.int n)) : Except Fault K) = Coordinate.ofInt n :=
  rfl

/-- The greatest integer that is not above a coordinate, which must not be infinite. -/
def Coordinate.floor (k : K) : Except Fault Int :=
  match Coordinate.floor? k with
  | some n => .ok n
  | none => .error (.misfit .infinite)

@[simp] theorem Coordinate.floor_rat (q : Rat) : Coordinate.floor q = .ok q.floor :=
  rfl

/-- Whether a coordinate is within a length from a start. -/
def within (start : K) (length : Json) (k : K) : Except Fault Bool :=
  if start ≤ k then do
    let n ← Coordinate.ofValue length
    pure (decide (k < start + n))
  else .ok false

namespace Matrix

/-- Whether a point of the plane is within the bounds of a matrix. -/
def covers (m : Matrix) (p : Point K) : Except Fault Bool := do
  let corner : Point K := m.position.ofFloats
  if ← within corner.x m.cols p.x then within corner.y m.rows (-p.y) else pure false

/-- The row and the column under a point, as they are counted from the corner. -/
def cellUnder (m : Matrix) (p : Point K) : Except Fault (Int × Int) := do
  let corner : Point K := m.position.ofFloats
  let row ← Coordinate.floor (-p.y - corner.y)
  let col ← Coordinate.floor (p.x - corner.x)
  pure (row, col)

/-- The cell of a matrix under a point, if it is within the bounds and the cell is there. -/
def pick (m : Matrix) (name : Json) (p : Point K) : Except Fault (Option CellRef) := do
  if ← m.covers p then
    let (row, col) ← m.cellUnder p
    let r : CellRef := ⟨name, .num (.int row), .num (.int col)⟩
    if ← m.contains r.row r.col then pure (some r) else pure none
  else pure none

end Matrix

/-- The first answer that is one, of questions that may fail. -/
def firstAnswer {α β : Type} (ask : α → Except Fault (Option β)) : List α → Except Fault (Option β)
  | [] => .ok none
  | a :: rest => do
    match ← ask a with
    | some b => pure (some b)
    | none => firstAnswer ask rest

namespace Drawing

def cellAtScene (d : Drawing) (p : Point K) : Except Fault (Option CellRef) := do
  firstAnswer (fun e => e.2.pick e.1 p) (← d.sorted)

def cellAt (d : Drawing) (v : Viewport K) (p : Point K) : Except Fault (Option CellRef) :=
  d.cellAtScene (v.toScene p)

/-- The name of the first matrix that has a point of the screen within its bounds. -/
def matrixAt (d : Drawing) (v : Viewport K) (p : Point K) : Except Fault (Option Json) := do
  let q := v.toScene p
  firstAnswer (fun e => do if ← e.2.covers q then pure (some e.1) else pure none) (← d.sorted)

/-- The middle of a cell on the screen, if the cell is there. -/
def cellCentre (d : Drawing) (v : Viewport K) (r : CellRef) :
    Except Fault (Option (Point K)) := do
  match ← d.resolve r with
  | none => pure none
  | some m =>
    let corner : Point K := m.position.ofFloats
    let col ← Coordinate.ofValue r.col
    let row ← Coordinate.ofValue r.row
    pure (some (v.dataToScreen ⟨corner.x + col + 0.5, corner.y + row + 0.5⟩))

end Drawing

end GridSketch
