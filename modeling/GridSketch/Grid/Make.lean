import GridSketch.Field

/-!
# New grids

A grid is made by its filling and its size. Sizes must be positive, four of the fillings are for
square grids only, and there must be room for the grid (`Grid.layOut`). The triangular fillings
number the cells of a triangle row by row, from one, by a running count (`numberRows`); the others
give each cell a value by its place.
-/

set_option autoImplicit false

namespace GridSketch

namespace Grid

/-- The grid whose cell in row `i` and column `j` is `f i j`. -/
def tabulate {α : Type} (rows cols : Nat) (f : Nat → Nat → α) : List (List α) :=
  (List.range rows).map fun i => (List.range cols).map fun j => f i j

@[simp] theorem length_tabulate {α : Type} (rows cols : Nat) (f : Nat → Nat → α) :
    (tabulate rows cols f).length = rows := by
  simp [tabulate]

theorem length_of_mem_tabulate {α : Type} {rows cols : Nat} {f : Nat → Nat → α} {r : List α}
    (h : r ∈ tabulate rows cols f) : r.length = cols := by
  obtain ⟨i, _, rfl⟩ := List.mem_map.mp h
  simp

theorem tabulate_cell {α : Type} {rows cols i j : Nat} (f : Nat → Nat → α) (hi : i < rows)
    (hj : j < cols) : (tabulate rows cols f)[i]?.bind (·[j]?) = some (f i j) := by
  simp [tabulate, hi, hj]

/-- Numbers the marked cells of a row from `next` on, and gives the others zero; with the next
number. -/
def numberRow : List Bool → Nat → List Int × Nat
  | [], next => ([], next)
  | true :: marks, next =>
    let (row, last) := numberRow marks (next + 1)
    ((next : Int) :: row, last)
  | false :: marks, next =>
    let (row, last) := numberRow marks next
    (0 :: row, last)

theorem length_numberRow (marks : List Bool) (next : Nat) :
    (numberRow marks next).1.length = marks.length := by
  induction marks generalizing next with
  | nil => rfl
  | cons m marks ih => cases m <;> simp [numberRow, ih]

theorem numberRow_next (marks : List Bool) (next : Nat) :
    (numberRow marks next).2 = next + marks.count true := by
  induction marks generalizing next with
  | nil => rfl
  | cons m marks ih =>
    cases m with
    | false => simp [numberRow, ih]
    | true =>
      simp only [numberRow, ih, List.count_cons_self]
      omega

def numberRows : List (List Bool) → Nat → List (List Int)
  | [], _ => []
  | marks :: rest, next =>
    let (row, last) := numberRow marks next
    row :: numberRows rest last

theorem length_numberRows (rows : List (List Bool)) (next : Nat) :
    (numberRows rows next).length = rows.length := by
  induction rows generalizing next with
  | nil => rfl
  | cons marks rest ih => simp [numberRows, ih]

def filled : Filling → Nat → Nat → List (List Int)
  | .sequential, rows, cols => tabulate rows cols fun i j => (i * cols + j + 1 : Nat)
  | .identity, rows, cols => tabulate rows cols fun i j => if i = j then 1 else 0
  | .zeros, rows, cols => tabulate rows cols fun _ _ => 0
  | .ones, rows, cols => tabulate rows cols fun _ _ => 1
  | .upper, rows, cols => numberRows (tabulate rows cols fun i j => i ≤ j) 1
  | .lower, rows, cols => numberRows (tabulate rows cols fun i j => j ≤ i) 1
  | .diagonal, rows, cols => tabulate rows cols fun i j => if i = j then (i + 1 : Nat) else 0

def tooLarge {α : Type} (fit : Except Oversize α) : Except Fault α :=
  fit.mapError .oversize

@[simp] theorem tooLarge_ok {α : Type} (a : α) : tooLarge (.ok a) = .ok a :=
  rfl

def checkSize (rows cols : Int) : Except Fault Unit :=
  if rows < 1 ∨ cols < 1 then
    let rows : Json := .num (.int rows)
    let cols : Json := .num (.int cols)
    .error (.showing [rows, cols] (.sizeNotPositive rows cols))
  else .ok ()

def make (filling : Filling) (rows cols : Int) : Except Fault (List (List Int)) := do
  checkSize rows cols
  if filling.squareOnly ∧ rows ≠ cols then
    .error (.showing [.num (.int rows), .num (.int cols)] (.notSquare filling rows cols))
  else
    match ← tooLarge (layOut filling rows.toNat cols.toNat) with
    | .whole => .ok (filled filling rows.toNat cols.toNat)
    | .rowless => .ok []

/-- A size that suits the filling, and that there is memory for, gives the whole grid. -/
theorem make_eq_ok {f : Filling} {rows cols : Int} (hr : 0 < rows) (hc : 0 < cols)
    (hs : f.squareOnly → rows = cols) (hm : 8 * (rows.toNat * cols.toNat) ≤ memory) :
    make f rows cols = .ok (filled f rows.toNat cols.toNat) := by
  have hsize : checkSize rows cols = .ok () := by
    have h : ¬ (rows < 1 ∨ cols < 1) := by omega
    simp [checkSize, h]
  have hsquare : ¬ (f.squareOnly ∧ rows ≠ cols) := fun h => h.2 (hs h.1)
  have hlay : layOut f rows.toNat cols.toNat = .ok .whole :=
    layOut_eq_whole (by omega) (by omega) hm
  simp [make, hsize, hsquare, hlay, bind, Except.bind]

def fillingOf (kind : Json) : Except Fault Filling := do
  kind.checkKey
  match kind.text?.bind Filling.ofName? with
  | some filling => pure filling
  | none => throw (.showing [kind] (.unknownFilling kind))

def generate (kind rows cols : Json) : Except Fault (List (List Int)) := do
  let filling ← fillingOf kind
  let rows ← rows.asInt
  let cols ← cols.asInt
  make filling rows cols

end Grid

end GridSketch
