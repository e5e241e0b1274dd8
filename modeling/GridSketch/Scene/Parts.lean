import GridSketch.Grid.Make
import GridSketch.Json.Items
import GridSketch.Json.Order
import GridSketch.Point
import GridSketch.Text.Case

/-!
# The parts of a drawing

Matrices have a place on the plane and a declared size. Arrows and tints speak of cells by matrix
name, row and column only. Such a reference is weak: nothing keeps it from outliving its matrix or
from lying outside it, and whoever follows it finds out (`Drawing.resolve`).

Names, rows, columns, declared sizes and what a thing is drawn with are values, kept as they were
given. Forms, commands and documents give texts for names and colours, and integers for rows,
columns and sizes (`CellRef.ofText`, `Matrix.sized`). What a caller gives instead is refused where
it does not do, and not before.
-/

set_option autoImplicit false

namespace GridSketch

/-- A cell by the name of its matrix, its row and its column. -/
structure CellRef where
  matrix : Json
  row : Json
  col : Json

namespace CellRef

def ofText (matrix : String) (row col : Int) : CellRef :=
  ⟨.str matrix, .num (.int row), .num (.int col)⟩

/-- Two references are the same if their parts are. -/
instance : BEq CellRef where
  beq r s := r.matrix == s.matrix && r.row == s.row && r.col == s.col

theorem beq_iff {r s : CellRef} :
    r == s ↔ (r.matrix == s.matrix) ∧ (r.row == s.row) ∧ (r.col == s.col) := by
  change (r.matrix == s.matrix && r.row == s.row && r.col == s.col) = true ↔ _
  simp [and_assoc]

instance : EquivBEq CellRef where
  rfl := beq_iff.mpr ⟨BEq.rfl, BEq.rfl, BEq.rfl⟩
  symm h := by
    rw [beq_iff] at h ⊢
    exact ⟨BEq.symm h.1, BEq.symm h.2.1, BEq.symm h.2.2⟩
  trans h h' := by
    rw [beq_iff] at h h' ⊢
    exact ⟨BEq.trans h.1 h'.1, BEq.trans h.2.1 h'.2.1, BEq.trans h.2.2 h'.2.2⟩

/-- References by texts and integers are the same where they are equal. -/
theorem ofText_beq_ofText {n m : String} {i j k l : Int} :
    (ofText n i j == ofText m k l) ↔ n = m ∧ i = k ∧ j = l := by
  simp [beq_iff, ofText]

/-- Whether the parts of two references are equal. -/
def equals (r s : CellRef) : Bool :=
  r.matrix.equals s.matrix && r.row.equals s.row && r.col.equals s.col

theorem beq_of_equals {r s : CellRef} (h : r.equals s) : r == s := by
  simp only [equals, Bool.and_eq_true] at h
  exact beq_iff.mpr ⟨Json.beq_of_equals h.1.1, Json.beq_of_equals h.1.2, Json.beq_of_equals h.2⟩

/-- A reference by a text and two integers is equal to what it is the same as. -/
@[simp] theorem ofText_equals (n : String) (i j : Int) (r : CellRef) :
    (ofText n i j).equals r = (ofText n i j == r) := by
  rw [equals, ofText, Json.str_equals, Json.equals_eq_beq (Json.isNaN_int i),
    Json.equals_eq_beq (Json.isNaN_int j)]
  rfl

/-- The reference after a matrix took another name. -/
def renamed (old new : Json) (r : CellRef) : CellRef :=
  if r.matrix.equals old then { r with matrix := new } else r

def text (r : CellRef) : String :=
  r.matrix.shown ++ "[" ++ r.row.shown ++ "][" ++ r.col.shown ++ "]"

def isPrintable (r : CellRef) : Bool :=
  r.matrix.isPrintable && r.row.isPrintable && r.col.isPrintable

/-- A reference as it is shown, which takes that all of it can be printed. -/
def print (r : CellRef) : Except Fault String :=
  if r.isPrintable then .ok r.text else .error .unprintable

theorem print_eq_ok {r : CellRef} {t : String} :
    r.print = .ok t ↔ r.isPrintable = true ∧ r.text = t := by
  cases h : r.isPrintable with
  | true => simp [print, h]
  | false => simp [print, h]

theorem print_of_isPrintable {r : CellRef} (h : r.isPrintable = true) : r.print = .ok r.text :=
  if_pos h

end CellRef

/-- A matrix: its declared size, its values and the place of its upper left corner, with the rows
going down from there. -/
structure Matrix where
  rows : Json
  cols : Json
  values : Grid
  position : Point Float

namespace Matrix

def sized (rows cols : Int) (values : Grid) (position : Point Float) : Matrix :=
  ⟨.num (.int rows), .num (.int cols), values, position⟩

/-- The rows in a value, and the values in each of them. -/
def gridOf (values : Json) : Except Fault Grid := do
  (← values.items).mapM Json.items

def ofParts (rows cols values position : Json) : Except Fault Matrix := do
  let grid ← gridOf values
  let x ← (← position.item 0).asFloat
  let y ← (← position.item 1).asFloat
  pure ⟨rows, cols, grid, ⟨x, y⟩⟩

/-- A matrix whose size is read off its values: the number of rows, and the length of the first. -/
def ofValues (values position : Json) : Except Fault Matrix := do
  let rows ← values.count
  let cols ← if rows = 0 then pure 0 else (← values.item 0).count
  let x ← position.item 0
  let y ← position.item 1
  ofParts (.num (.int rows)) (.num (.int cols)) values (.arr [x, y])

def contains (m : Matrix) (row col : Json) : Except Fault Bool := do
  if ← row.isBelow m.rows then col.isBelow m.cols else pure false

theorem contains_sized (rows cols : Int) (g : Grid) (p : Point Float) (i j : Int) :
    (sized rows cols g p).contains (.num (.int i)) (.num (.int j)) =
      .ok (decide (0 ≤ i ∧ i < rows) && decide (0 ≤ j ∧ j < cols)) := by
  simp only [contains, sized, Json.isBelow_int, bind, Except.bind]
  by_cases h : 0 ≤ i ∧ i < rows
  · simp [h]
  · have hb : (decide (0 ≤ i) && decide (i < rows)) = false := by simpa using h
    simp [h, hb, pure, Except.pure]

/-- The value of a cell; a cell that is not among the values has none. The column is not looked at
where the row is not there. -/
def value? (m : Matrix) (row col : Json) : Except Fault (Option Json) := do
  match fromEitherEnd? m.values (← row.asIndex .lookUp) with
  | some r => pure (fromEitherEnd? r (← col.asIndex .lookUp))
  | none => pure none

/-- The matrix with the value of one cell changed. What is the same as no integer is no cell. -/
def withValue (m : Matrix) (row col : Json) (v : Json) : Matrix :=
  match row.whole?, col.whole? with
  | some i, some j => { m with values := m.values.set i j v }
  | _, _ => m

theorem contains_withValue (m : Matrix) (row col v i j : Json) :
    (m.withValue row col v).contains i j = m.contains i j := by
  unfold withValue
  split <;> rfl

def withPosition (m : Matrix) (p : Point Float) : Matrix :=
  { m with position := p }

end Matrix

/-- An arrow from cell to cell. -/
structure Arrow where
  source : CellRef
  target : CellRef
  colour : Json
  style : Json
  width : Json
  label : Json

namespace Arrow

/-- What an arrow is drawn with where nothing else is asked for. -/
def defaultColour : String := "red"
def defaultStyle : String := "-|>"
def defaultWidth : Float := 2.0

/-- Whether one of the ends names a matrix by an equal name. -/
def touches (name : Json) (a : Arrow) : Bool :=
  a.source.matrix.equals name || a.target.matrix.equals name

def renamed (old new : Json) (a : Arrow) : Arrow :=
  { a with source := a.source.renamed old new, target := a.target.renamed old new }

end Arrow

/-- A colour on a cell. -/
structure Tint where
  cell : CellRef
  colour : Json

def Tint.renamed (old new : Json) (t : Tint) : Tint :=
  { t with cell := t.cell.renamed old new }

/-- Whether a colour stands for the absence of one: a blank one does, and the word `none` in
letters of any case. -/
def Tint.isNone (colour : String) : Bool :=
  colour.isEmpty || colour.toList.map Text.lowerAscii = "none".toList

end GridSketch
