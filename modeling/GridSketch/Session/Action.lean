import GridSketch.Command.Token
import GridSketch.Grid.Random
import GridSketch.Scene.Basic

/-!
# Actions on a scene

An action is what a form does when it is submitted: it defines, moves, renames, deletes or
duplicates a matrix, edits or tints cells, or changes the lists of arrows and tints. It takes a
scene to a `Change`, or is refused; whatever is refused is refused before there is a change, so an
action is done whole or not at all.

A change without a scene is an action that found things as it would have left them. It is not
recorded, and nobody is told.

The fields of a form are values of any kind. A text that is left out is empty, and an empty text
takes its default; numbers are taken for what they stand for (`Json.asInt`, `Json.asFloat`). Fields
are read one after the other, each when it is needed, so of two that do not do the first is refused,
and none of those behind a cell that is not there. The label shows some of them, and an integer that
is too long to be printed is refused for that.
-/

set_option autoImplicit false

namespace GridSketch

/-- What an action did: the new scene, if there is one, the label it is undone by, and the name of
a matrix that the action chose by itself. -/
structure Change where
  scene : Option Scene
  label : String
  chosen : Option String := none

/-- The form for a new matrix. -/
structure MatrixForm where
  name : Json
  rows : Json
  cols : Json
  x : Json := .num (.float 0.0)
  y : Json := .num (.float 0.0)
  kind : Json := .str "sequential"
  bounds : Json := .arr [.num (.int (-10)), .num (.int 10)]

/-- The form for an arrow. What is bare takes the default. -/
structure ArrowForm where
  source : CellRef
  target : CellRef
  colour : Json := .null
  style : Json := .null
  width : Json := .null
  label : Json := .null

/-- The form for the value and the colour of a cell. -/
structure CellForm where
  matrix : Json
  row : Json
  col : Json
  value : Json
  colour : Json := .null

/-- The form for the colour of a rectangle of cells between two corners, each a row and a column. -/
structure RangeForm where
  matrix : Json
  start : Json
  stop : Json
  colour : Json

/-- The actions. -/
inductive Action where
  | define (form : MatrixForm) (noise : Noise)
  | move (name x y : Json)
  | rename (old new : Json)
  | delete (name : Json)
  | duplicate (name : Json)
  | editCell (form : CellForm)
  | tintRange (form : RangeForm)
  | saveArrow (form : ArrowForm)
  | updateArrow (index : Json) (form : ArrowForm)
  | deleteArrow (index : Json)
  | updateTint (index : Json) (tint : Tint)
  | deleteTint (index : Json)

namespace Change

/-! ## Matrices -/

def randomKind : String := "random"

def newValues (f : MatrixForm) (noise : Noise) : Except Fault (List (List Int)) := do
  if f.kind.isText randomKind then
    Grid.random noise f.rows f.cols (← f.bounds.item 0) (← f.bounds.item 1)
  else Grid.generate f.kind f.rows f.cols

def define (s : Scene) (f : MatrixForm) (noise : Noise) : Except Fault Change := do
  let name ← Name.clean f.name
  let values ← newValues f noise
  let rows ← f.rows.asInt
  let cols ← f.cols.asInt
  let x ← f.x.asFloat
  let y ← f.y.asFloat
  let d ← s.putMatrix (.str name) (.sized rows cols (Grid.ofInts values) ⟨x, y⟩)
  pure
    { scene := (s.withDrawing d).select .matrix (.str name)
      label := "Define matrix " ++ name ++ " (" ++ f.kind.shown ++ ")" }

def move (s : Scene) (name x y : Json) : Except Fault Change := do
  let m ← s.matrix name
  let label := "Move matrix " ++ (← name.print)
  let x ← x.asFloat
  let y ← y.asFloat
  let d ← s.putMatrix name (m.withPosition ⟨x, y⟩)
  pure { scene := s.withDrawing d, label }

/-- Gives a matrix another name. Nothing changes where it has that name already. -/
def rename (s : Scene) (old new : Json) : Except Fault Change := do
  let new ← Name.clean new
  let label := "Rename matrix " ++ (← old.print) ++ " -> " ++ new
  let scene ← s.rename old (.str new)
  pure { scene, label }

/-- Deletes a matrix, and the selection of it, which may be there without the matrix. -/
def delete (s : Scene) (name : Json) : Except Fault Change := do
  let change := (← s.toDrawing.delete name).map s.withDrawing
  let scene :=
    if s.selection.matrix.equals name then some ((change.getD s).select .matrix .null) else change
  pure { scene, label := "Delete matrix " ++ (← name.print) }

def copyName (name : String) (k : Nat) : String :=
  if k = 0 then name ++ "_copy" else name ++ "_copy" ++ toString (k + 1)

/-- The first name for a copy that is free. One more candidate than there are matrices is enough,
since the candidates differ. -/
def freeCopyName (ms : Roster Json Matrix) (name : String) : String :=
  let candidates := (List.range (ms.entries.length + 1)).map (copyName name)
  (candidates.find? fun c => !ms.has (.str c)).getD name

/-- Puts a copy of a matrix one to the right and one down. -/
def duplicate (s : Scene) (name : Json) : Except Fault Change := do
  let m ← s.matrix name
  let shown ← name.print
  let new := freeCopyName s.matrices shown
  let d ← s.putMatrix (.str new) (m.withPosition ⟨m.position.x + 1.0, m.position.y + 1.0⟩)
  pure { scene := s.withDrawing d, label := "Duplicate matrix " ++ shown, chosen := new }

/-! ## Cells -/

/-- The drawing with a cell tinted in a trimmed colour, or untinted where it stands for none. -/
def tint (d : Drawing) (r : CellRef) (colour : String) : Drawing :=
  if Tint.isNone colour then (d.clearTint r).getD d else d.putTint ⟨r, .str colour⟩

/-- Sets the value and the tint of a cell together. -/
def editCell (s : Scene) (f : CellForm) : Except Fault Change := do
  let row ← f.row.asInt
  let col ← f.col.asInt
  let r : CellRef := ⟨f.matrix, .num (.int row), .num (.int col)⟩
  let m ← s.requireCell r "Cell"
  let v ← Command.number (← f.value.typed).toList
  let d ← s.putMatrix r.matrix (m.withValue r.row r.col (.num v))
  let colour := Text.trimmed (← f.colour.typed)
  pure
    { scene := (s.withDrawing (tint d r colour)).select .tint .null
      label := "Edit cell " ++ (← r.print) }

/-- An inclusive rectangle of cells. -/
structure Range where
  top : Int
  bottom : Int
  left : Int
  right : Int

namespace Range

/-- The rectangle between two corners, in whatever order they are given. -/
def between (a b : Int × Int) : Range :=
  ⟨min a.1 b.1, max a.1 b.1, min a.2 b.2, max a.2 b.2⟩

def contains (g : Range) (row col : Json) : Bool :=
  row.isBetween g.top g.bottom && col.isBetween g.left g.right

def span (first last : Int) : List Int :=
  (List.range (last - first + 1).toNat).map fun (k : Nat) => first + k

def cells (g : Range) (matrix : Json) : List CellRef :=
  (span g.top g.bottom).flatMap fun row =>
    (span g.left g.right).map fun col => ⟨matrix, .num (.int row), .num (.int col)⟩

def isPrintable (g : Range) : Bool :=
  [g.top, g.bottom, g.left, g.right].all Text.withinDigitLimit

/-- A rectangle as it is shown, which takes that its bounds can be printed. -/
def print (g : Range) : Except Fault String :=
  if g.isPrintable then .ok s!"[{g.top}:{g.bottom}][{g.left}:{g.right}]" else .error .unprintable

end Range

/-- Takes away the tints in a rectangle; nothing changes where there is none. -/
def untintRange (d : Drawing) (matrix : Json) (g : Range) : Option Drawing :=
  let kept := d.tints.filter fun t =>
    !(t.cell.matrix.equals matrix && g.contains t.cell.row t.cell.col)
  if kept.length = d.tints.length then none else some { d with tints := kept }

/-- The corner of a rectangle, which must be a cell of the matrix. -/
def corner (s : Scene) (matrix given : Json) (role : String) : Except Fault (Int × Int) := do
  let row ← (← given.item 0).asInt
  let col ← (← given.item 1).asInt
  let _ ← s.requireCell ⟨matrix, .num (.int row), .num (.int col)⟩ role
  pure (row, col)

/-- Tints a rectangle of cells, or takes their tints away. -/
def tintRange (s : Scene) (f : RangeForm) : Except Fault Change := do
  let start ← corner s f.matrix f.start "Range start"
  let stop ← corner s f.matrix f.stop "Range end"
  let g := Range.between start stop
  let colour := Text.trimmed (← f.colour.typed)
  let change :=
    if Tint.isNone colour then untintRange s.toDrawing f.matrix g
    else some ((g.cells f.matrix).foldl (fun d r => d.putTint ⟨r, .str colour⟩) s.toDrawing)
  pure
    { scene := change.map s.withDrawing
      label := "Tint " ++ (← f.matrix.print) ++ (← g.print) }

/-! ## Arrows -/

/-- The text of a field without white space around it, or else a default. -/
def textOr (default : String) (field : Json) : Except Fault String := do
  let text := Text.trimmed (← field.typed)
  pure (if text = "" then default else text)

def width (j : Json) : Except Fault Float :=
  if j.isBare then .ok Arrow.defaultWidth else j.asFloat

/-- The label in a form, nothing where it is blank. -/
def labelOf (field : Json) : Except Fault Json := do
  let text ← textOr "" field
  pure (if text = "" then .null else .str text)

/-- The arrow of a form, whose cells must be there. Its style is kept as it is given. -/
def arrowOf (d : Drawing) (f : ArrowForm) : Except Fault Arrow := do
  let _ ← d.requireCell f.source "Source"
  let _ ← d.requireCell f.target "Target"
  let colour ← textOr Arrow.defaultColour f.colour
  let w ← width f.width
  let label ← labelOf f.label
  pure
    { source := f.source, target := f.target
      colour := .str colour
      style := if f.style.isBare then .str Arrow.defaultStyle else f.style
      width := .num (.float w)
      label }

/-- Replaces the selected arrow, or adds one where none is selected, and selects none. -/
def saveArrow (s : Scene) (f : ArrowForm) : Except Fault Change := do
  let a ← arrowOf s.toDrawing f
  let selected := s.selection.arrow
  let index ←
    if selected.isNull then pure none else selected.indexBelow .replace s.arrows.length
  match index with
  | some i =>
    pure
      { scene := (s.withDrawing { s.toDrawing with arrows := s.arrows.set i a }).select .arrow .null
        label := "Update arrow " ++ (← selected.print) }
  | none =>
    pure
      { scene := (s.withDrawing (s.addArrow a)).select .arrow .null
        label := "Add arrow " ++ (← f.source.print) ++ " -> " ++ (← f.target.print) }

def updateArrow (s : Scene) (index : Json) (f : ArrowForm) : Except Fault Change := do
  let a ← arrowOf s.toDrawing f
  let label := "Update arrow " ++ (← index.print)
  let d ← s.toDrawing.updateArrow index a
  pure { scene := s.withDrawing d, label }

/-- Deletes the arrow at an index. The indices shift, so no arrow is selected any more. -/
def deleteArrow (s : Scene) (index : Json) : Except Fault Change := do
  let d ← s.toDrawing.deleteArrow index
  pure
    { scene := (s.withDrawing d).select .arrow .null
      label := "Delete arrow " ++ (← index.print) }

/-! ## Tints -/

/-- Replaces a tint. Where that takes another tint of the cell away the indices shift, and then no
tint is selected any more. -/
def updateTint (s : Scene) (index : Json) (t : Tint) : Except Fault Change := do
  let _ ← s.requireCell t.cell "Cell"
  let d ← s.toDrawing.updateTint index t
  let scene := s.withDrawing d
  pure
    { scene := if d.tints.length = s.tints.length then scene else scene.select .tint .null
      label := "Update colored cell " ++ (← index.print) }

/-- Deletes the tint at an index. The indices shift, so no tint is selected any more. -/
def deleteTint (s : Scene) (index : Json) : Except Fault Change := do
  let d ← s.toDrawing.deleteTint index
  pure
    { scene := (s.withDrawing d).select .tint .null
      label := "Delete colored cell " ++ (← index.print) }

end Change

def Action.apply (s : Scene) : Action → Except Fault Change
  | .define form noise => Change.define s form noise
  | .move name x y => Change.move s name x y
  | .rename old new => Change.rename s old new
  | .delete name => Change.delete s name
  | .duplicate name => Change.duplicate s name
  | .editCell form => Change.editCell s form
  | .tintRange form => Change.tintRange s form
  | .saveArrow form => Change.saveArrow s form
  | .updateArrow index form => Change.updateArrow s index form
  | .deleteArrow index => Change.deleteArrow s index
  | .updateTint index tint => Change.updateTint s index tint
  | .deleteTint index => Change.deleteTint s index

end GridSketch
