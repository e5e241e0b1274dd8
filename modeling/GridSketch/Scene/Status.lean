import GridSketch.Scene.Basic

/-!
# The status line

The status line describes one thing: the cell under the pointer, or else the selected matrix, or
else the selected arrow, or else the selected tint. What denotes nothing is passed over. A value
that cannot be compared with an index or looked up by name is refused, since a selection is kept
whatever it is; and so is an integer that is too long to be printed.
-/

set_option autoImplicit false

namespace GridSketch

def CellRef.statusText (r : CellRef) : Except Fault String := do
  pure <| (← r.matrix.print) ++ "[" ++ (← r.row.print) ++ "," ++ (← r.col.print) ++ "]"

namespace Drawing

/-- What a cell is and holds; a cell that is not among the values of its matrix holds nothing. -/
def cellInfo (d : Drawing) (r : CellRef) : Except Fault (Option String) := do
  match ← d.resolve r with
  | some m =>
    let value ← m.value? r.row r.col
    pure <| some <|
      "Matrix: " ++ (← r.matrix.print) ++ ", row: " ++ (← r.row.print) ++ ", col: " ++
        (← r.col.print) ++ ", value: " ++ (← (value.getD .null).print)
  | none => pure none

def matrixInfo (d : Drawing) (selected : Json) : Except Fault (Option String) := do
  if selected.isNull then pure none
  else
    match ← d.find? selected with
    | some m =>
      pure <| some <|
        "Matrix '" ++ (← selected.print) ++ "' selected (" ++ (← m.rows.print) ++ "x" ++
          (← m.cols.print) ++ ")"
    | none => pure none

def selectedIn {α : Type} (items : List α) (selected : Json) : Except Fault (Option α) := do
  if selected.isNull then pure none
  else pure <| (← selected.indexBelow .lookUp items.length).bind (items[·]?)

def arrowInfo (d : Drawing) (selected : Json) : Except Fault (Option String) := do
  match ← selectedIn d.arrows selected with
  | some a =>
    pure <| some <|
      "Arrow " ++ (← a.source.statusText) ++ " -> " ++ (← a.target.statusText) ++ " selected"
  | none => pure none

def tintInfo (d : Drawing) (selected : Json) : Except Fault (Option String) := do
  match ← selectedIn d.tints selected with
  | some t => pure <| some <| "Colored cell " ++ (← t.cell.statusText) ++ " selected"
  | none => pure none

end Drawing

/-- The status line of a scene. All four things are looked at, and it takes only one that does not
do for there to be no status line. -/
def Scene.status (s : Scene) : Except Fault String := do
  let cell ← match s.hovered with
    | some r => s.cellInfo r
    | none => pure none
  let matrix ← s.matrixInfo s.selection.matrix
  let arrow ← s.arrowInfo s.selection.arrow
  let tint ← s.tintInfo s.selection.tint
  pure (([cell, matrix, arrow, tint].findSome? id).getD "Ready")

end GridSketch
