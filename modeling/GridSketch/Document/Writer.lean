import GridSketch.Scene.Drawing

/-!
# From a drawing to a document

Everything is written as it is kept, so what came from a form, a command or a document is written
as what the reader takes for itself. Only the label of an arrow is left out where it is bare.
-/

set_option autoImplicit false

namespace GridSketch.Document

def writeReference (r : CellRef) : Json :=
  .arr [r.matrix, r.row, r.col]

def writeLabel (label : Json) : List (String × Json) :=
  if label.isBare then [] else [("label", label)]

def writeArrow (a : Arrow) : Json :=
  .obj <|
    [ ("source", writeReference a.source),
      ("target", writeReference a.target),
      ("color", a.colour),
      ("style", a.style),
      ("width", a.width) ] ++ writeLabel a.label

/-- The record of a matrix, with its declared size and the rows it has. -/
def writeMatrix (name : Json) (m : Matrix) : Json :=
  .obj
    [ ("name", name),
      ("rows", m.rows),
      ("cols", m.cols),
      ("position", .arr [.num (.float m.position.x), .num (.float m.position.y)]),
      ("values", .arr (m.values.map .arr)) ]

def writeTint (t : Tint) : Json :=
  .obj
    [ ("matrix", t.cell.matrix),
      ("row", t.cell.row),
      ("col", t.cell.col),
      ("color", t.colour) ]

def write (d : Drawing) : Json :=
  .obj
    [ ("matrices", .arr (d.matrices.entries.map fun e => writeMatrix e.1 e.2)),
      ("arrows", .arr (d.arrows.map writeArrow)),
      ("coloredCells", .arr (d.tints.map writeTint)) ]

end GridSketch.Document
