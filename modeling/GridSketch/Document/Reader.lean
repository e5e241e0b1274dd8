import GridSketch.Scene.Drawing

/-!
# From a document to a drawing

A document is an object with a list of matrices and, each optional, lists of arrows and of tints.
A matrix record without a name or without values is passed over. In all other records a missing or
bare member takes its default, a member of another kind is taken for what it stands for, and what
stands for nothing is refused; the first refusal, in the order of the document's lists, is the
answer, so a drawing is loaded whole or not at all.

Records are read one after the other. A matrix whose name came before replaces the earlier one in
its place; a tint on a cell that has one replaces it and comes last.
-/

set_option autoImplicit false

namespace GridSketch.Document

/-- Reports a misfit: a limit of the arithmetic as itself, any other as a flaw of the document. -/
def blame {α : Type} (flaw : DocumentFlaw) : Except Misfit α → Except Fault α
  | .ok a => .ok a
  | .error m => if m.isLimit then .error (.misfit m) else .error (.document flaw)

def demand {α : Type} (flaw : DocumentFlaw) : Option α → Except Fault α
  | some a => .ok a
  | none => .error (.document flaw)

def given? (record : Json) (key : String) : Option Json :=
  (record.member? key).filter fun j => !j.isBare

def present? (record : Json) (key : String) : Option Json :=
  (record.member? key).filter fun j => !j.isNull

/-! ## Matrices -/

/-- The rows in a value: it must be a list of lists. -/
def rows? : Json → Option Grid
  | .arr items => items.mapM fun r => match r with
    | .arr xs => some xs
    | _ => none
  | _ => none

/-- The declared size of a matrix, or else the size of its values. -/
def readCount (flaw : DocumentFlaw) (record : Json) (key : String) (default : Nat) :
    Except Fault Int :=
  match given? record key with
  | some j => blame flaw j.toInt
  | none => .ok default

def readCoordinate (flaw : DocumentFlaw) (position : Json) (i : Nat) : Except Fault Float := do
  let j ← demand flaw (position.item i).toOption
  blame flaw j.toFloat

def readMatrix (record values : Json) : Except Fault Matrix := do
  let name := record.member? "name"
  let grid ← demand (.rowsNotLists name) (rows? values)
  let flaw := DocumentFlaw.malformedMatrix name
  let rows ← readCount flaw record "rows" grid.length
  let cols ← readCount flaw record "cols" (grid.head?.getD []).length
  let position := (given? record "position").getD (.arr [.num (.int 0), .num (.int 0)])
  let x ← readCoordinate flaw position 0
  let y ← readCoordinate flaw position 1
  pure (.sized rows cols grid ⟨x, y⟩)

/-- The name and the values of a matrix record, if it has both. -/
def nameAndValues? (record : Json) : Option (String × Json) := do
  let name ← given? record "name"
  let values ← present? record "values"
  pure (name.shown, values)

/-- The matrices of a list of records, put one after the other. -/
def readMatrices (ms : Roster Json Matrix) :
    List Json → Except Fault (Roster Json Matrix)
  | [] => .ok ms
  | record :: rest =>
    match nameAndValues? record with
    | none => readMatrices ms rest
    | some (name, values) => do
      let m ← readMatrix record values
      readMatrices (ms.put (.str name) m) rest

/-! ## Arrows -/

/-- The three parts of a reference: the items of a list, the characters of a text or the names in
an object, if there are three. -/
def threeParts? : Json → Option (Json × Json × Json)
  | .arr [a, b, c] => some (a, b, c)
  | .str s =>
    match s.toList with
    | [a, b, c] => some (.ofChar a, .ofChar b, .ofChar c)
    | _ => none
  | .obj [a, b, c] => some (.str a.1, .str b.1, .str c.1)
  | _ => none

def readReference (record : Json) (key what : String) : Except Fault CellRef := do
  let raw := record.member? key
  let flaw := DocumentFlaw.reference what raw
  let (name, row, col) ← demand flaw (raw.bind threeParts?)
  let row ← blame flaw row.toInt
  let col ← blame flaw col.toInt
  pure (.ofText name.shown row col)

/-- The width of an arrow, which has a default only where the member is missing. -/
def readWidth (record : Json) : Except Fault Float :=
  match record.member? "width" with
  | some j => blame (.arrowWidth (some j)) j.toFloat
  | none => .ok Arrow.defaultWidth

def textOr (record : Json) (key default : String) : Json :=
  .str (((given? record key).map Json.shown).getD default)

/-- An arrow record. Its width is read before its ends. -/
def readArrow (record : Json) : Except Fault Arrow :=
  match record with
  | .obj _ => do
    let width ← readWidth record
    let source ← readReference record "source" "arrow source"
    let target ← readReference record "target" "arrow target"
    pure
      { source, target, width := .num (.float width)
        colour := textOr record "color" Arrow.defaultColour
        style := textOr record "style" Arrow.defaultStyle
        label := ((given? record "label").map fun j => .str j.shown).getD .null }
  | _ => .error (.document (.arrowRecord record))

/-! ## Tints -/

/-- A tint record, of which all members are needed. -/
def readTint (record : Json) : Except Fault Tint := do
  let flaw := DocumentFlaw.tintRecord record
  let name ← demand flaw (record.member? "matrix")
  let row ← demand flaw (record.member? "row")
  let row ← blame flaw row.toInt
  let col ← demand flaw (record.member? "col")
  let col ← blame flaw col.toInt
  let colour ← demand flaw (record.member? "color")
  pure ⟨.ofText name.shown row col, .str colour.shown⟩

/-- The tints of a list of records, put one after the other. -/
def readTints (d : Drawing) : List Json → Except Fault Drawing
  | [] => .ok d
  | record :: rest => do
    let t ← readTint record
    readTints (d.putTint t) rest

/-! ## Documents -/

def readList (data : Json) (key : String) : Except Fault (List Json) :=
  match present? data key with
  | none => .ok []
  | some (.arr items) => .ok items
  | some _ => .error (.document (.notAList key))

def read (data : Json) : Except Fault Drawing := do
  let records ← match data.member? "matrices" with
    | some (.arr items) => pure items
    | _ => throw (.document .noMatrices)
  let matrices ← readMatrices .empty records
  let arrows ← (← readList data "arrows").mapM readArrow
  readTints { matrices, arrows } (← readList data "coloredCells")

end GridSketch.Document
