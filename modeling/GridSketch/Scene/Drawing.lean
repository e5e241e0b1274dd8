import GridSketch.Keyed
import GridSketch.Scene.Name
import GridSketch.Scene.Parts
import GridSketch.Sorting

/-!
# Drawings

A drawing is what a scene is about and what is saved: matrices by name, arrows and tints. The
operations here return a new drawing, or nothing where there was nothing to change, or a fault.

Taking a matrix away takes away the arrows and tints that speak of it; giving it another name
changes the name in them. Putting a tint on a cell takes the cell's other tints away, so that the
last tint put is the only one.

A matrix is found by a name that is the same, and what speaks of it is found by an equal one. The
two differ only for a name that is not a number (`Json.equals`): such a matrix can be looked up, but
neither taken away nor renamed, and a tint on such a cell is never found.
-/

set_option autoImplicit false

namespace GridSketch

/-- Matrices, arrows and tints. -/
structure Drawing where
  matrices : Roster Json Matrix := .empty
  arrows : List Arrow := []
  tints : List Tint := []

namespace Drawing

/-! ## Questions -/

def find? (d : Drawing) (name : Json) : Except Fault (Option Matrix) := do
  name.checkKey
  pure (d.matrices.find? name)

def matrix (d : Drawing) (name : Json) : Except Fault Matrix := do
  match ← d.find? name with
  | some m => pure m
  | none => throw (.showing [name] (.unknownMatrix name.shown))

/-- The matrix of a cell, which must be there and have the cell. The role says in the message what
the cell was wanted for. -/
def requireCell (d : Drawing) (r : CellRef) (role : String) : Except Fault Matrix := do
  let m ← d.matrix r.matrix
  if ← m.contains r.row r.col then pure m else throw (.outOfRange role m.rows m.cols)

/-- The matrix of a cell, if it is there and has the cell. -/
def resolve (d : Drawing) (r : CellRef) : Except Fault (Option Matrix) := do
  match ← d.find? r.matrix with
  | some m => if ← m.contains r.row r.col then pure (some m) else pure none
  | none => pure none

def findTint? (d : Drawing) (r : CellRef) : Option Nat :=
  d.tints.findIdx? fun t => t.cell.equals r

def colourAt (d : Drawing) (r : CellRef) : Option Json :=
  (d.tints.find? fun t => t.cell.equals r).map Tint.colour

/-- The matrices in ascending order of their names, which must be comparable. -/
def sorted (d : Drawing) : Except Fault (List (Json × Matrix)) :=
  Sorting.sort (fun a b => Json.comparesTo .less a.1 b.1) d.matrices.entries

theorem exists_sorted {d : Drawing} (h : ∀ e ∈ d.matrices.entries, ∃ s, e.1 = .str s) :
    ∃ es, d.sorted = .ok es ∧ es.Perm d.matrices.entries ∧
      es.Pairwise fun a b => a.1.text?.getD "" ≤ b.1.text?.getD "" := by
  obtain ⟨es, hs, hp, ha⟩ := Sorting.exists_sort
    (fun (a b : Json × Matrix) => Json.comparesTo .less a.1 b.1)
    (fun a b => decide (a.1.text?.getD "" ≤ b.1.text?.getD "")) d.matrices.entries
    (fun a b c h h' => by simpa using String.le_trans (by simpa using h) (by simpa using h'))
    (fun a b => by simpa using String.le_total _ _)
    (fun a ha b hb => by
      obtain ⟨s, hs⟩ := h a ha
      obtain ⟨t, ht⟩ := h b hb
      have hd : decide (s < t) = !decide (t ≤ s) := by
        rw [← decide_not]
        exact decide_eq_decide.mpr String.not_le.symm
      simp only [hs, ht, Json.less_str, Json.text?, Option.getD_some, hd])
  exact ⟨es, hs, hp, by simpa using ha⟩

/-! ## Matrices -/

/-- Puts a matrix under a name, in the place of one that has the name. Reserved words are
refused. -/
def putMatrix (d : Drawing) (name : Json) (m : Matrix) : Except Fault Drawing := do
  Name.checkReserved name
  pure { d with matrices := d.matrices.put name m }

/-- The matrices whose names are not equal to a name. -/
def others (d : Drawing) (name : Json) : Roster Json Matrix :=
  if name.isNaN then d.matrices else d.matrices.erase name

@[simp] theorem others_str (d : Drawing) (s : String) :
    d.others (.str s) = d.matrices.erase (.str s) := by
  simp [others]

/-- Gives a matrix another name; nothing changes where it has that name already. A matrix that had
the new name is replaced by the renamed one, in its place. -/
def rename (d : Drawing) (old new : Json) : Except Fault (Option Drawing) := do
  let m ← d.matrix old
  Name.checkReserved new
  if old.equals new then pure none
  else
    pure <| some
      { matrices := (d.others old).put new m
        arrows := d.arrows.map (Arrow.renamed old new)
        tints := d.tints.map (Tint.renamed old new) }

/-- Takes a matrix away with the arrows and tints that speak of it; nothing changes where there is
none of that name. -/
def delete (d : Drawing) (name : Json) : Except Fault (Option Drawing) := do
  name.checkKey
  if d.matrices.has name then
    pure <| some
      { matrices := d.others name
        arrows := d.arrows.filter fun a => !a.touches name
        tints := d.tints.filter fun t => !t.cell.matrix.equals name }
  else pure none

/-! ## Arrows -/

def checkIndex {α : Type} (items : List α) (use : Indexing) (index : Json) (what : String) :
    Except Fault Nat := do
  match ← index.indexBelow use items.length with
  | some i => pure i
  | none => throw (.showing [index] (.indexOutOfRange what index items.length))

/-- What the entries are called in messages. -/
def arrowWord : String := "Arrow"
def tintWord : String := "Colored cell"

def addArrow (d : Drawing) (a : Arrow) : Drawing :=
  { d with arrows := d.arrows ++ [a] }

/-- Puts an arrow in the place of the one at an index. -/
def updateArrow (d : Drawing) (index : Json) (a : Arrow) : Except Fault Drawing := do
  let i ← checkIndex d.arrows .replace index arrowWord
  pure { d with arrows := d.arrows.set i a }

def deleteArrow (d : Drawing) (index : Json) : Except Fault Drawing := do
  let i ← checkIndex d.arrows .cut index arrowWord
  pure { d with arrows := d.arrows.eraseIdx i }

/-! ## Tints -/

def tintsElsewhere (r : CellRef) (ts : List Tint) : List Tint :=
  ts.filter fun t => !(t.cell == r)

/-- Puts a tint last and takes the cell's other tints away. -/
def putTint (d : Drawing) (t : Tint) : Drawing :=
  { d with tints := tintsElsewhere t.cell d.tints ++ [t] }

/-- No tint of a cell is left where they are taken away. -/
theorem find?_tintsElsewhere_same {c r : CellRef} (h : c == r) (ts : List Tint) :
    (tintsElsewhere c ts).find? (fun t => t.cell.equals r) = none := by
  refine List.find?_eq_none.mpr fun t ht he => ?_
  have hc : (t.cell == c) = false := by simpa using (List.mem_filter.mp ht).2
  rw [BEq.congr_right h, CellRef.beq_of_equals he] at hc
  contradiction

/-- Taking the tints of one cell away hides no tint of another. -/
theorem find?_tintsElsewhere {c r : CellRef} (h : (c == r) = false) (ts : List Tint) :
    (tintsElsewhere c ts).find? (fun t => t.cell.equals r) =
      ts.find? fun t => t.cell.equals r := by
  induction ts with
  | nil => rfl
  | cons t ts ih =>
    cases hr : t.cell.equals r with
    | true =>
      have hc : (t.cell == c) = false := by
        rw [BEq.congr_left (CellRef.beq_of_equals hr), BEq.comm, h]
      simp [tintsElsewhere, hc, hr]
    | false =>
      cases hc : t.cell == c with
      | true => simpa [tintsElsewhere, hc, hr] using ih
      | false => simpa [tintsElsewhere, hc, hr] using ih

/-- The tint put last is the one that shows, and the other cells keep theirs. -/
theorem colourAt_putTint (d : Drawing) (t : Tint) (r : CellRef) :
    (d.putTint t).colourAt r =
      if t.cell.equals r then some t.colour
      else if t.cell == r then none
      else d.colourAt r := by
  rw [colourAt, putTint, List.find?_append]
  cases hs : t.cell == r with
  | true => cases he : t.cell.equals r <;> simp [find?_tintsElsewhere_same hs, he]
  | false =>
    have he : t.cell.equals r = false := by
      rw [Bool.eq_false_iff]
      exact fun he => by simp [CellRef.beq_of_equals he] at hs
    simp [find?_tintsElsewhere hs, he, colourAt]

/-- Puts a tint in the place of the one at an index, and takes the cell's other tints away. At an
index in range that is a fraction there is none, and then the cell is left without a tint. -/
def updateTint (d : Drawing) (index : Json) (t : Tint) : Except Fault Drawing := do
  if ← index.isBelow (.num (.int d.tints.length)) then
    match index.whole? with
    | some i =>
      pure { d with tints :=
        tintsElsewhere t.cell (d.tints.take i.toNat) ++
          t :: tintsElsewhere t.cell (d.tints.drop (i.toNat + 1)) }
    | none => pure { d with tints := tintsElsewhere t.cell d.tints }
  else throw (.showing [index] (.indexOutOfRange tintWord index d.tints.length))

def deleteTint (d : Drawing) (index : Json) : Except Fault Drawing := do
  let i ← checkIndex d.tints .cut index tintWord
  pure { d with tints := d.tints.eraseIdx i }

/-- Takes the first tint of a cell away, if there is one. -/
def clearTint (d : Drawing) (r : CellRef) : Option Drawing :=
  (d.findTint? r).map fun i => { d with tints := d.tints.eraseIdx i }

end Drawing

end GridSketch
