import GridSketch.Proofs.Scene.Success

/-!
# Tints that are put one after the other

A tint that is put comes last and takes the other tints of its cell away. So of many tints that are
put one after the other, a cell is left the last of those on it, and the order is that of the last
ones (`Drawing.latest`). The tints that there were before stay as they were in front of them, but
for those on a cell that is tinted anew (`foldl_putTint`). A form for a rectangle and the list of
tints of a document are both done in this way, the one with a tint for every cell and the other with
whatever tints the document has.
-/

set_option autoImplicit false

namespace GridSketch.Drawing

/-- A tint of the list is on the cell. -/
def tintedBy (ts : List Tint) (r : CellRef) : Bool :=
  ts.any fun t => r == t.cell

/-- The tints of a list that have no other of their cell behind them. -/
def latest : List Tint → List Tint
  | [] => []
  | t :: ts => if tintedBy ts t.cell then latest ts else t :: latest ts

variable {ts : List Tint} {t : Tint}

/-- **Putting tints one after the other** leaves the latest of them, behind the tints of other
cells. -/
theorem foldl_putTint (ts : List Tint) (d : Drawing) :
    ts.foldl putTint d =
      { d with tints := (d.tints.filter fun u => !tintedBy ts u.cell) ++ latest ts } := by
  induction ts generalizing d with
  | nil =>
    have hall : (d.tints.filter fun u => !tintedBy [] u.cell) = d.tints :=
      List.filter_eq_self.mpr fun _ _ => rfl
    rw [List.foldl_nil, hall, latest, List.append_nil]
  | cons t ts ih =>
    have hothers : (d.tints.filter fun u => !tintedBy (t :: ts) u.cell) =
        (tintsElsewhere t.cell d.tints).filter fun u => !tintedBy ts u.cell := by
      rw [tintsElsewhere, List.filter_filter]
      congr 1
      funext u
      simp [tintedBy, Bool.and_comm]
    rw [List.foldl_cons, ih, hothers, latest]
    simp only [putTint, List.filter_append, List.filter_cons, List.filter_nil]
    cases tintedBy ts t.cell with
    | true => simp
    | false => simp

theorem tintedBy_congr {r q : CellRef} (h : r == q) (ts : List Tint) :
    tintedBy ts r = tintedBy ts q := by
  rw [tintedBy, tintedBy]
  congr 1
  funext t
  exact BEq.congr_left h

/-- What is left of a cell is tinted still. -/
theorem tintedBy_latest (ts : List Tint) (r : CellRef) :
    tintedBy (latest ts) r = tintedBy ts r := by
  induction ts with
  | nil => rfl
  | cons t ts ih =>
    have hcons : tintedBy (t :: ts) r = (r == t.cell || tintedBy ts r) := List.any_cons
    rw [latest]
    split
    · rename_i hagain
      rw [ih, hcons]
      cases hsame : r == t.cell with
      | false => rfl
      | true => rw [tintedBy_congr hsame, hagain, Bool.or_true]
    · rw [tintedBy, List.any_cons, ← tintedBy, ih, hcons]

/-- No two tints that are left are on one cell. -/
theorem pairwise_latest (ts : List Tint) :
    (latest ts).Pairwise fun t u => (t.cell == u.cell) = false := by
  induction ts with
  | nil => exact .nil
  | cons t ts ih =>
    rw [latest]
    split
    · exact ih
    · rename_i hlast
      refine List.pairwise_cons.mpr ⟨?_, ih⟩
      intro u hu
      rw [Bool.not_eq_true, ← tintedBy_latest, tintedBy, List.any_eq_false] at hlast
      simpa using hlast u hu

/-- A tint is left where it stands in the list with no other of its cell behind it. -/
theorem mem_latest_iff : t ∈ latest ts ↔
    ∃ before behind, ts = before ++ t :: behind ∧ tintedBy behind t.cell = false := by
  induction ts with
  | nil => simp [latest]
  | cons u ts ih =>
    have hstep : t ∈ latest (u :: ts) ↔
        t = u ∧ tintedBy ts u.cell = false ∨ t ∈ latest ts := by
      rw [latest]
      cases tintedBy ts u.cell with
      | true => simp
      | false => simp
    rw [hstep, ih]
    constructor
    · rintro (⟨rfl, hlast⟩ | ⟨before, behind, rfl, hlast⟩)
      · exact ⟨[], ts, rfl, hlast⟩
      · exact ⟨u :: before, behind, rfl, hlast⟩
    · rintro ⟨before, behind, heq, hlast⟩
      cases before with
      | nil =>
        obtain ⟨rfl, rfl⟩ := List.cons.inj heq
        exact Or.inl ⟨rfl, hlast⟩
      | cons u' before =>
        obtain ⟨rfl, rfl⟩ := List.cons.inj heq
        exact Or.inr ⟨before, behind, rfl, hlast⟩

/-- Of tints of different cells, one is on the cell of each. -/
theorem filter_cell_of_mem (h : ts.Pairwise fun t u => (t.cell == u.cell) = false) (ht : t ∈ ts) :
    (ts.filter fun u => u.cell == t.cell) = [t] := by
  obtain ⟨before, behind, rfl⟩ := List.append_of_mem ht
  obtain ⟨_, hbehind, hbefore⟩ := List.pairwise_append.mp h
  have hfront : (before.filter fun u => u.cell == t.cell) = [] := by
    refine List.filter_eq_nil_iff.mpr ?_
    intro u hu
    simpa using hbefore u hu t List.mem_cons_self
  have hback : (behind.filter fun u => u.cell == t.cell) = [] := by
    refine List.filter_eq_nil_iff.mpr ?_
    intro u hu
    rw [BEq.comm]
    simpa using (List.pairwise_cons.mp hbehind).1 u hu
  have hself : (t.cell == t.cell) = true := BEq.rfl
  rw [List.filter_append, List.filter_cons, if_pos hself, hfront, hback, List.nil_append]

/-- Tints of different cells are all left. -/
theorem latest_eq_self (h : ts.Pairwise fun t u => (t.cell == u.cell) = false) :
    latest ts = ts := by
  induction ts with
  | nil => rfl
  | cons t ts ih =>
    obtain ⟨hfirst, hrest⟩ := List.pairwise_cons.mp h
    have hlast : tintedBy ts t.cell = false := by
      rw [tintedBy, List.any_eq_false]
      intro u hu
      simpa using hfirst u hu
    rw [latest, hlast, if_neg Bool.false_ne_true, ih hrest]

/-- The same with one colour for many cells. -/
theorem foldl_putTint_cells (rs : List CellRef) (colour : Json) (d : Drawing) :
    rs.foldl (fun d r => d.putTint ⟨r, colour⟩) d =
      { d with
        tints := (d.tints.filter fun u => !tintedBy (rs.map fun r => ⟨r, colour⟩) u.cell) ++
          latest (rs.map fun r => ⟨r, colour⟩) } := by
  rw [← foldl_putTint, List.foldl_map]

theorem matrices_clearTint (d : Drawing) (r : CellRef) :
    ((d.clearTint r).getD d).matrices = d.matrices := by
  cases h : d.clearTint r with
  | none => rfl
  | some d' =>
    obtain ⟨i, rfl⟩ := clearTint_eq_some h
    rfl

end GridSketch.Drawing
