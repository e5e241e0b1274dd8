import GridSketch.Proofs.Document.RoundTrip
import GridSketch.Proofs.Session.Entries
import GridSketch.View.Picking
import Mathlib.Tactic.FieldSimp
import Mathlib.Tactic.Linarith
import Mathlib.Tactic.Ring

/-!
# Picking inverts drawing

A place in a matrix is drawn at a point of the screen (`Viewport.dataToScreen`), and the cell under
a point is looked up from there (`Drawing.cellAt`). On the way the axis that goes down changes its
sign twice and comes back with a division by the scale, and a floor stands at the end. Over exact
fractions, where nothing is rounded, the one undoes the other: the cell under the point of a place
is the cell in whose unit square the place is, with the left and the upper edge of the square and
without the others.

Where matrices overlap the one with the least name is picked, whichever is drawn on top. So this is
a matter of the *foremost* matrix around a place (`Drawing.Foremost`). The search for a cell and
that for a matrix both find it (`picks_foremost`), which is what the main result
(`picking_inverts_drawing`) is read off from.

The drawings here are those whose matrices have texts for names and integers for sizes
(`Drawing.Regular`). A session has no others (`Session.regular_after`).
-/

set_option autoImplicit false

namespace GridSketch

/-! ## 1. The plane and the screen -/

namespace Viewport

variable {v : Viewport Rat}

/-- The way back from the screen, to the plane with its second axis upwards. -/
theorem toScene_dataToScreen (hv : v.scale ≠ 0) (q : Point Rat) :
    v.toScene (v.dataToScreen q) = ⟨q.x, -q.y⟩ := by
  simp only [toScene, dataToScreen, toScreen, Point.mk.injEq]
  constructor
  · field_simp
    ring
  · field_simp
    ring

/-- Every point of the screen is where some place is drawn. -/
theorem exists_dataToScreen (hv : v.scale ≠ 0) (p : Point Rat) : ∃ q, p = v.dataToScreen q := by
  refine ⟨⟨(v.toScene p).x, -(v.toScene p).y⟩, ?_⟩
  obtain ⟨x, y⟩ := p
  simp only [toScene, dataToScreen, toScreen, Point.mk.injEq]
  constructor
  · field_simp
    ring
  · field_simp
    ring

end Viewport

/-! ## 2. Matrices -/

namespace Matrix

/-- The corner of a matrix, in exact coordinates. -/
def corner (m : Matrix) : Point Rat :=
  m.position.ofFloats

/-- The place in a matrix that is a part of a row and of a column away from a cell. -/
def place (m : Matrix) (row col : Int) (u w : Rat) : Point Rat :=
  ⟨m.corner.x + col + u, m.corner.y + row + w⟩

/-- Whether a place is within the bounds of a matrix. The right and the lower edge are not. -/
def surrounds (m : Matrix) (q : Point Rat) : Bool :=
  match m.rows, m.cols with
  | .num (.int rows), .num (.int cols) =>
    decide (m.corner.x ≤ q.x ∧ q.x < m.corner.x + cols) &&
      decide (m.corner.y ≤ q.y ∧ q.y < m.corner.y + rows)
  | _, _ => false

/-- The cell that a place is counted to be in, from the corner. -/
def cellOver (m : Matrix) (name : Json) (q : Point Rat) : CellRef :=
  ⟨name, .num (.int (q.y - m.corner.y).floor), .num (.int (q.x - m.corner.x).floor)⟩

variable {m : Matrix}

theorem surrounds_sized {rows cols : Int} (hrows : m.rows = .num (.int rows))
    (hcols : m.cols = .num (.int cols)) (q : Point Rat) :
    m.surrounds q = (decide (m.corner.x ≤ q.x ∧ q.x < m.corner.x + cols) &&
      decide (m.corner.y ≤ q.y ∧ q.y < m.corner.y + rows)) := by
  simp only [surrounds, hrows, hcols]

theorem within_int (start k : Rat) (n : Int) :
    within start (.num (.int n)) k = .ok (decide (start ≤ k ∧ k < start + n)) := by
  by_cases hstart : start ≤ k
  · simp only [within, hstart, true_and]
    rfl
  · simp [within, hstart]

theorem covers_eq (hm : m.Storable) (q : Point Rat) :
    m.covers (⟨q.x, -q.y⟩ : Point Rat) = .ok (m.surrounds q) := by
  obtain ⟨rows, cols, hm⟩ := hm
  have hrows : m.rows = .num (.int rows) := by rw [hm]; rfl
  have hcols : m.cols = .num (.int cols) := by rw [hm]; rfl
  have hcovers : m.covers (⟨q.x, -q.y⟩ : Point Rat) = within m.corner.x m.cols q.x >>= fun b =>
      if b then within m.corner.y m.rows (- -q.y) else pure false := rfl
  rw [hcovers, surrounds_sized hrows hcols, hrows, hcols, within_int, within_int, neg_neg]
  cases decide (m.corner.x ≤ q.x ∧ q.x < m.corner.x + cols) with
  | true => rfl
  | false => rfl

/-- The place is in the unit square of a cell, which is there. -/
def Shows (m : Matrix) (row col : Int) (q : Point Rat) : Prop :=
  m.contains (.num (.int row)) (.num (.int col)) = .ok true ∧
    ∃ u w : Rat, (0 ≤ u ∧ u < 1) ∧ (0 ≤ w ∧ w < 1) ∧ q = m.place row col u w

/-- The whole part of a distance is its floor. -/
theorem floor_eq_iff {start k : Rat} {n : Int} :
    (k - start).floor = n ↔ ∃ u : Rat, (0 ≤ u ∧ u < 1) ∧ k = start + n + u := by
  constructor
  · rintro rfl
    have hle := Rat.floor_le (k - start)
    have hlt := Rat.lt_floor_add_one (k - start)
    push_cast at hlt
    exact ⟨k - start - ((k - start).floor : Int), ⟨by linarith, by linarith⟩, by ring⟩
  · rintro ⟨u, ⟨hu, hu'⟩, rfl⟩
    have hle : n ≤ (start + n + u - start).floor := by
      rw [Rat.le_floor_iff]
      linarith
    have hlt : (start + n + u - start).floor < n + 1 := by
      rw [Rat.floor_lt_iff]
      push_cast
      linarith
    omega

theorem Storable.exists_size (hm : m.Storable) :
    ∃ rows cols, m.rows = .num (.int rows) ∧ m.cols = .num (.int cols) ∧
      ∀ row col : Int, m.contains (.num (.int row)) (.num (.int col)) =
        .ok (decide (0 ≤ row ∧ row < rows) && decide (0 ≤ col ∧ col < cols)) := by
  obtain ⟨rows, cols, hm⟩ := hm
  refine ⟨rows, cols, by rw [hm]; rfl, by rw [hm]; rfl, fun row col => ?_⟩
  rw [hm]
  exact contains_sized _ _ _ _ _ _

/-- A distance is within a length exactly where its whole part is an index below it. -/
theorem floor_lt_iff {start k : Rat} {n : Int} :
    (start ≤ k ∧ k < start + n) ↔ 0 ≤ (k - start).floor ∧ (k - start).floor < n := by
  rw [Rat.le_floor_iff, Rat.floor_lt_iff]
  constructor
  · rintro ⟨hle, hlt⟩
    exact ⟨by push_cast; linarith, by linarith⟩
  · rintro ⟨hle, hlt⟩
    push_cast at hle
    exact ⟨by linarith, by linarith⟩

/-- The cell that a place is counted to be in is there if the place is within the bounds. -/
theorem contains_cellOver (hm : m.Storable) (q : Point Rat) :
    m.contains (.num (.int (q.y - m.corner.y).floor)) (.num (.int (q.x - m.corner.x).floor)) =
      .ok (m.surrounds q) := by
  obtain ⟨rows, cols, hrows, hcols, hcontains⟩ := hm.exists_size
  rw [hcontains, surrounds_sized hrows hcols, decide_eq_decide.mpr floor_lt_iff,
    decide_eq_decide.mpr floor_lt_iff, Bool.and_comm]

/-- The squares of its cells make up what is within the bounds of a matrix, and a place is in that
of the cell that it is counted to be in. -/
theorem shows_iff (hm : m.Storable) {row col : Int} {q : Point Rat} :
    m.Shows row col q ↔ m.surrounds q = true ∧ (q.y - m.corner.y).floor = row ∧
      (q.x - m.corner.x).floor = col := by
  have hcontains := contains_cellOver hm q
  constructor
  · rintro ⟨hcell, u, w, hu, hw, rfl⟩
    have hrow : ((m.place row col u w).y - m.corner.y).floor = row :=
      floor_eq_iff.mpr ⟨w, hw, rfl⟩
    have hcol : ((m.place row col u w).x - m.corner.x).floor = col :=
      floor_eq_iff.mpr ⟨u, hu, rfl⟩
    rw [hrow, hcol, hcell] at hcontains
    exact ⟨(Except.ok.inj hcontains).symm, hrow, hcol⟩
  · rintro ⟨hin, rfl, rfl⟩
    obtain ⟨u, hu, hx⟩ := floor_eq_iff.mp (rfl : (q.x - m.corner.x).floor = _)
    obtain ⟨w, hw, hy⟩ := floor_eq_iff.mp (rfl : (q.y - m.corner.y).floor = _)
    refine ⟨hcontains.trans (congrArg _ hin), u, w, hu, hw, ?_⟩
    exact Point.ext hx hy

/-- Where a place is within the bounds of a matrix, there is a cell to be picked. -/
theorem pick_eq (hm : m.Storable) (name : Json) (q : Point Rat) :
    m.pick name (⟨q.x, -q.y⟩ : Point Rat) =
      .ok (if m.surrounds q then some (m.cellOver name q) else none) := by
  have hunder : m.cellUnder (⟨q.x, -q.y⟩ : Point Rat) =
      .ok ((- -q.y - m.corner.y).floor, (q.x - m.corner.x).floor) := rfl
  rw [neg_neg] at hunder
  rw [pick, covers_eq hm]
  cases hin : m.surrounds q with
  | false => rfl
  | true =>
    have hcell := contains_cellOver hm q
    rw [hin] at hcell
    simp only [hunder, hcell, bind, Except.bind, if_true]
    rfl

/-- The size of a matrix is a pair of integers when it is defined, and nothing changes it. -/
theorem robust_storable : Robust fun _ m => m.Storable where
  define := fun _ => ⟨_, _, rfl⟩
  move := by
    rintro _ m p ⟨rows, cols, hm⟩
    exact ⟨rows, cols, by rw [hm]; rfl⟩
  copy := by
    rintro _ m p _ ⟨rows, cols, hm⟩
    exact ⟨rows, cols, by rw [hm]; rfl⟩
  setValue := by
    rintro _ m row col v ⟨rows, cols, hm⟩
    unfold withValue
    split
    · exact ⟨rows, cols, by rw [hm]; rfl⟩
    · exact ⟨rows, cols, hm⟩
  rename := fun _ hm => hm

end Matrix

/-! ## 3. The foremost matrix -/

section firstAnswer

variable {α β : Type} {ask : α → Except Fault (Option β)} {as : List α}

/-- What is answered is the answer to a question, and those before it had none. -/
theorem firstAnswer_eq_some {b : β} (h : firstAnswer ask as = .ok (some b)) :
    ∃ before a behind, as = before ++ a :: behind ∧ ask a = .ok (some b) ∧
      ∀ x ∈ before, ask x = .ok none := by
  induction as with
  | nil => exact nomatch h
  | cons a rest ih =>
    obtain ⟨answer, hanswer, h⟩ := bind_eq_ok.mp h
    cases answer with
    | some b' => exact ⟨[], a, rest, rfl, hanswer.trans h, List.forall_mem_nil _⟩
    | none =>
      obtain ⟨before, a', behind, rfl, ha', hbefore⟩ := ih h
      exact ⟨a :: before, a', behind, rfl, ha', List.forall_mem_cons.mpr ⟨hanswer, hbefore⟩⟩

theorem firstAnswer_eq_none (h : firstAnswer ask as = .ok none) : ∀ a ∈ as, ask a = .ok none := by
  induction as with
  | nil => exact List.forall_mem_nil _
  | cons a rest ih =>
    obtain ⟨answer, hanswer, h⟩ := bind_eq_ok.mp h
    cases answer with
    | some b => exact nomatch h
    | none => exact List.forall_mem_cons.mpr ⟨hanswer, ih h⟩

/-- If every question has an answer or none, the first answer is that of the first that has. -/
theorem firstAnswer_eq {has : α → Bool} {answer : α → β}
    (h : ∀ a ∈ as, ask a = .ok (if has a then some (answer a) else none)) :
    firstAnswer ask as = .ok ((as.find? has).map answer) := by
  induction as with
  | nil => rfl
  | cons a rest ih =>
    rw [List.forall_mem_cons] at h
    rw [firstAnswer, h.1, List.find?_cons]
    cases has a with
    | true => rfl
    | false => exact ih h.2

end firstAnswer

namespace Drawing

/-- Every matrix has a text for a name and two integers for a size. -/
def Regular (d : Drawing) : Prop :=
  d.Entries fun _ m => m.Storable

/-- Some matrix with a lesser name is around the place. -/
def Hides (d : Drawing) (name : String) (q : Point Rat) : Prop :=
  ∃ name' m', name' < name ∧ d.matrices.find? (.str name') = some m' ∧ m'.surrounds q = true

/-- The matrix is around the place, and is not hidden there. -/
structure Foremost (d : Drawing) (name : String) (m : Matrix) (q : Point Rat) : Prop where
  found : d.matrices.find? (.str name) = some m
  around : m.surrounds q = true
  seen : ¬ d.Hides name q

variable {d : Drawing} {q : Point Rat}

/-- One matrix at most is the foremost. -/
theorem Foremost.unique {name name' : String} {m m' : Matrix} (h : d.Foremost name m q)
    (h' : d.Foremost name' m' q) : name = name' ∧ m = m' := by
  have hname : name = name' := by
    refine String.le_antisymm (String.not_lt.mp fun hlt => ?_) (String.not_lt.mp fun hlt => ?_)
    · exact h.seen ⟨name', m', hlt, h'.found, h'.around⟩
    · exact h'.seen ⟨name, m, hlt, h.found, h.around⟩
  subst hname
  exact ⟨rfl, Option.some.inj (h.found.symm.trans h'.found)⟩

/-- The entries of a drawing that are searched are those that it has, the least name first. -/
theorem Regular.exists_sorted (hd : d.Regular) :
    ∃ es, d.sorted = .ok es ∧ (∀ e, e ∈ es ↔ e ∈ d.matrices.entries) ∧
      es.Pairwise fun a b => a.1.text?.getD "" ≤ b.1.text?.getD "" := by
  have htexts : ∀ e ∈ d.matrices.entries, ∃ s, e.1 = .str s := by
    intro e he
    obtain ⟨name, hname, _⟩ := hd e he
    exact ⟨name, hname⟩
  obtain ⟨es, hes, hperm, hsorted⟩ := Drawing.exists_sorted htexts
  exact ⟨es, hes, fun e => hperm.mem_iff, hsorted⟩

/-- What is found first among sorted entries is the foremost matrix. -/
theorem foremost_of_find? (hd : d.Regular) {es : List (Json × Matrix)}
    (hes : ∀ e, e ∈ es ↔ e ∈ d.matrices.entries)
    (hsorted : es.Pairwise fun a b => a.1.text?.getD "" ≤ b.1.text?.getD "") {e : Json × Matrix}
    (h : es.find? (fun e => e.2.surrounds q) = some e) :
    ∃ name, e.1 = .str name ∧ d.Foremost name e.2 q := by
  obtain ⟨haround, before, behind, rfl, hbefore⟩ := List.find?_eq_some_iff_append.mp h
  have hmem : e ∈ d.matrices.entries := (hes e).mp (List.mem_append_right _ List.mem_cons_self)
  obtain ⟨name, hname, _⟩ := hd e hmem
  refine ⟨name, hname, ?_, haround, ?_⟩
  · rw [← hname]
    exact Roster.find?_of_mem hmem
  · rintro ⟨name', m', hlt, hm', haround'⟩
    -- an entry with a lesser name stands in front
    have hmem' := Roster.mem_of_find?_str hm'
    have hbehind := List.pairwise_append.mp hsorted |>.2.1
    rcases List.mem_append.mp ((hes _).mpr hmem') with hfront | hback
    · exact absurd haround' (by simpa using hbefore _ hfront)
    · rcases List.mem_cons.mp hback with rfl | hback
      · obtain rfl := Json.str.inj hname
        exact absurd hlt (String.lt_irrefl _)
      · have hle := (List.pairwise_cons.mp hbehind).1 _ hback
        rw [hname] at hle
        exact absurd hlt (String.not_lt.mpr hle)

/-- **Both searches find the foremost matrix.** -/
theorem picks_foremost (hd : d.Regular) {v : Viewport Rat} (hv : v.scale ≠ 0) (q : Point Rat) :
    ∃ found : Option (Json × Matrix),
      d.cellAt v (v.dataToScreen q) = .ok (found.map fun e => e.2.cellOver e.1 q) ∧
      d.matrixAt v (v.dataToScreen q) = .ok (found.map Prod.fst) ∧
      (∀ e, found = some e → ∃ name, e.1 = .str name ∧ d.Foremost name e.2 q) ∧
      ∀ name m, d.Foremost name m q → found = some (.str name, m) := by
  obtain ⟨es, hes, hmem, hsorted⟩ := hd.exists_sorted
  have hstorable : ∀ e ∈ es, e.2.Storable := by
    intro e he
    obtain ⟨_, _, hm⟩ := hd e ((hmem e).mp he)
    exact hm
  have hfound : ∀ e, es.find? (fun e => e.2.surrounds q) = some e →
      ∃ name, e.1 = .str name ∧ d.Foremost name e.2 q :=
    fun e he => foremost_of_find? hd hmem hsorted he
  refine ⟨es.find? fun e => e.2.surrounds q, ?_, ?_, hfound, ?_⟩
  · rw [cellAt, cellAtScene, Viewport.toScene_dataToScreen hv, hes]
    exact firstAnswer_eq fun e he => Matrix.pick_eq (hstorable e he) e.1 q
  · rw [matrixAt, Viewport.toScene_dataToScreen hv, hes]
    refine firstAnswer_eq fun e he => ?_
    rw [Matrix.covers_eq (hstorable e he)]
    cases e.2.surrounds q with
    | true => rfl
    | false => rfl
  · intro name m hforemost
    have hentry := Roster.mem_of_find?_str hforemost.found
    cases hfirst : es.find? fun e => e.2.surrounds q with
    | none =>
      have hnone := List.find?_eq_none.mp hfirst _ ((hmem _).mpr hentry)
      exact absurd hforemost.around hnone
    | some e =>
      obtain ⟨name', hname', hforemost'⟩ := hfound e hfirst
      obtain ⟨hname, hm⟩ := hforemost.unique hforemost'
      obtain ⟨key', m'⟩ := e
      simp only at hname' hm
      rw [hname', hname, hm]

/-! ## 4. Picking -/

theorem resolve_eq_some {r : CellRef} {m : Matrix} (h : d.resolve r = .ok (some m)) :
    d.matrices.find? r.matrix = some m ∧ m.contains r.row r.col = .ok true := by
  simp only [resolve, find?, bind_eq_ok, pure_eq_ok] at h
  obtain ⟨_, ⟨_, _, rfl⟩, h⟩ := h
  split at h
  · rename_i m' hm
    obtain ⟨b, hb, h⟩ := bind_eq_ok.mp h
    cases b with
    | false => cases h
    | true =>
      obtain rfl := Option.some.inj (Except.ok.inj h)
      exact ⟨hm, hb⟩
  · cases h

/-- The middle of a cell that is there is drawn where the middle of its square is. -/
theorem cellCentre_eq {name : String} {row col : Int} {m : Matrix} (v : Viewport Rat)
    (h : d.resolve (.ofText name row col) = .ok (some m)) :
    d.cellCentre v (.ofText name row col) =
      .ok (some (v.dataToScreen (m.place row col (1 / 2) (1 / 2)))) := by
  have hcentre : d.cellCentre v (.ofText name row col) =
      .ok (some (v.dataToScreen (m.place row col 0.5 0.5))) := by
    rw [cellCentre, h]
    rfl
  have hhalf : (0.5 : Rat) = 1 / 2 := by norm_num
  rw [hcentre, hhalf]

/-- The cell of a place is picked at the point where the place is drawn, unless the matrix is
hidden there. -/
theorem cellAt_of_shows (hd : d.Regular) {v : Viewport Rat} (hv : v.scale ≠ 0) {name : String}
    {m : Matrix} {row col : Int} (hm : d.matrices.find? (.str name) = some m)
    (hshows : m.Shows row col q) (hhides : ¬ d.Hides name q) :
    d.cellAt v (v.dataToScreen q) = .ok (some (.ofText name row col)) := by
  obtain ⟨_, _, hstorable⟩ := hd.of_find? hm
  obtain ⟨haround, hrow, hcol⟩ := (Matrix.shows_iff hstorable).mp hshows
  obtain ⟨found, hcell, _, _, hforemost⟩ := picks_foremost hd hv q
  rw [hcell, hforemost name m ⟨hm, haround, hhides⟩, Option.map_some,
    Matrix.cellOver, hrow, hcol]
  rfl

/-- **Picking inverts drawing.** At the point where a place in the square of a cell is drawn, that
cell is picked, unless a matrix with a lesser name is around the place; so it is at the middle of a
cell, where the ends of arrows are. Whatever is picked at a point of the screen, the point is where
a place in its square is drawn, and it is not hidden there. And wherever a cell is picked, its
matrix is, and no matrix anywhere else. A scale that is not nought is all that it takes; those of
views are between ten and a hundred. -/
theorem picking_inverts_drawing (hd : d.Regular) {v : Viewport Rat} (hv : v.scale ≠ 0) :
    (∀ (name : String) (m : Matrix) (row col : Int) (u w : Rat),
      d.matrices.find? (.str name) = some m →
      m.contains (.num (.int row)) (.num (.int col)) = .ok true →
      (0 ≤ u ∧ u < 1) → (0 ≤ w ∧ w < 1) → ¬ d.Hides name (m.place row col u w) →
      d.cellAt v (v.dataToScreen (m.place row col u w)) = .ok (some (.ofText name row col))) ∧
    (∀ (name : String) (m : Matrix) (row col : Int),
      d.resolve (.ofText name row col) = .ok (some m) →
      ∃ p, d.cellCentre v (.ofText name row col) = .ok (some p) ∧
        (¬ d.Hides name (m.place row col (1 / 2) (1 / 2)) →
          d.cellAt v p = .ok (some (.ofText name row col)))) ∧
    (∀ (p : Point Rat) (r : CellRef), d.cellAt v p = .ok (some r) →
      ∃ (name : String) (m : Matrix) (row col : Int) (u w : Rat),
        r = .ofText name row col ∧ d.matrices.find? (.str name) = some m ∧
        m.contains (.num (.int row)) (.num (.int col)) = .ok true ∧
        (0 ≤ u ∧ u < 1) ∧ (0 ≤ w ∧ w < 1) ∧ p = v.dataToScreen (m.place row col u w) ∧
        ¬ d.Hides name (m.place row col u w)) ∧
    ∀ p : Point Rat, ∃ found, d.cellAt v p = .ok found ∧
      d.matrixAt v p = .ok (found.map CellRef.matrix) := by
  refine ⟨?_, ?_, ?_, ?_⟩
  · intro name m row col u w hm hcell hu hw hhides
    exact cellAt_of_shows hd hv hm ⟨hcell, u, w, hu, hw, rfl⟩ hhides
  · intro name m row col hresolve
    refine ⟨_, cellCentre_eq v hresolve, fun hhides => ?_⟩
    obtain ⟨hm, hcell⟩ := resolve_eq_some hresolve
    exact cellAt_of_shows hd hv hm
      ⟨hcell, 1 / 2, 1 / 2, ⟨by norm_num, by norm_num⟩, ⟨by norm_num, by norm_num⟩, rfl⟩ hhides
  · intro p r hr
    obtain ⟨q, rfl⟩ := Viewport.exists_dataToScreen hv p
    obtain ⟨found, hcell, _, hforemost, _⟩ := picks_foremost hd hv q
    rw [hcell] at hr
    obtain ⟨e, rfl, rfl⟩ := Option.map_eq_some_iff.mp (Except.ok.inj hr)
    obtain ⟨name, hname, hm, haround, hhides⟩ := hforemost e rfl
    obtain ⟨_, _, hstorable⟩ := hd.of_find? hm
    obtain ⟨hin, u, w, hu, hw, hq⟩ := (Matrix.shows_iff hstorable).mpr ⟨haround, rfl, rfl⟩
    refine ⟨name, e.2, _, _, u, w, ?_, hm, hin, hu, hw, congrArg _ hq, hq ▸ hhides⟩
    rw [Matrix.cellOver, hname]
    rfl
  · intro p
    obtain ⟨q, rfl⟩ := Viewport.exists_dataToScreen hv p
    obtain ⟨found, hcell, hmatrix, _, _⟩ := picks_foremost hd hv q
    refine ⟨_, hcell, ?_⟩
    rw [hmatrix, Option.map_map]
    rfl

/-- No matrix has a lesser name than the first one, so it is found at the middle of its cells. -/
theorem picking_inverts_drawing_initial :
    Regular Scene.initial ∧ (Viewport.initial : Viewport Rat).scale ≠ 0 ∧
      ∃ p, Scene.initial.cellCentre Viewport.initial (.ofText "A" 1 1) = .ok (some p) ∧
        Scene.initial.cellAt (Viewport.initial : Viewport Rat) p =
          .ok (some (.ofText "A" 1 1)) := by
  have hregular : Regular Scene.initial := Scene.entries_initial Matrix.robust_storable
  have hscale : (Viewport.initial : Viewport Rat).scale ≠ 0 := by
    change (40.0 : Rat) ≠ 0
    norm_num
  refine ⟨hregular, hscale, ?_⟩
  obtain ⟨p, hcentre, hcell⟩ :=
    (picking_inverts_drawing hregular hscale).2.1 "A" _ 1 1 rfl
  refine ⟨p, hcentre, hcell ?_⟩
  rintro ⟨name, m, hlt, hm, _⟩
  obtain ⟨key, hentry, hkey⟩ := Keyed.mem_of_find? hm
  obtain rfl := Json.eq_str_of_beq hkey
  have hname : name = "A" ∨ name = "B" := by
    rcases List.mem_cons.mp hentry with h | h
    · exact .inl (Json.str.inj (congrArg Prod.fst h))
    · exact .inr (Json.str.inj (congrArg Prod.fst (List.mem_singleton.mp h)))
  rcases hname with rfl | rfl
  · exact absurd hlt (by decide)
  · exact absurd hlt (by decide)

end Drawing

/-! ## 5. The drawings of a session -/

namespace Session

variable {K : Type} [Coordinate K] {s : Session K}

theorem regular_step (hs : s.Keeps Drawing.Regular) (op : Op K) :
    (s.step op).session.Keeps Drawing.Regular := by
  refine entries_step Matrix.robust_storable hs fun data d _ hread e he => ?_
  obtain ⟨name, _, hname⟩ := (Document.storable_read hread).names e he
  exact ⟨name, hname, (Document.storable_read hread).matrices e he⟩

/-- **Whatever is done in a session, its matrices have texts for names and integers for sizes.** -/
theorem regular_after (ops : List (Op K)) :
    ∀ s ∈ (opening : Session K).states ops, s.scene.Regular := by
  have hopening : (opening : Session K).Keeps Drawing.Regular :=
    keeps_start (Scene.entries_initial Matrix.robust_storable)
  have hkept : ∀ s ∈ (opening : Session K).states ops, s.Keeps Drawing.Regular :=
    forall_states (I := Keeps Drawing.Regular) (fun _ op h => regular_step h op) hopening ops
  exact fun s hs => (hkept s hs).1

end Session

end GridSketch
