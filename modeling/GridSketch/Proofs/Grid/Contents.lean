import GridSketch.Grid.Make
import GridSketch.Proofs.Scene.Success
import Mathlib.Data.Nat.Choose.Basic
import Mathlib.Tactic.Ring

/-!
# What stands in a new grid

A new grid has a number in each cell that follows from the row and the column alone (`entry`). For
five of the fillings that is how the grid is made. A triangle is made another way: its cells are
marked and numbered one after the other, by a count that runs through the rows. So the number of a
cell is one more than the marked cells in the rows above it and in front of it in its own row.

`Counts` says what a formula for these cells has to satisfy: a step from column to column, and a
step from row to row. Any numbering follows from such a formula (`Counts.numberRows_eq`), and the
two triangles each have one, with triangular sums in it (`counts_upper`, `counts_lower`). The same
count makes the marked cells, read row by row, the numbers from the first one on
(`numbers_numberRows`), as many as there are (`Counts.count_eq`).

The main statement is `generate_contents`: which sizes are refused, and what stands in the grid for
all the others.
-/

set_option autoImplicit false

namespace GridSketch.Grid

/-! ## 1. Numbering by a running count -/

/-- In a grid of marks, so many cells of a row are marked in front of a column (`before`), and so
many in the rows above it (`above`). -/
structure Counts (mark : Nat → Nat → Bool) (rows cols : Nat) (above : Nat → Nat)
    (before : Nat → Nat → Nat) : Prop where
  above_zero : above 0 = 0
  above_succ : ∀ i, i < rows → above (i + 1) = above i + before i cols
  before_zero : ∀ i, before i 0 = 0
  before_succ : ∀ i j, before i (j + 1) = before i j + (mark i j).toNat

/-- The numbers of a part of a row, where the count of the marks in front of a column is known. -/
theorem numberRow_range' {mark : Nat → Bool} {before : Nat → Nat}
    (hsucc : ∀ j, before (j + 1) = before j + (mark j).toNat) (next j m : Nat) :
    numberRow ((List.range' j m).map mark) (next + before j) =
      ((List.range' j m).map fun j => if mark j then ((next + before j : Nat) : Int) else 0,
        next + before (j + m)) := by
  induction m generalizing j with
  | zero => rfl
  | succ m ih =>
    have hrest := ih (j + 1)
    have hlast : j + 1 + m = j + (m + 1) := by omega
    rw [hsucc, hlast] at hrest
    rw [List.range'_succ, List.map_cons, List.map_cons]
    cases hmark : mark j with
    | true =>
      rw [hmark, Bool.toNat_true, ← Nat.add_assoc] at hrest
      simp only [numberRow, hrest, if_true]
    | false =>
      rw [hmark, Bool.toNat_false, Nat.add_zero (before j)] at hrest
      simp only [numberRow, hrest, if_neg Bool.false_ne_true]

namespace Counts

variable {mark : Nat → Nat → Bool} {rows cols : Nat} {above : Nat → Nat}
  {before : Nat → Nat → Nat}

theorem numberRow_eq (h : Counts mark rows cols above before) (i next : Nat) :
    numberRow ((List.range cols).map (mark i)) next =
      ((List.range cols).map fun j => if mark i j then ((next + before i j : Nat) : Int) else 0,
        next + before i cols) := by
  have hrow := numberRow_range' (h.before_succ i) next 0 cols
  rwa [h.before_zero, Nat.add_zero, Nat.zero_add, ← List.range_eq_range'] at hrow

theorem numberRows_range' (h : Counts mark rows cols above before) (next i m : Nat)
    (hm : i + m ≤ rows) :
    numberRows ((List.range' i m).map fun i => (List.range cols).map (mark i)) (next + above i) =
      (List.range' i m).map fun i => (List.range cols).map fun j =>
        if mark i j then ((next + above i + before i j : Nat) : Int) else 0 := by
  induction m generalizing i with
  | zero => rfl
  | succ m ih =>
    have hrest := ih (i + 1) (by omega)
    rw [h.above_succ i (by omega), ← Nat.add_assoc] at hrest
    rw [List.range'_succ, List.map_cons, List.map_cons]
    simp only [numberRows, h.numberRow_eq, hrest]

/-- **A grid numbered by a running count has in each marked cell the number after those of the
marked cells above and before it.** -/
theorem numberRows_eq (h : Counts mark rows cols above before) (next : Nat) :
    numberRows (tabulate rows cols mark) next = tabulate rows cols fun i j =>
      if mark i j then ((next + above i + before i j : Nat) : Int) else 0 := by
  have hrows := h.numberRows_range' next 0 rows (by omega)
  rwa [h.above_zero, Nat.add_zero, ← List.range_eq_range'] at hrows

theorem count_row (h : Counts mark rows cols above before) (i : Nat) :
    ((List.range cols).map (mark i)).count true = before i cols := by
  have hnext := numberRow_next ((List.range cols).map (mark i)) 0
  rw [h.numberRow_eq] at hnext
  omega

theorem count_range' (h : Counts mark rows cols above before) (m : Nat) (hm : m ≤ rows) :
    ((List.range m).map fun i => (List.range cols).map (mark i)).flatten.count true = above m := by
  induction m with
  | zero => exact h.above_zero.symm
  | succ m ih =>
    have hrows := ih (by omega)
    rw [List.range_succ, List.map_append, List.flatten_append, List.count_append, hrows,
      h.above_succ m (by omega)]
    simp [h.count_row]

theorem count_eq (h : Counts mark rows cols above before) :
    (tabulate rows cols mark).flatten.count true = above rows :=
  h.count_range' rows (Nat.le_refl rows)

end Counts

/-! ### Without gap or repeat -/

/-- The numbers in a row are those that the count has run through. -/
theorem numbers_numberRow (marks : List Bool) {next : Nat} (hnext : 0 < next) :
    (numberRow marks next).1.filter (· ≠ 0) =
      (List.range' next (marks.count true)).map Int.ofNat := by
  induction marks generalizing next with
  | nil => rfl
  | cons m marks ih =>
    cases m with
    | false => simpa [numberRow] using ih hnext
    | true =>
      have hne : decide ((next : Int) ≠ 0) = true := decide_eq_true (by omega)
      have hrest := ih (Nat.succ_pos next)
      rw [List.count_cons_self, List.range'_succ, List.map_cons, ← hrest]
      exact List.filter_cons_of_pos hne

/-- **The numbers in a grid, read row by row, are those from the first one on, each once.** -/
theorem numbers_numberRows (marks : List (List Bool)) {next : Nat} (hnext : 0 < next) :
    (numberRows marks next).flatten.filter (· ≠ 0) =
      (List.range' next (marks.flatten.count true)).map Int.ofNat := by
  induction marks generalizing next with
  | nil => rfl
  | cons row rest ih =>
    have hrow := numbers_numberRow row hnext
    have hrest := @ih (next + row.count true) (by omega)
    rw [List.flatten_cons, List.count_append, ← List.range'_append_1, List.map_append, ← hrow,
      ← hrest, ← List.filter_append]
    simp only [numberRows, numberRow_next, List.flatten_cons]

/-! ## 2. What stands in a cell -/

/-- The number in a cell of a new grid. The cells of a triangle are numbered row by row: above a
cell of the upper one there are rows of `cols`, `cols - 1`, … cells, and above a cell of the lower
one rows of one, two, … -/
def entry (f : Filling) (cols i j : Int) : Int :=
  match f with
  | .sequential => i * cols + j + 1
  | .zeros => 0
  | .ones => 1
  | .identity => if i = j then 1 else 0
  | .diagonal => if i = j then i + 1 else 0
  | .upper => if i ≤ j then i * cols - i * (i - 1) / 2 + (j - i) + 1 else 0
  | .lower => if j ≤ i then i * (i + 1) / 2 + j + 1 else 0

theorem tabulate_congr {α : Type} {rows cols : Nat} {f g : Nat → Nat → α}
    (h : ∀ i, i < rows → ∀ j, j < cols → f i j = g i j) :
    tabulate rows cols f = tabulate rows cols g := by
  refine List.map_congr_left fun i hi => List.map_congr_left fun j hj => ?_
  exact h i (List.mem_range.mp hi) j (List.mem_range.mp hj)

/-! ### Triangles -/

/-- The rows of the upper triangle have `n`, `n - 1`, … cells. -/
theorem counts_upper (n : Nat) :
    Counts (fun i j => decide (i ≤ j)) n n (fun i => i * n - i * (i - 1) / 2)
      (fun i j => j - i) where
  above_zero := by simp
  above_succ := by
    intro i hi
    have hsum : (i + 1) * (i + 1 - 1) / 2 = i * (i - 1) / 2 + i := Nat.triangle_succ i
    have hle : i * (i - 1) / 2 ≤ i * n :=
      Nat.le_trans (Nat.div_le_self _ _) (Nat.mul_le_mul_left i (by omega))
    have hrow : (i + 1) * n = i * n + n := Nat.succ_mul i n
    rw [hsum, hrow]
    omega
  before_zero := Nat.zero_sub
  before_succ := by
    intro i j
    by_cases hij : i ≤ j
    · rw [decide_eq_true hij, Bool.toNat_true]
      omega
    · rw [decide_eq_false hij, Bool.toNat_false]
      omega

/-- The rows of the lower triangle have one, two, … cells. -/
theorem counts_lower (n : Nat) :
    Counts (fun i j => decide (j ≤ i)) n n (fun i => i * (i + 1) / 2)
      (fun i j => min j (i + 1)) where
  above_zero := rfl
  above_succ := by
    intro i hi
    have hsum : (i + 1 + 1) * (i + 1) / 2 = (i + 1) * i / 2 + (i + 1) := Nat.triangle_succ (i + 1)
    rw [Nat.mul_comm (i + 1) (i + 1 + 1), hsum, Nat.mul_comm i, Nat.min_eq_right (by omega)]
  before_zero := by
    intro i
    exact Nat.zero_min _
  before_succ := by
    intro i j
    by_cases hji : j ≤ i
    · rw [decide_eq_true hji, Bool.toNat_true]
      omega
    · rw [decide_eq_false hji, Bool.toNat_false]
      omega

/-- A triangle with `n` rows has `1 + 2 + … + n` cells. -/
theorem count_upper (n : Nat) :
    (tabulate n n fun i j => decide (i ≤ j)).flatten.count true = n * (n + 1) / 2 := by
  have hsum : (n + 1) * n / 2 = n * (n - 1) / 2 + n := Nat.triangle_succ n
  have hsquare : n * (n - 1) / 2 * 2 + n = n * n := by
    rw [Nat.div_mul_cancel (even_iff_two_dvd.mp (Nat.even_mul_pred_self n)), ← Nat.mul_succ]
    cases n with
    | zero => rfl
    | succ n => rfl
  rw [(counts_upper n).count_eq, Nat.mul_comm n (n + 1), hsum]
  omega

theorem count_lower (n : Nat) :
    (tabulate n n fun i j => decide (j ≤ i)).flatten.count true = n * (n + 1) / 2 :=
  (counts_lower n).count_eq

theorem filled_upper (n : Nat) :
    filled .upper n n = tabulate n n fun i j => entry .upper n i j := by
  refine ((counts_upper n).numberRows_eq 1).trans (tabulate_congr fun i hi j hj => ?_)
  by_cases hij : i ≤ j
  · have hle : i * (i - 1) / 2 ≤ i * n :=
      Nat.le_trans (Nat.div_le_self _ _) (Nat.mul_le_mul_left i (by omega))
    have hpred : ((i * (i - 1) : Nat) : Int) = i * (i - 1) := by
      cases i with
      | zero => rfl
      | succ i => push_cast; ring
    rw [if_pos (decide_eq_true hij), entry, if_pos (Int.ofNat_le.mpr hij)]
    push_cast [hle, hij, hpred]
    ring
  · have hij' : ¬ (i : Int) ≤ j := by omega
    rw [if_neg (by simpa using hij), entry, if_neg hij']

theorem filled_lower (n : Nat) :
    filled .lower n n = tabulate n n fun i j => entry .lower n i j := by
  refine ((counts_lower n).numberRows_eq 1).trans (tabulate_congr fun i hi j hj => ?_)
  by_cases hji : j ≤ i
  · rw [if_pos (decide_eq_true hji), entry, if_pos (Int.ofNat_le.mpr hji),
      Nat.min_eq_left (by omega)]
    push_cast
    ring
  · have hji' : ¬ (j : Int) ≤ i := by omega
    rw [if_neg (by simpa using hji), entry, if_neg hji']

/-! ### All fillings -/

/-- **A filled grid has its number in each cell.** A triangle has it if it is square. -/
theorem filled_eq (f : Filling) {rows cols : Nat} (h : f.squareOnly → rows = cols) :
    filled f rows cols = tabulate rows cols fun i j => entry f cols i j := by
  cases f with
  | sequential =>
    refine tabulate_congr fun i _ j _ => ?_
    rw [entry]
    push_cast
    rfl
  | zeros | ones => rfl
  | identity =>
    refine tabulate_congr fun i _ j _ => ?_
    simp only [entry, Int.natCast_inj]
  | diagonal =>
    refine tabulate_congr fun i _ j _ => ?_
    simp only [entry, Int.natCast_inj]
    push_cast
    rfl
  | upper =>
    obtain rfl := h rfl
    exact filled_upper rows
  | lower =>
    obtain rfl := h rfl
    exact filled_lower rows

/-! ## 3. Sizes -/

/-- A size that a filling is refused for: no rows or columns, or a square that is none. -/
def Unsuited (f : Filling) (rows cols : Int) : Prop :=
  rows < 1 ∨ cols < 1 ∨ f ∈ [.identity, .upper, .lower, .diagonal] ∧ rows ≠ cols

instance (f : Filling) (rows cols : Int) : Decidable (Unsuited f rows cols) :=
  inferInstanceAs (Decidable (_ ∨ _ ∨ _ ∧ _))

variable {f : Filling} {rows cols : Int}

theorem squareOnly_iff : f.squareOnly = true ↔ f ∈ [.identity, .upper, .lower, .diagonal] := by
  cases f with
  | identity | upper | lower | diagonal => simp [Filling.squareOnly]
  | sequential | zeros | ones => simp [Filling.squareOnly]

theorem generate_name (f : Filling) (rows cols : Int) :
    generate (.str f.name) (.num (.int rows)) (.num (.int cols)) = make f rows cols := by
  cases f <;> rfl

/-- A size that does not suit is refused as one, before there is any question of room. The message
shows it. -/
theorem make_of_unsuited (h : Unsuited f rows cols) :
    ∃ fault, make f rows cols =
        .error (.showing [.num (.int rows), .num (.int cols)] fault) ∧
      fault.kind = .malformedSize := by
  by_cases hsize : rows < 1 ∨ cols < 1
  · refine ⟨.sizeNotPositive (.num (.int rows)) (.num (.int cols)), ?_, rfl⟩
    rw [make, checkSize, if_pos hsize]
    simp only [bind, Except.bind]
  · have hsquare : f.squareOnly = true ∧ rows ≠ cols := by
      rw [squareOnly_iff]
      rcases h with hrows | hcols | hsquare
      · exact absurd (.inl hrows) hsize
      · exact absurd (.inr hcols) hsize
      · exact hsquare
    refine ⟨.notSquare f rows cols, ?_, rfl⟩
    rw [make, checkSize, if_neg hsize]
    simp only [bind, Except.bind, if_pos hsquare]

/-- A size that suits may be too large, and is refused for nothing else. -/
theorem make_of_suited (h : ¬ Unsuited f rows cols) :
    make f rows cols = tooLarge (layOut f rows.toNat cols.toNat) >>= fun layout =>
      match layout with
      | .whole => .ok (filled f rows.toNat cols.toNat)
      | .rowless => .ok [] := by
  have hsize : ¬ (rows < 1 ∨ cols < 1) := by
    intro hsize
    exact h (hsize.imp_right .inl)
  have hsquare : ¬ (f.squareOnly = true ∧ rows ≠ cols) := by
    rw [squareOnly_iff]
    intro hsquare
    exact h (.inr (.inr hsquare))
  rw [make, checkSize, if_neg hsize, if_neg hsquare]
  rfl

theorem kind_of_oversize (o : Oversize) : (Fault.oversize o).kind ≠ .malformedSize := by
  cases o <;> exact nofun

/-- Both numbers of a size are short enough to be shown. -/
def Shows (rows cols : Int) : Prop :=
  Text.withinDigitLimit rows = true ∧ Text.withinDigitLimit cols = true

theorem printable_iff_shows :
    [Json.num (.int rows), .num (.int cols)].all Json.isPrintable = true ↔ Shows rows cols := by
  simp only [List.all_cons, List.all_nil, Bool.and_true, Bool.and_eq_true, Json.isPrintable_int,
    Shows]

/-- Every number that a word of the machine can hold is short enough. -/
theorem shows_of_words (hrows : rows.natAbs ≤ maxWord) (hcols : cols.natAbs ≤ maxWord) :
    Shows rows cols := by
  have hwords : maxWord < Nat.pow 10 Text.digitLimit := by decide +kernel
  exact ⟨Text.withinDigitLimit_iff.mpr (Nat.lt_of_le_of_lt hrows hwords),
    Text.withinDigitLimit_iff.mpr (Nat.lt_of_le_of_lt hcols hwords)⟩

/-- A size that does not suit and cannot be shown is refused for that. -/
theorem make_of_hidden (h : Unsuited f rows cols) (hhidden : ¬ Shows rows cols) :
    make f rows cols = .error .unprintable := by
  obtain ⟨fault, hmake, _⟩ := make_of_unsuited h
  rw [← printable_iff_shows, Bool.not_eq_true] at hhidden
  rw [hmake, Fault.showing_of_unprintable hhidden]

theorem malformed_iff :
    (∃ fault, make f rows cols = .error fault ∧ fault.kind = .malformedSize) ↔
      Unsuited f rows cols ∧ Shows rows cols := by
  constructor
  · rintro ⟨fault, hmake, hkind⟩
    by_cases hsuits : Unsuited f rows cols
    · refine ⟨hsuits, ?_⟩
      by_contra hhidden
      rw [make_of_hidden hsuits hhidden] at hmake
      obtain rfl := Except.error.inj hmake
      exact nomatch hkind
    · rw [make_of_suited hsuits] at hmake
      cases hlay : layOut f rows.toNat cols.toNat with
      | error o =>
        rw [hlay] at hmake
        obtain rfl := Except.error.inj hmake
        exact absurd hkind (kind_of_oversize o)
      | ok layout =>
        rw [hlay] at hmake
        cases layout with
        | whole => exact nomatch hmake
        | rowless => exact nomatch hmake
  · rintro ⟨hunsuited, hshows⟩
    obtain ⟨fault, hmake, hkind⟩ := make_of_unsuited hunsuited
    rw [Fault.showing_of_printable (printable_iff_shows.mpr hshows)] at hmake
    exact ⟨fault, hmake, hkind⟩

/-- **What is in a new grid.** A size is refused as malformed if it has no rows or no columns or is
not square where it must be, and for no other reason. (The message shows the size, and a size that
is beyond even that is refused for the digits. None that is small enough to be allocated is.) Any
other size that there is memory for gives a grid of so many rows and columns, whose numbers are
those of `entry`; and those of a triangle, read row by row, are the numbers from one to that of its
cells without gap or repeat. -/
theorem generate_contents (f : Filling) (rows cols : Int) :
    let made := generate (.str f.name) (.num (.int rows)) (.num (.int cols))
    ((∃ fault, made = .error fault ∧ fault.kind = .malformedSize) ↔
        Unsuited f rows cols ∧ Shows rows cols) ∧
    (rows.natAbs ≤ maxWord → cols.natAbs ≤ maxWord → Shows rows cols) ∧
    (Unsuited f rows cols → ¬ Shows rows cols → made = .error .unprintable) ∧
    (8 * (rows.toNat * cols.toNat) ≤ memory → ¬ Unsuited f rows cols →
      ∃ g, made = .ok g ∧
        g = tabulate rows.toNat cols.toNat (fun i j => entry f cols i j) ∧
        (f ∈ [.upper, .lower] → g.flatten.filter (· ≠ 0) =
          (List.range' 1 (rows.toNat * (rows.toNat + 1) / 2)).map Int.ofNat)) := by
  intro made
  have hmade : made = make f rows cols := generate_name f rows cols
  rw [hmade]
  refine ⟨malformed_iff, shows_of_words, make_of_hidden, fun hroom hsuits => ?_⟩
  have hrows : 0 < rows := by
    by_contra hneg
    exact hsuits (.inl (by omega))
  have hcols : 0 < cols := by
    by_contra hneg
    exact hsuits (.inr (.inl (by omega)))
  have hsquare : f.squareOnly → rows = cols := by
    intro hf
    by_contra hne
    exact hsuits (.inr (.inr ⟨squareOnly_iff.mp hf, hne⟩))
  have hfilled : filled f rows.toNat cols.toNat =
      tabulate rows.toNat cols.toNat fun i j => entry f (cols.toNat : Int) i j :=
    filled_eq f fun hf => by rw [hsquare hf]
  rw [Int.toNat_of_nonneg (Int.le_of_lt hcols)] at hfilled
  refine ⟨_, make_eq_ok hrows hcols hsquare hroom, hfilled, fun hf => ?_⟩
  rcases List.mem_cons.mp hf with rfl | hf
  · obtain rfl := hsquare rfl
    rw [filled, numbers_numberRows _ Nat.one_pos, count_upper]
  · obtain rfl := List.mem_singleton.mp hf
    obtain rfl := hsquare rfl
    rw [filled, numbers_numberRows _ Nat.one_pos, count_lower]

/-- The upper triangle with four rows. -/
theorem generate_upper_four :
    8 * ((4 : Int).toNat * (4 : Int).toNat) ≤ memory ∧ ¬ Unsuited .upper 4 4 ∧
      generate (.str "upper") (.num (.int 4)) (.num (.int 4)) =
        .ok [[1, 2, 3, 4], [0, 5, 6, 7], [0, 0, 8, 9], [0, 0, 0, 10]] := by
  have hroom : 8 * ((4 : Int).toNat * (4 : Int).toNat) ≤ memory := by decide
  have hsuits : ¬ Unsuited .upper 4 4 := by decide
  obtain ⟨g, hg, rfl, _⟩ := (generate_contents .upper 4 4).2.2.2 hroom hsuits
  exact ⟨hroom, hsuits, hg⟩

end GridSketch.Grid
