import GridSketch.Proofs.Scene.Success
import GridSketch.Session.Action

/-!
# Grids of the size they were asked for

A matrix declares a size and has rows, and nothing ties the two together but the makers of grids.
`Fits` says that they agree. All fillings fit (`fits_filled`), and so do grids filled by chance
(`of_random`); a form that is let through therefore gets a grid of the size it asked for, with one
exception (`of_newValues`). The numbers on a diagonal are counted by a double. Where that comes to
`2 ^ 63`, one more than the greatest word, none are left, and the grid is laid out without rows
while the size is declared as it was asked for. `MatrixForm.Hollow` is that exception, with the
sizes for which it arises as a plain interval: `nearestWhole_eq_iff` says which integers round to
`2 ^ 63`.
-/

set_option autoImplicit false

namespace GridSketch

/-! ## 1. What rounds to the first number beyond the words -/

namespace Decimal

theorem unit_le {n : Nat} (h : 0 < n) : 1 <<< (n.log2 - 52) ≤ n := by
  have hlog : 2 ^ n.log2 ≤ n := Nat.log2_self_le (Nat.ne_of_gt h)
  rw [Nat.one_shiftLeft]
  exact Nat.le_trans (Nat.pow_le_pow_right (by decide) (Nat.sub_le _ _)) hlog

theorem unit_pos (n : Nat) : 0 < 1 <<< (n.log2 - 52) := by
  rw [Nat.one_shiftLeft]
  exact Nat.two_pow_pos _

theorem nearestWhole_pos {n : Nat} (h : 0 < n) : 0 < nearestWhole n := by
  have hq : 0 < n / 1 <<< (n.log2 - 52) := Nat.div_pos (unit_le h) (unit_pos n)
  have hround : 0 < roundDiv n (1 <<< (n.log2 - 52)) := by
    unfold roundDiv
    simp only
    split
    · exact hq
    · exact Nat.succ_pos _
  exact Nat.mul_pos hround (unit_pos n)

/-- Rounding a quotient moves it by half a unit at most. -/
theorem roundDiv_near {n u : Nat} (hu : 0 < u) :
    2 * (roundDiv n u * u) ≤ 2 * n + u ∧ 2 * n ≤ 2 * (roundDiv n u * u) + u := by
  have hdiv : n / u * u + n % u = n := Nat.div_add_mod' n u
  have hmod : n % u < u := Nat.mod_lt n hu
  unfold roundDiv
  simp only
  split
  · omega
  · rw [Nat.add_mul, Nat.one_mul]
    omega

theorem nearestWhole_near (n : Nat) :
    2 * nearestWhole n ≤ 2 * n + 1 <<< (n.log2 - 52) ∧
      2 * n ≤ 2 * nearestWhole n + 1 <<< (n.log2 - 52) :=
  roundDiv_near (unit_pos n)

/-- Between two powers of two the unit is the same throughout. -/
theorem nearestWhole_of_log2 {n k : Nat} (h : n.log2 = k) :
    nearestWhole n = roundDiv n (1 <<< (k - 52)) * 1 <<< (k - 52) := by
  rw [← h]
  rfl

/-- The naturals that round to the first one beyond the words, `2 ^ 63`: from halfway to the
neighbour below, at a distance of `2 ^ 10`, to halfway to the one above, at a distance of
`2 ^ 11`. -/
theorem nearestWhole_eq_iff {n : Nat} :
    nearestWhole n = Grid.maxWord + 1 ↔ Grid.maxWord ≤ n + 511 ∧ n ≤ Grid.maxWord + 1025 := by
  have hmax : Grid.maxWord = 2 ^ 63 - 1 := rfl
  rw [hmax]
  -- below `2 ^ 62` and from `2 ^ 64` on a bound on the error will do; in between the unit is known,
  -- and the rounding is computed
  rcases Nat.eq_zero_or_pos n with rfl | hpos
  · rw [nearestWhole_of_lt (by decide)]
    omega
  have hn : n ≠ 0 := Nat.ne_of_gt hpos
  rcases Nat.lt_or_ge n (2 ^ 62) with hsmall | hlarge
  · -- too small by a factor of two, which no rounding makes up for
    have hunit := unit_le hpos
    have hnear := (nearestWhole_near n).1
    omega
  · have hlog : 62 ≤ n.log2 := (Nat.le_log2 hn).mpr hlarge
    rcases Nat.lt_or_ge n (2 ^ 63) with hbelow | habove
    · have hlt : n.log2 < 63 := (Nat.log2_lt hn).mpr hbelow
      rw [nearestWhole_of_log2 (k := 62) (by omega)]
      simp only [roundDiv, Nat.reduceSub, Nat.reduceShiftLeft, Nat.reducePow]
      split <;> omega
    · have hlog' : 63 ≤ n.log2 := (Nat.le_log2 hn).mpr habove
      rcases Nat.lt_or_ge n (2 ^ 64) with hnext | hfar
      · have hlt : n.log2 < 64 := (Nat.log2_lt hn).mpr hnext
        rw [nearestWhole_of_log2 (k := 63) (by omega)]
        simp only [roundDiv, Nat.reduceSub, Nat.reduceShiftLeft, Nat.reducePow]
        split <;> omega
      · -- the unit is small beside a number this large
        have hlog : 64 ≤ n.log2 := (Nat.le_log2 hn).mpr hfar
        have hunit : 1 <<< (n.log2 - 52) * 2 ^ 12 ≤ n := by
          rw [Nat.one_shiftLeft, ← Nat.pow_add]
          exact Nat.le_trans (Nat.pow_le_pow_right (by decide) (by omega)) (Nat.log2_self_le hn)
        have hle := (nearestWhole_near n).2
        omega

end Decimal

namespace Grid

/-! ## 2. Fitting grids -/

/-- So many rows of so many items. -/
def Fits {α : Type} (rows cols : Nat) (grid : List (List α)) : Prop :=
  grid.length = rows ∧ ∀ r ∈ grid, r.length = cols

theorem fits_tabulate {α : Type} (rows cols : Nat) (f : Nat → Nat → α) :
    Fits rows cols (tabulate rows cols f) :=
  ⟨length_tabulate rows cols f, fun _ hr => length_of_mem_tabulate hr⟩

theorem length_of_mem_numberRows {rows : List (List Bool)} {next : Nat} {r : List Int}
    (h : r ∈ numberRows rows next) : ∃ marks ∈ rows, r.length = marks.length := by
  induction rows generalizing next with
  | nil => simp [numberRows] at h
  | cons marks rest ih =>
    simp only [numberRows, List.mem_cons] at h
    rcases h with rfl | h
    · exact ⟨marks, List.mem_cons_self, length_numberRow marks next⟩
    · obtain ⟨marks', hm, hl⟩ := ih h
      exact ⟨marks', List.mem_cons_of_mem _ hm, hl⟩

theorem fits_numberRows {rows cols : Nat} {marks : List (List Bool)} (h : Fits rows cols marks)
    (next : Nat) : Fits rows cols (numberRows marks next) := by
  refine ⟨(length_numberRows marks next).trans h.1, ?_⟩
  intro r hr
  obtain ⟨m, hm, hl⟩ := length_of_mem_numberRows hr
  exact hl.trans (h.2 m hm)

theorem fits_filled (f : Filling) (rows cols : Nat) : Fits rows cols (filled f rows cols) := by
  cases f with
  | upper | lower => exact fits_numberRows (fits_tabulate rows cols _) 1
  | sequential | identity | zeros | ones | diagonal => exact fits_tabulate rows cols _

/-! ## 3. The makers of grids -/

theorem count_eq_zero {n : Nat} (h : reserveCount n = .ok 0) (hn : 0 < n) :
    Decimal.nearestWhole n = maxWord + 1 := by
  simp only [reserveCount] at h
  by_cases habove : maxWord + 1 < Decimal.nearestWhole n
  · rw [if_pos habove] at h
    exact absurd h throw_ne_ok
  · rw [if_neg habove] at h
    by_cases hcount : Decimal.nearestWhole n = maxWord + 1
    · exact hcount
    · rw [if_neg hcount] at h
      obtain ⟨_, _, h⟩ := bind_eq_ok.mp h
      exact absurd (Except.ok.inj h) (Nat.ne_of_gt (Decimal.nearestWhole_pos hn))

/-- Only a diagonal is ever laid out without rows. -/
theorem of_layOut_rowless {f : Filling} {rows cols : Nat} (h : layOut f rows cols = .ok .rowless)
    (hr : 0 < rows) : f = .diagonal ∧ Decimal.nearestWhole rows = maxWord + 1 := by
  cases f with
  | diagonal =>
    obtain ⟨count, hcount, h⟩ := bind_eq_ok.mp h
    by_cases hz : count = 0
    · exact ⟨rfl, count_eq_zero (hz ▸ hcount) hr⟩
    · rw [if_neg hz] at h
      obtain ⟨_, _, h⟩ := bind_eq_ok.mp h
      exact nomatch h
  | sequential =>
    obtain ⟨count, _, h⟩ := bind_eq_ok.mp h
    by_cases hz : count = 0
    · rw [if_pos hz] at h
      by_cases hside : maxWord < rows ∨ maxWord < cols
      · rw [if_pos hside] at h
        exact nomatch h
      · rw [if_neg hside] at h
        exact nomatch h
    · rw [if_neg hz] at h
      exact nomatch h
  -- the other fillings check their room and are laid out whole
  | upper | lower =>
    obtain ⟨_, _, h⟩ := bind_eq_ok.mp h
    obtain ⟨_, _, h⟩ := bind_eq_ok.mp h
    exact nomatch h
  | identity | zeros | ones =>
    obtain ⟨_, _, h⟩ := bind_eq_ok.mp h
    exact nomatch h

theorem checkSize_eq_ok {rows cols : Int} (h : checkSize rows cols = .ok ()) :
    0 < rows ∧ 0 < cols := by
  unfold checkSize at h
  split at h
  · exact nomatch h
  · omega

/-- A new grid fits, or it is a diagonal without rows. -/
theorem of_make {f : Filling} {rows cols : Int} {values : List (List Int)}
    (h : make f rows cols = .ok values) :
    0 < rows ∧ 0 < cols ∧ (Fits rows.toNat cols.toNat values ∨
      f = .diagonal ∧ rows = cols ∧ Decimal.nearestWhole rows.toNat = maxWord + 1) := by
  obtain ⟨_, hsize, h⟩ := bind_eq_ok.mp h
  obtain ⟨hr, hc⟩ := checkSize_eq_ok hsize
  refine ⟨hr, hc, ?_⟩
  by_cases hsquare : f.squareOnly ∧ rows ≠ cols
  · rw [if_pos hsquare] at h
    exact absurd h throw_ne_ok
  · rw [if_neg hsquare] at h
    obtain ⟨layout, hlay, h⟩ := bind_eq_ok.mp h
    rw [tooLarge, mapError_eq_ok] at hlay
    cases layout with
    | whole => exact Or.inl (Except.ok.inj h ▸ fits_filled f _ _)
    | rowless =>
      obtain ⟨rfl, hcount⟩ := of_layOut_rowless hlay (by omega)
      exact Or.inr ⟨rfl, Decidable.not_not.mp fun hne => hsquare ⟨rfl, hne⟩, hcount⟩

/-- The commands fill in sequence, and their grids always fit. -/
theorem of_make_sequential {rows cols : Nat} {values : List (List Int)}
    (h : make .sequential rows cols = .ok values) :
    0 < rows ∧ 0 < cols ∧ Fits rows cols values := by
  obtain ⟨hr, hc, hfits | hdiag⟩ := of_make h
  · exact ⟨by omega, by omega, hfits⟩
  · exact nomatch hdiag.1

theorem side_eq_ok {j : Json} {n : Nat} {i : Int} (h : side j = .ok n) (hi : j.asInt = .ok i) :
    n = i.toNat := by
  unfold side at h
  split at h
  · rw [Json.asInt_int] at hi
    split at h
    · exact nomatch h
    · rw [← Except.ok.inj h, Except.ok.inj hi]
  · exact nomatch h
  · exact nomatch h

theorem of_random {noise : Noise} {rows cols low high : Json} {values : List (List Int)} {r c : Int}
    (h : random noise rows cols low high = .ok values) (hr : rows.asInt = .ok r)
    (hc : cols.asInt = .ok c) : 0 < r ∧ 0 < c ∧ Fits r.toNat c.toNat values := by
  simp only [random, bind_eq_ok] at h
  obtain ⟨_, hsides, h⟩ := h
  have hpos : 0 < r ∧ 0 < c := by
    simp only [checkSides, hr, hc, bind_eq_ok, Except.ok.injEq, exists_eq_left'] at hsides
    split at hsides
    · exact nomatch hsides
    · simp only [bind_eq_ok, Except.ok.injEq, exists_eq_left'] at hsides
      split at hsides
      · exact nomatch hsides
      · omega
  refine ⟨hpos.1, hpos.2, ?_⟩
  obtain ⟨⟨low', high'⟩, _, _, _, h⟩ := h
  -- the bounds are read before or after the room is reserved, and then the grid is drawn
  have hlast : ∃ bounds : Bounds, ∃ r' c' sides, roomFor rows cols = .ok (r', c') ∧
      drawn noise bounds sides r' c' = values := by
    split at h
    · simp only [bind_eq_ok] at h
      obtain ⟨_, _, bounds, _, ⟨r', c'⟩, hroom, sides, _, h⟩ := h
      exact ⟨bounds, r', c', sides, hroom, Except.ok.inj h⟩
    · simp only [bind_eq_ok] at h
      obtain ⟨bounds, _, ⟨r', c'⟩, hroom, sides, _, h⟩ := h
      exact ⟨bounds, r', c', sides, hroom, Except.ok.inj h⟩
  obtain ⟨bounds, r', c', sides, hroom, rfl⟩ := hlast
  simp only [roomFor, bind_eq_ok, pure_eq_ok, Prod.mk.injEq] at hroom
  obtain ⟨_, hside, _, hside', _, _, rfl, rfl⟩ := hroom
  rw [← side_eq_ok hside hr, ← side_eq_ok hside' hc]
  exact fits_tabulate _ _ _

theorem fillingOf_eq_ok {kind : Json} {f : Filling} (h : fillingOf kind = .ok f) :
    kind = .str f.name := by
  simp only [fillingOf, bind_eq_ok] at h
  obtain ⟨_, _, h⟩ := h
  cases kind with
  | str s =>
    split at h
    · rename_i f' hf
      obtain rfl := Except.ok.inj h
      have hfind : Filling.ofName? s = some f' := hf
      have hname := List.find?_some hfind
      rw [of_decide_eq_true hname]
    · exact absurd h throw_ne_ok
  | null | bool | num | arr | obj => exact absurd h throw_ne_ok

end Grid

/-! ## 4. Forms -/

/-- The forms that are let through with a size and get a grid without rows: those for a diagonal of
a size that rounds to `2 ^ 63`. -/
def MatrixForm.Hollow (f : MatrixForm) : Prop :=
  f.kind = .str Filling.diagonal.name ∧
    ∃ n : Int, f.rows.asInt = .ok n ∧ f.cols.asInt = .ok n ∧
      Grid.maxWord - 511 ≤ n ∧ n ≤ Grid.maxWord + 1025

/-- The values of a form that is let through fit, unless the form is hollow. -/
theorem Change.of_newValues {f : MatrixForm} {noise : Noise} {values : List (List Int)}
    {rows cols : Int} (h : newValues f noise = .ok values) (hr : f.rows.asInt = .ok rows)
    (hc : f.cols.asInt = .ok cols) :
    0 < rows ∧ 0 < cols ∧ (Grid.Fits rows.toNat cols.toNat values ∨ f.Hollow) := by
  rw [newValues] at h
  split at h
  · simp only [bind_eq_ok] at h
    obtain ⟨_, _, _, _, h⟩ := h
    obtain ⟨hrows, hcols, hfits⟩ := Grid.of_random h hr hc
    exact ⟨hrows, hcols, Or.inl hfits⟩
  · simp only [Grid.generate, hr, hc, bind_eq_ok, Except.ok.injEq, exists_eq_left'] at h
    obtain ⟨filling, hfilling, h⟩ := h
    obtain ⟨hrows, hcols, hfits | ⟨rfl, rfl, hcount⟩⟩ := Grid.of_make h
    · exact ⟨hrows, hcols, Or.inl hfits⟩
    · have hbounds := Decimal.nearestWhole_eq_iff.mp hcount
      exact ⟨hrows, hcols, Or.inr ⟨Grid.fillingOf_eq_ok hfilling, rows, hr, hc, by omega⟩⟩

theorem MatrixForm.Hollow.newValues_eq {f : MatrixForm} (h : f.Hollow) (noise : Noise) :
    Change.newValues f noise = .ok [] := by
  obtain ⟨hkind, n, hr, hc, hlo, hhi⟩ := h
  have hword : 511 < Grid.maxWord := by decide
  have hcount : Decimal.nearestWhole n.toNat = Grid.maxWord + 1 :=
    Decimal.nearestWhole_eq_iff.mpr (by omega)
  have hnone : Grid.reserveCount n.toNat = .ok 0 := by
    simp [Grid.reserveCount, hcount, pure, Except.pure]
  have hlay : Grid.layOut .diagonal n.toNat n.toNat = .ok .rowless := by
    simp [Grid.layOut, hnone, bind, Except.bind, pure, Except.pure]
  have hsize : Grid.checkSize n n = .ok () := by
    rw [Grid.checkSize, if_neg (by omega)]
  have hmake : Grid.make .diagonal n n = .ok [] := by
    simp [Grid.make, hsize, hlay, bind, Except.bind]
  have hfilling : Grid.fillingOf (.str Filling.diagonal.name) = .ok .diagonal := rfl
  have hkindless : (Json.str Filling.diagonal.name).isText Change.randomKind = false := rfl
  rw [Change.newValues, hkind, hkindless, if_neg Bool.false_ne_true]
  simp [Grid.generate, hfilling, hr, hc, hmake, bind, Except.bind]

end GridSketch
