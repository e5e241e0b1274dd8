import GridSketch.Number
import GridSketch.Proofs.Command.Spelling
import Mathlib.Algebra.Order.Field.Basic
import Mathlib.Data.List.TakeWhile
import Mathlib.Data.Nat.Cast.Order.Field
import Mathlib.Data.Rat.Cast.Order
import Mathlib.Tactic.FieldSimp
import Mathlib.Tactic.NormNum
import Mathlib.Tactic.Positivity
import Mathlib.Tactic.Ring

/-!
# The shortest decimal is found

A double is shown by the first decimal grid that has a point in the cell of the double, and the
grids are gone through from one digit up to seventeen. `search` has an answer for the case that none
of them has a point there, and this file says that the case does not arise: seventeen digits are
enough for every double (`onGrid?_seventeen`). So what is shown is a point of the cell, on the
coarsest grid that has one (`shortest_onGrid`), and in particular there is something to show
(`floatText_ne_empty`), which is what whoever uses a double as a name relies on.

Two facts carry the argument. The place of the decimal point is not too high (`pow_point_le`), so
that a step of the grid of seventeen digits is at most a `10 ^ 16`th of the value. And a mantissa
has fifty-three bits at most (`finite_of_parts`), so that the cell is wider than that.
-/

set_option autoImplicit false

namespace GridSketch.Decimal

/-! ## 1. What the bits of a double can say -/

theorem finite_of_parts {x : Float} {negative : Bool} {m : Nat} {e : Int}
    (h : parts x = .finite negative m e) : m < 2 ^ 53 ∧ -1074 ≤ e := by
  have htail : x.toBits.toNat % 2 ^ 52 < 2 ^ 52 := Nat.mod_lt _ (by decide)
  simp only [parts, Nat.one_shiftLeft] at h
  split at h
  · -- a field of ones is no finite double
    split at h <;> exact nomatch h
  · split at h
    · injection h with _ hm he
      omega
    · injection h with _ hm he
      omega

/-! ## 2. The place of the decimal point -/

/-- The two shifts that stand for a power with an integer exponent. -/
theorem zpow_mul_toNat {b : ℚ} (hb : b ≠ 0) (z : Int) : b ^ z * b ^ (-z).toNat = b ^ z.toNat := by
  rw [← zpow_natCast, ← zpow_natCast, ← zpow_add₀ hb]
  congr 1
  omega

theorem wholePart_le (m : Nat) (e : Int) : (wholePart m e : ℚ) ≤ m * 2 ^ e := by
  have hpow := zpow_mul_toNat (b := 2) two_ne_zero e
  have hpos : (0 : ℚ) < 2 ^ (-e).toNat := by positivity
  rw [wholePart, Nat.shiftRight_eq_div_pow, Nat.shiftLeft_eq]
  refine Nat.cast_div_le.trans ?_
  push_cast
  rw [div_le_iff₀ hpos, mul_assoc, hpow]

/-- Four hundred places bring every double above one. -/
theorem wholePart_pos {m : Nat} {e : Int} (hm : 0 < m) (he : -1074 ≤ e) :
    0 < wholePart (m * Nat.pow 10 400) e := by
  have hplaces : ∀ k, k = 1074 → 2 ^ k ≤ Nat.pow 10 400 := by
    intro k hk
    rw [hk]
    decide +kernel
  have hdown : 2 ^ (-e).toNat ≤ Nat.pow 10 400 := by
    generalize hk : 1074 = k at hplaces
    exact (Nat.pow_le_pow_right Nat.two_pos (by omega)).trans (hplaces k rfl)
  have hup : Nat.pow 10 400 ≤ m * Nat.pow 10 400 * 2 ^ e.toNat :=
    Nat.le_trans (Nat.le_mul_of_pos_left _ hm) (Nat.le_mul_of_pos_right _ (Nat.two_pow_pos _))
  rw [wholePart, Nat.shiftRight_eq_div_pow, Nat.shiftLeft_eq]
  exact Nat.div_pos (hdown.trans hup) (Nat.two_pow_pos _)

theorem pow_length_le {n : Nat} (hn : 0 < n) : 10 ^ ((Nat.repr n).length - 1) ≤ n := by
  rcases Nat.eq_zero_or_pos ((Nat.repr n).length - 1) with hone | hmore
  · rw [hone]
    exact hn
  · have hlen := Nat.length_repr_le_iff (n := n) hmore
    omega

/-- A number of which `w` is the whole part after `k` more places is not below the place of the first
digit of `w`. -/
theorem pow_place_le {w m k : Nat} {e : Int} (hpos : 0 < w)
    (hwhole : (w : ℚ) ≤ ((m * Nat.pow 10 k : Nat) : ℚ) * 2 ^ e) :
    (10 : ℚ) ^ ((((Nat.repr w).length : Nat) : Int) - (k : Int) - 1) ≤ m * 2 ^ e := by
  have hdigits : ((10 ^ ((Nat.repr w).length - 1) : Nat) : ℚ) ≤ w :=
    Nat.cast_le.mpr (pow_length_le hpos)
  have hlength : 0 < (Nat.repr w).length := Nat.length_repr_pos
  have hplace : (((Nat.repr w).length : Int) - (k : Int) - 1) =
      (((Nat.repr w).length - 1 : Nat) : Int) - (k : Nat) := by omega
  rw [hplace, zpow_sub₀ (by norm_num), zpow_natCast, zpow_natCast, div_le_iff₀ (by positivity)]
  calc (10 : ℚ) ^ ((Nat.repr w).length - 1)
      ≤ w := by exact_mod_cast hdigits
    _ ≤ ((m * Nat.pow 10 k : Nat) : ℚ) * 2 ^ e := hwhole
    _ = m * 2 ^ e * 10 ^ k := by
        rw [Nat.pow_eq]
        push_cast
        ring

/-- The value of a double is not below the place of its first digit. -/
theorem pow_point_le {m : Nat} {e : Int} (hm : 0 < m) (he : -1074 ≤ e) :
    (10 : ℚ) ^ (point m e - 1) ≤ m * 2 ^ e := by
  have hpos := wholePart_pos hm he
  have hwhole := wholePart_le (m * Nat.pow 10 400) e
  exact pow_place_le hpos hwhole

/-! ## 3. Seventeen digits -/

/-- Both parts of the scale are there. -/
theorem scale_pos (e grid : Int) : 0 < (scale e grid).1 ∧ 0 < (scale e grid).2 := by
  have hten : ∀ k, 0 < Nat.pow 10 k := fun k => Nat.pow_pos (by decide)
  simp only [scale, Nat.shiftLeft_eq]
  exact ⟨Nat.mul_pos (hten _) (Nat.two_pow_pos _), Nat.mul_pos (hten _) (Nat.two_pow_pos _)⟩

/-- The two parts of a scale are the quarters of a cell and the steps of a grid in one unit. -/
theorem exists_unit (e grid : Int) : ∃ u : ℚ, 0 < u ∧
    (2 : ℚ) ^ (e - 2) = (scale e grid).1 * u ∧ (10 : ℚ) ^ grid = (scale e grid).2 * u := by
  have hten := zpow_mul_toNat (b := 10) (by norm_num) grid
  have htwo := zpow_mul_toNat (b := 2) (by norm_num) (e - 2)
  have hneg : -(e - 2) = 2 - e := by omega
  rw [hneg] at htwo
  have hup : (0 : ℚ) < 10 ^ (-grid).toNat := by positivity
  have hdown : (0 : ℚ) < 2 ^ (2 - e).toNat := by positivity
  refine ⟨1 / (10 ^ (-grid).toNat * 2 ^ (2 - e).toNat), by positivity, ?_, ?_⟩
  · simp only [scale, Nat.shiftLeft_eq, Nat.pow_eq]
    push_cast
    rw [← htwo]
    field_simp
  · simp only [scale, Nat.shiftLeft_eq, Nat.pow_eq]
    push_cast
    rw [← hten]
    field_simp

/-- A step of the grid of seventeen digits is a `10 ^ 16`th of the value or less. -/
theorem step_le {m : Nat} {e : Int} (hm : 0 < m) (he : -1074 ≤ e) :
    10 ^ 16 * (scale e (point m e - 17)).2 ≤ 4 * m * (scale e (point m e - 17)).1 := by
  have hpoint := pow_point_le hm he
  generalize hgrid : point m e - 17 = grid
  obtain ⟨u, hu, htwo, hten⟩ := exists_unit e grid
  have hplace : point m e - 1 = 16 + grid := by omega
  have hquarter : (2 : ℚ) ^ e = 4 * 2 ^ (e - 2) := by
    rw [zpow_sub₀ two_ne_zero]
    norm_num
    ring
  rw [hplace, zpow_add₀ (by norm_num), hten, hquarter, htwo] at hpoint
  have hcast : (10 : ℚ) ^ 16 * (scale e grid).2 ≤ 4 * m * (scale e grid).1 := by
    refine le_of_mul_le_mul_right ?_ hu
    calc (10 : ℚ) ^ 16 * (scale e grid).2 * u = 10 ^ (16 : Int) * ((scale e grid).2 * u) := by
          rw [mul_assoc]
          norm_num
      _ ≤ m * (4 * ((scale e grid).1 * u)) := hpoint
      _ = 4 * m * (scale e grid).1 * u := by ring
  exact_mod_cast hcast

/-- A point of a grid is between the ends of the cell of a double, ends not included. -/
def Inside (m : Nat) (e grid : Int) (c : Nat) : Prop :=
  (Cell.of m e).low * (scale e grid).1 < c * (scale e grid).2 ∧
    c * (scale e grid).2 < (Cell.of m e).high * (scale e grid).1

/-- A grid has a hit where one of the neighbours of the value is inside the cell. -/
theorem onGrid?_ne_none {m : Nat} {e grid : Int}
    (h : Inside m e grid (4 * m * (scale e grid).1 / (scale e grid).2) ∨
      Inside m e grid (4 * m * (scale e grid).1 / (scale e grid).2 + 1)) :
    onGrid? m e grid ≠ none := by
  have hinside : ∀ c, Inside m e grid c →
      (if (Cell.of m e).closed = true then
        decide ((Cell.of m e).low * (scale e grid).1 ≤ c * (scale e grid).2 ∧
          c * (scale e grid).2 ≤ (Cell.of m e).high * (scale e grid).1)
      else
        decide ((Cell.of m e).low * (scale e grid).1 < c * (scale e grid).2 ∧
          c * (scale e grid).2 < (Cell.of m e).high * (scale e grid).1)) = true := by
    intro c hc
    split
    · exact decide_eq_true ⟨hc.1.le, hc.2.le⟩
    · exact decide_eq_true hc
  intro hnone
  simp only [onGrid?] at hnone
  split at hnone
  · split at hnone <;> exact nomatch hnone
  · exact nomatch hnone
  · exact nomatch hnone
  · rename_i hbelow habove
    rcases h with h | h
    · exact Bool.noConfusion ((hinside _ h).symm.trans hbelow)
    · exact Bool.noConfusion ((hinside _ h).symm.trans habove)

/-- Of the two neighbours of a value on a grid, one is nearer than `low` below or nearer than `high`
above, if the step of the grid is less than the two together. -/
theorem neighbour_near {value below rest step low high : Nat} (hvalue : below + rest = value)
    (hrest : rest < step) (hlow : 0 < low) (hhigh : 0 < high) (hle : low ≤ value)
    (hstep : step < low + high) :
    (value - low < below ∧ below < value + high) ∨
      (value - low < below + step ∧ below + step < value + high) := by
  rcases Nat.lt_or_ge rest low with hnear | hfar
  · left
    omega
  · right
    omega

/-- **Seventeen digits are enough** for every double but zero. -/
theorem onGrid?_seventeen {m : Nat} {e : Int} (hm : 0 < m) (hbits : m < 2 ^ 53) (he : -1074 ≤ e) :
    onGrid? m e (point m e - 17) ≠ none := by
  have hstep := step_le hm he
  obtain ⟨hup, hdown⟩ := scale_pos e (point m e - 17)
  refine onGrid?_ne_none ?_
  unfold Inside Cell.of
  simp only
  generalize (scale e (point m e - 17)).1 = up at hstep hup
  generalize (scale e (point m e - 17)).2 = down at hstep hdown
  have hdiv := Nat.div_add_mod' (4 * m * up) down
  have hmod := Nat.mod_lt (4 * m * up) hdown
  have hle : 4 * up ≤ 4 * m * up := Nat.mul_le_mul_right up (by omega)
  -- the lower end is nearer below a power of two, but then the step is smaller too
  split
  · rename_i hpower
    have hvalue : 4 * m * up = 2 ^ 54 * up := by
      rw [hpower.1, Nat.one_shiftLeft]
      ring
    have hshort : down < 1 * up + 2 * up := by omega
    rw [Nat.sub_mul, Nat.add_mul (4 * m), Nat.add_mul (_ / down) 1, Nat.one_mul down]
    exact neighbour_near hdiv hmod (by omega) (by omega) (by omega) hshort
  · have hvalue : 4 * m * up < 2 ^ 55 * up := Nat.mul_lt_mul_of_pos_right (by omega) hup
    have hshort : down < 2 * up + 2 * up := by omega
    rw [Nat.sub_mul, Nat.add_mul (4 * m), Nat.add_mul (_ / down) 1, Nat.one_mul down]
    exact neighbour_near hdiv hmod (by omega) (by omega) (by omega) hshort

/-- A point of a grid is in the cell of a double, with its ends where they belong to it. -/
def Hits (m : Nat) (e grid : Int) (c : Nat) : Prop :=
  if (Cell.of m e).closed then
    (Cell.of m e).low * (scale e grid).1 ≤ c * (scale e grid).2 ∧
      c * (scale e grid).2 ≤ (Cell.of m e).high * (scale e grid).1
  else Inside m e grid c

theorem hits_of_onGrid? {m : Nat} {e grid : Int} {c : Nat} (h : onGrid? m e grid = some c) :
    Hits m e grid c := by
  have hhits : ∀ c, (if (Cell.of m e).closed = true then
        decide ((Cell.of m e).low * (scale e grid).1 ≤ c * (scale e grid).2 ∧
          c * (scale e grid).2 ≤ (Cell.of m e).high * (scale e grid).1)
      else
        decide ((Cell.of m e).low * (scale e grid).1 < c * (scale e grid).2 ∧
          c * (scale e grid).2 < (Cell.of m e).high * (scale e grid).1)) = true →
      Hits m e grid c := by
    intro c hc
    unfold Hits
    split at hc
    · rename_i hclosed
      rw [if_pos hclosed]
      exact of_decide_eq_true hc
    · rename_i hopen
      have hboth := of_decide_eq_true hc
      rw [if_neg hopen]
      exact hboth
  simp only [onGrid?] at h
  split at h
  · rename_i hbelow habove
    split at h
    · exact Option.some.inj h ▸ hhits _ hbelow
    · exact Option.some.inj h ▸ hhits _ habove
  · rename_i hbelow _
    exact Option.some.inj h ▸ hhits _ hbelow
  · rename_i _ habove
    exact Option.some.inj h ▸ hhits _ habove
  · cases h

/-- What is on a grid is not zero, since the cell of a double ends above zero. -/
theorem ne_zero_of_onGrid? {m : Nat} {e grid : Int} {c : Nat} (hm : 0 < m)
    (h : onGrid? m e grid = some c) : c ≠ 0 := by
  obtain ⟨hup, _⟩ := scale_pos e grid
  have hlow : 0 < (Cell.of m e).low * (scale e grid).1 := by
    refine Nat.mul_pos ?_ hup
    unfold Cell.of
    simp only
    split <;> omega
  have hhits := hits_of_onGrid? h
  rintro rfl
  unfold Hits Inside at hhits
  rw [Nat.zero_mul] at hhits
  split at hhits <;> omega

/-! ## 4. The search -/

/-- The search stops at the first grid with a hit, if there is one it comes to. -/
theorem search_onGrid {m : Nat} {e p : Int} {fuel count : Nat}
    (h : onGrid? m e (p - (count + fuel : Nat)) ≠ none) :
    ∃ k, count ≤ k ∧ k ≤ count + fuel ∧ (∀ j, count ≤ j → j < k → onGrid? m e (p - j) = none) ∧
      onGrid? m e (p - k) = some (search m e p fuel count).digits ∧
      (search m e p fuel count).exponent = p - k := by
  induction fuel generalizing count with
  | zero =>
    obtain ⟨c, hc⟩ := Option.ne_none_iff_exists'.mp h
    refine ⟨count, le_rfl, le_rfl, fun j hj hlt => absurd hj (Nat.not_le_of_lt hlt), ?_, rfl⟩
    rw [Nat.add_zero] at hc
    rw [search, hc]
    rfl
  | succ fuel ih =>
    rw [search]
    cases hc : onGrid? m e (p - count) with
    | some c =>
      exact ⟨count, le_rfl, Nat.le_add_right _ _, fun j hj hlt => absurd hj (Nat.not_le_of_lt hlt),
        hc, rfl⟩
    | none =>
      have hnext : count + (fuel + 1) = count + 1 + fuel := by omega
      rw [hnext] at h
      obtain ⟨k, hle, hlast, hfirst, hdigits, hexponent⟩ := ih h
      refine ⟨k, by omega, by omega, ?_, hdigits, hexponent⟩
      intro j hj hlt
      rcases Nat.eq_or_lt_of_le hj with rfl | hmore
      · exact hc
      · exact hfirst j hmore hlt

/-- **The shortest decimal of a double is a point of its cell**, on the coarsest grid that has
one. -/
theorem shortest_onGrid {m : Nat} {e : Int} (hm : 0 < m) (hbits : m < 2 ^ 53) (he : -1074 ≤ e) :
    ∃ k : Nat, 1 ≤ k ∧ k ≤ 17 ∧
      (∀ j : Nat, 1 ≤ j → j < k → onGrid? m e (point m e - j) = none) ∧
      onGrid? m e (point m e - k) = some (shortest m e).digits ∧
      (shortest m e).exponent = point m e - k :=
  @search_onGrid m e (point m e) 16 1 (onGrid?_seventeen hm hbits he)

/-! ## 5. There is something to show -/

theorem digitsValue_zeros (k : Nat) : Text.digitsValue (List.replicate k '0') = 0 := by
  induction k with
  | zero => rfl
  | succ k ih =>
    rw [List.replicate_succ', Text.digitsValue, List.map_append, List.map_singleton,
      Text.ofDigits_concat, ← Text.digitsValue, ih]
    rfl

theorem significant_ne_nil {n : Nat} (hn : n ≠ 0) : significant n ≠ [] := by
  intro hnil
  have hzeros : ∀ c ∈ Nat.toDigits 10 n, c = '0' := by
    have hdrop : (Nat.toDigits 10 n).reverse.dropWhile (· = '0') = [] := List.reverse_eq_nil_iff.mp hnil
    intro c hc
    have hall := List.dropWhile_eq_nil_iff.mp hdrop c (List.mem_reverse.mpr hc)
    simpa using hall
  -- digits that are all zero are those of zero
  have hvalue := Command.digitsValue_toDigits n
  rw [List.eq_replicate_of_mem hzeros] at hvalue
  exact hn (hvalue.symm.trans (digitsValue_zeros _))

theorem layout_ne_nil {ds : List Char} (point : Int) (h : ds ≠ []) : layout ds point ≠ [] := by
  unfold layout
  split
  · split
    · simp
    · split <;> simp
  · cases ds with
    | nil => exact absurd rfl h
    | cons d rest => cases rest <;> simp

theorem magnitudeText_ne_nil {m : Nat} {e : Int} (hbits : m < 2 ^ 53) (he : -1074 ≤ e) :
    magnitudeText m e ≠ [] := by
  unfold magnitudeText
  split
  · simp
  · rename_i hm
    have hpos : 0 < m := Nat.pos_of_ne_zero hm
    obtain ⟨k, _, _, _, hdigits, _⟩ := shortest_onGrid hpos hbits he
    exact layout_ne_nil _ (significant_ne_nil (ne_zero_of_onGrid? hpos hdigits))

/-- No double is shown as an empty text. -/
theorem floatText_ne_empty (x : Float) : floatText x ≠ "" := by
  unfold floatText
  split
  · rename_i negative m e hparts
    obtain ⟨hbits, he⟩ := finite_of_parts hparts
    have hmagnitude := magnitudeText_ne_nil hbits he
    cases negative with
    | true => simp
    | false => simpa using hmagnitude
  · split <;> decide
  · decide

end GridSketch.Decimal
