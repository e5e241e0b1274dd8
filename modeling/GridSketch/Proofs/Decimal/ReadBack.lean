import GridSketch.Proofs.Decimal.Nearest

/-!
# The shortest decimal reads back

What is on a grid is in the cell of the double (`inCell_of_onGrid?`), and what is in the cell is
read as the double. So the shortest decimal of a double is read as the double, with however many
zeros it is written (`nearestSigned_shortest`).

It is written with a point or with an exponent by the place of its first digit, which is not always
the place of the first digit of the double. But for the two powers of ten that matter the double and
its shortest decimal are on the same side (`Shown.le_iff`): the power would have to be between the
two, and so in their cell, and then it is itself the shortest decimal. So the value of a double says
how it is written (`positional_iff`).
-/

set_option autoImplicit false

namespace GridSketch.Decimal

variable {m n c : Nat} {e z grid : Int} {v w : ℚ} {x : Float} {negative : Bool}

/-! ## 1. Grids and cells -/

/-- A hit on a grid is in the cell. -/
theorem inCell_of_onGrid? (h : onGrid? m e grid = some c) : InCell m e (c * 10 ^ grid) := by
  have hhits := hits_of_onGrid? h
  obtain ⟨u, hu, htwo, hten⟩ := exists_unit e grid
  unfold Hits at hhits
  rw [InCell, htwo, hten, ← mul_assoc, ← mul_assoc, ← mul_assoc]
  split at hhits
  · rename_i hclosed
    rw [if_pos hclosed]
    exact ⟨mul_le_mul_of_nonneg_right (by exact_mod_cast hhits.1) hu.le,
      mul_le_mul_of_nonneg_right (by exact_mod_cast hhits.2) hu.le⟩
  · rename_i hopen
    rw [if_neg hopen]
    exact ⟨mul_lt_mul_of_pos_right (by exact_mod_cast hhits.1) hu,
      mul_lt_mul_of_pos_right (by exact_mod_cast hhits.2) hu⟩

/-- What a shortest decimal is worth. -/
def Scaled.value (s : Scaled) : ℚ :=
  s.digits * 10 ^ s.exponent

theorem shortest_inCell (hc : Canonical m e) : InCell m e (shortest m e).value := by
  obtain ⟨k, _, _, _, hdigits, hexponent⟩ := shortest_onGrid hc.pos hc.lt hc.least
  rw [Scaled.value, hexponent]
  exact inCell_of_onGrid? hdigits

theorem shortest_digits_ne_zero (hc : Canonical m e) : (shortest m e).digits ≠ 0 := by
  obtain ⟨k, _, _, _, hdigits, _⟩ := shortest_onGrid hc.pos hc.lt hc.least
  exact ne_zero_of_onGrid? hc.pos hdigits

/-- **The shortest decimal of a double is read as the double**, and so is every other decimal of the
same value. -/
theorem nearestSigned_shortest (h : parts x = .finite negative m e) (hm : m ≠ 0)
    (hvalue : (n : ℚ) * 10 ^ z = (shortest m e).value) : nearestSigned negative n z = x := by
  have hc := canonical_of_parts h hm
  have hcell : InCell m e (n * 10 ^ z) := hvalue ▸ shortest_inCell hc
  have hn : n ≠ 0 := by
    rintro rfl
    have hpos := hcell.pos hc
    rw [Nat.cast_zero, zero_mul] at hpos
    exact hpos.false
  rw [nearestSigned_of_inCell negative hn hc hcell, ← eq_double h hc]

/-! ## 2. The exponents that are written with a point -/

/-- The first digit of a number says which powers of ten it is not below. -/
theorem le_first_digit_iff {k : Int} (hn : n ≠ 0) :
    k ≤ (Nat.toDigits 10 n).length + z - 1 ↔ (10 : ℚ) ^ k ≤ n * 10 ^ z := by
  have hten : (0 : ℚ) < 10 ^ z := zpow_pos (by norm_num) z
  have hlength : (Nat.toDigits 10 n).length = (Nat.repr n).length := by
    rw [← Nat.toList_repr, String.length_toList]
  have hpos : 0 < (Nat.repr n).length := Nat.length_repr_pos
  rw [hlength]
  constructor
  · intro hk
    have hdigits : ((10 ^ ((Nat.repr n).length - 1) : Nat) : ℚ) ≤ n :=
      Nat.cast_le.mpr (pow_length_le (Nat.pos_of_ne_zero hn))
    push_cast at hdigits
    calc (10 : ℚ) ^ k ≤ 10 ^ (((Nat.repr n).length - 1 : Nat) + z) :=
          zpow_le_zpow_right₀ (by norm_num) (by omega)
      _ = 10 ^ ((Nat.repr n).length - 1) * 10 ^ z := by
          rw [zpow_add₀ (by norm_num), zpow_natCast]
      _ ≤ n * 10 ^ z := by gcongr
  · intro hk
    have hdigits : n < 10 ^ (Nat.repr n).length := (Nat.length_repr_le_iff hpos).mp le_rfl
    have hcast : (n : ℚ) < 10 ^ (Nat.repr n).length := by exact_mod_cast hdigits
    have hlt : (10 : ℚ) ^ k < 10 ^ ((Nat.repr n).length + z) :=
      calc (10 : ℚ) ^ k ≤ n * 10 ^ z := hk
        _ < 10 ^ (Nat.repr n).length * 10 ^ z := by gcongr
        _ = 10 ^ ((Nat.repr n).length + z) := by rw [zpow_add₀ (by norm_num), zpow_natCast]
    have hexponents := (zpow_lt_zpow_iff_right₀ (by norm_num)).mp hlt
    omega

/-- A cell has what is between two numbers in it. -/
theorem InCell.convex {u : ℚ} (hv : InCell m e v) (hw : InCell m e w) (hvu : v ≤ u) (huw : u ≤ w) :
    InCell m e u := by
  unfold InCell at hv hw ⊢
  split
  · rename_i hclosed
    rw [if_pos hclosed] at hv hw
    exact ⟨hv.1.trans hvu, huw.trans hw.2⟩
  · rename_i hopen
    rw [if_neg hopen] at hv hw
    exact ⟨hv.1.trans_le hvu, huw.trans_lt hw.2⟩

/-- The place of the decimal point, from bounds that need no counting of digits. -/
theorem point_eq {k : Nat} (hlow : 10 ^ k ≤ wholePart (m * Nat.pow 10 400) e)
    (hhigh : wholePart (m * Nat.pow 10 400) e < 10 ^ (k + 1)) : point m e = k + 1 - 400 := by
  have hle := (Nat.length_repr_le_iff (Nat.succ_pos k)).mpr hhigh
  have hgt : ¬ (Nat.repr (wholePart (m * Nat.pow 10 400) e)).length ≤ k := by
    intro hle
    have hlt := (Nat.length_repr_le_iff (Nat.length_repr_pos.trans_le hle)).mp hle
    omega
  rw [point]
  omega

theorem shortest_of_onGrid? {p : Int} (hp : point m e = p) (h : onGrid? m e (p - 1) = some c) :
    shortest m e = ⟨c, p - 1⟩ := by
  rw [shortest, hp, search, Nat.cast_one, h]

/-- A power of ten that is shown as it is, and is not above its own double. -/
structure Shown (k : Int) (m : Nat) (e : Int) : Prop where
  parts : parts (nearest 1 k) = .finite false m e
  shortest : shortest m e = ⟨1, k⟩
  le : (10 : ℚ) ^ k ≤ m * 2 ^ e

theorem shown_least : Shown (-4) 7378697629483821 (-66) where
  parts := by decide +kernel
  shortest := by
    have hpoint : point 7378697629483821 (-66) = -3 :=
      @point_eq _ _ 396 (by decide +kernel) (by decide +kernel)
    exact shortest_of_onGrid? hpoint (by decide +kernel)
  le := by norm_num

theorem shown_beyond : Shown 16 5000000000000000 1 where
  parts := by decide +kernel
  shortest := by
    have hpoint : point 5000000000000000 1 = 17 :=
      @point_eq _ _ 416 (by decide +kernel) (by decide +kernel)
    exact shortest_of_onGrid? hpoint (by decide +kernel)
  le := by norm_num

/-- There is one double in whose cell such a power of ten is. -/
theorem Shown.unique {k : Int} {m' : Nat} {e' : Int} (h : Shown k m' e') (hc : Canonical m e)
    (hcell : InCell m e (10 ^ k)) : m = m' ∧ e = e' := by
  have hone : InCell m e ((1 : Nat) * 10 ^ k) := by rwa [Nat.cast_one, one_mul]
  have hparts := h.parts
  rw [nearest_of_inCell one_ne_zero hc hone, parts_double] at hparts
  injection hparts with _ hm he
  exact ⟨hm, he⟩

/-- The shortest decimal of a double and the double itself are on the same side of it. -/
theorem Shown.le_iff {k : Int} {m' : Nat} {e' : Int} (h : Shown k m' e') (hc : Canonical m e) :
    (10 : ℚ) ^ k ≤ (Decimal.shortest m e).value ↔ (10 : ℚ) ^ k ≤ m * 2 ^ e := by
  have hshown := shortest_inCell hc
  have hself := inCell_self hc.pos e
  constructor
  · intro hle
    by_contra hlt
    obtain ⟨rfl, rfl⟩ := h.unique hc (hself.convex hshown (not_le.mp hlt).le hle)
    exact hlt h.le
  · intro hle
    by_contra hlt
    obtain ⟨rfl, rfl⟩ := h.unique hc (hshown.convex hself (not_le.mp hlt).le hle)
    rw [h.shortest, Scaled.value, Nat.cast_one, one_mul] at hlt
    exact hlt le_rfl

/-- **A double is written with a point if it is from 0.0001 to below 10000000000000000.** -/
theorem positional_iff (hc : Canonical m e) :
    positional ((Nat.toDigits 10 (shortest m e).digits).length + (shortest m e).exponent - 1) = true ↔
      (10 : ℚ) ^ (-4 : Int) ≤ m * 2 ^ e ∧ (m * 2 ^ e : ℚ) < 10 ^ (16 : Int) := by
  have hfirst : ∀ k : Int, k ≤ (Nat.toDigits 10 (shortest m e).digits).length +
      (shortest m e).exponent - 1 ↔ (10 : ℚ) ^ k ≤ (shortest m e).value :=
    fun k => le_first_digit_iff (shortest_digits_ne_zero hc)
  have hleast := (hfirst (-4)).trans (shown_least.le_iff hc)
  have hbeyond := (hfirst 16).trans (shown_beyond.le_iff hc)
  rw [← hleast, ← not_le, ← hbeyond, positional, Bool.and_eq_true, decide_eq_true_iff,
    decide_eq_true_iff]
  omega

/-! ## 3. The value of a double -/

/-- The value of a double is that of its parts. -/
theorem abs_toRat (h : parts x = .finite negative m e) : |toRat x| = m * 2 ^ e := by
  have hup := zpow_mul_toNat (b := 2) two_ne_zero e
  have hpos : (0 : ℚ) < 2 ^ (-e).toNat := by positivity
  have hsigned : ∀ k : Nat, |((signed negative k : Int) : ℚ)| = k := by
    intro k
    cases negative with
    | true => simp [signed]
    | false => simp [signed]
  simp only [toRat, h]
  rw [Rat.mkRat_eq_div, abs_div, hsigned, Nat.shiftLeft_eq, Nat.one_shiftLeft]
  push_cast
  rw [abs_of_pos hpos, ← hup]
  field_simp

end GridSketch.Decimal
