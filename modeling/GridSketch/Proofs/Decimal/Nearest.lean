import GridSketch.Decimal.Reading
import GridSketch.Proofs.Decimal.Bits
import GridSketch.Proofs.Decimal.Shortest

/-!
# The double that a decimal is read as

Every decimal in the cell of a double is read as that double (`nearest_of_inCell`). There are three
ways to read one. Where the digits have fifty-three bits at most and the power of ten is a double,
they are multiplied or divided as doubles; both are exact (`Exact`), so the result is rounded once.
Other decimals are multiplied or divided as whole numbers and then rounded. And a power of ten far
outside the range of doubles is answered beforehand, which no decimal in the cell of a double has
(`InCell.exponent_lt`, `InCell.exponent_gt`).
-/

set_option autoImplicit false

namespace GridSketch.Decimal

open Float.Model (Format UnpackedFloat)
open Float.Model.UnpackedFloat (Sign)

variable {m n k : Nat} {e z : Int} {v : ℚ}

/-! ## 1. The range of doubles -/

/-- What is in the cell of a double is neither too great nor too small. -/
theorem InCell.range (h : InCell m e v) (hc : Canonical m e) :
    (2 : ℚ) ^ (-1075 : Int) ≤ v ∧ v < 2 ^ (1024 : Int) := by
  have hgreatest := hc.greatest
  have hleast := hc.least
  constructor
  · have hlow := (h.nearest hc.pos).le.1
    rw [le_div_iff₀ (two_zpow_pos e)] at hlow
    have hone : (1 : ℚ) ≤ m := Nat.one_le_cast.mpr hc.pos
    calc (2 : ℚ) ^ (-1075 : Int) ≤ 2 ^ (e - 1) := zpow_le_zpow_right₀ one_le_two (by omega)
      _ = 1 / 2 * 2 ^ e := by
          rw [zpow_sub_one₀ two_ne_zero]
          ring
      _ ≤ (m - 1 / 2) * 2 ^ e := by
          have hpos := two_zpow_pos e
          gcongr
          linarith
      _ ≤ v := hlow
  · exact (h.lt hc.lt).trans_le (zpow_le_zpow_right₀ one_le_two (by omega))

theorem InCell.pos (h : InCell m e v) (hc : Canonical m e) : 0 < v :=
  (two_zpow_pos _).trans_le (h.range hc).1

/-- Powers of ten are beyond those of eight. -/
theorem le_ten_zpow {k : Int} (hk : 0 ≤ k) : (2 : ℚ) ^ (3 * k) ≤ 10 ^ k := by
  rw [zpow_mul]
  exact zpow_le_zpow_left₀ hk (by norm_num) (by norm_num)

theorem ten_zpow_le {k : Int} (hk : k ≤ 0) : (10 : ℚ) ^ k ≤ 2 ^ (3 * k) := by
  have hinv := inv_anti₀ (two_zpow_pos (3 * -k)) (le_ten_zpow (Int.neg_nonneg.mpr hk))
  rwa [← zpow_neg, ← zpow_neg, neg_neg, mul_neg, neg_neg] at hinv

/-- A decimal in the cell of a double has not many places in front of the point. -/
theorem InCell.exponent_lt (h : InCell m e (n * 10 ^ z)) (hc : Canonical m e) (hn : n ≠ 0) :
    z < 342 := by
  by_contra hz
  have hone : (1 : ℚ) ≤ n := Nat.one_le_cast.mpr (Nat.pos_of_ne_zero hn)
  have hten : (0 : ℚ) < 10 ^ z := zpow_pos (by norm_num) z
  have hge : (2 : ℚ) ^ (1026 : Int) ≤ n * 10 ^ z :=
    calc (2 : ℚ) ^ (1026 : Int) ≤ 2 ^ (3 * z) := zpow_le_zpow_right₀ one_le_two (by omega)
      _ ≤ 1 * 10 ^ z := by
          rw [one_mul]
          exact le_ten_zpow (by omega)
      _ ≤ n * 10 ^ z := by gcongr
  have hlt := lt_of_two_zpow (hge.trans_lt (h.range hc).2)
  omega

/-- A decimal in the cell of a double has not many places of zeros behind the point. -/
theorem InCell.exponent_gt (h : InCell m e (n * 10 ^ z)) (hc : Canonical m e)
    (hk : n < 10 ^ k) : -359 ≤ z + k := by
  by_contra hz
  have hten : (0 : ℚ) < 10 ^ z := zpow_pos (by norm_num) z
  have hlt : (n : ℚ) * 10 ^ z < 2 ^ (-1077 : Int) :=
    calc (n : ℚ) * 10 ^ z < 10 ^ k * 10 ^ z := by
          have hcast : (n : ℚ) < 10 ^ k := by exact_mod_cast hk
          gcongr
      _ = 10 ^ (z + k) := by rw [zpow_add₀ (by norm_num), zpow_natCast, mul_comm]
      _ ≤ 2 ^ (3 * (z + k)) := ten_zpow_le (by omega)
      _ ≤ 2 ^ (-1077 : Int) := zpow_le_zpow_right₀ one_le_two (by omega)
  have hgt := lt_of_two_zpow ((h.range hc).1.trans_lt hlt)
  omega

/-! ## 2. Exact doubles -/

/-- A double is in its own cell. -/
theorem inCell_self (hm : 0 < m) (e : Int) : InCell m e (m * 2 ^ e) := by
  have hpos := two_zpow_pos e
  have hlow : ((Cell.of m e).low : ℚ) * 2 ^ (e - 2) < m * 2 ^ e := by
    rw [cell_low hm]
    split
    · gcongr
      norm_num
    · gcongr
      norm_num
  have hhigh : (m : ℚ) * 2 ^ e < (Cell.of m e).high * 2 ^ (e - 2) := by
    rw [cell_high]
    gcongr
    norm_num
  unfold InCell
  split
  · exact ⟨hlow.le, hhigh.le⟩
  · exact ⟨hlow, hhigh⟩

/-- A number that is a double, with all the bits of its mantissa. -/
def Exact (x : Float) (v : ℚ) : Prop :=
  ∃ (m : Nat) (e : Int) (hc : Canonical m e), x = double false hc ∧ 2 ^ 52 ≤ m ∧ v = m * 2 ^ e

/-- What fits in fifty-three bits is shifted up to them and then rounded to itself. -/
theorem ofNat_eq (hfull : 2 ^ 52 ≤ n <<< k) (hlog : n.log2 + k = 52)
    (hc : Canonical (n <<< k) (-(k : Int))) :
    UnpackedFloat.ofNat Format.binary64 n = .finite .positive (n <<< k) (-(k : Int)) hc.pos := by
  have hpos : 0 < n := by
    by_contra hzero
    obtain rfl : n = 0 := Nat.eq_zero_of_not_pos hzero
    rw [Nat.zero_shiftLeft] at hfull
    omega
  have htarget : Format.binary64.targetExponent (Float.Model.totalExponent n 0) = -(k : Int) := by
    rw [targetExponent_binary64, Float.Model.totalExponent]
    omega
  have hround := roundWithAccuracy_of_inCell .positive (says_exact (n <<< k))
    (le_place hfull (-(k : Int))) hc (inCell_self hc.pos _)
  have hsign : compare (n : Int) 0 = .gt := compare_gt_iff_gt.mpr (Int.natCast_pos.mpr hpos)
  rw [UnpackedFloat.ofNat, UnpackedFloat.ofInt, UnpackedFloat.normalize, hsign]
  simp only [UnpackedFloat.round, UnpackedFloat.decreaseExponent, Int.toNat_natCast, htarget,
    zero_sub, neg_neg]
  exact hround

/-- A natural number of fifty-three bits is converted as it is. -/
theorem exact_toFloat (hn : 0 < n) (hlt : n < 2 ^ 53) : Exact n.toUInt64.toFloat n := by
  have hlog : n.log2 < 53 := (Nat.log2_lt hn.ne').mpr hlt
  obtain ⟨k, hk⟩ := Nat.le.dest (Nat.le_of_lt_succ hlog)
  have hfull : 2 ^ 52 ≤ n <<< k := by
    rw [Nat.shiftLeft_eq, ← hk, pow_add]
    exact Nat.mul_le_mul_right _ (Nat.log2_self_le hn.ne')
  have hshort : n <<< k < 2 ^ 53 := by
    rw [Nat.shiftLeft_eq]
    calc n * 2 ^ k < 2 ^ (n.log2 + 1) * 2 ^ k :=
          Nat.mul_lt_mul_of_pos_right Nat.lt_log2_self (Nat.two_pow_pos k)
      _ = 2 ^ 53 := by
          rw [← pow_add]
          congr 1
          omega
  have hc : Canonical (n <<< k) (-(k : Int)) := by
    constructor <;> omega
  have hword : n.toUInt64.toNat = n := UInt64.toNat_ofNat_of_lt' (hlt.trans (by decide))
  refine ⟨n <<< k, -(k : Int), hc, ?_, hfull, ?_⟩
  · change Float.ofModel (.pack (UnpackedFloat.ofNat Format.binary64 n.toUInt64.toNat)) = _
    rw [hword, ofNat_eq hfull hk hc]
    rfl
  · rw [zpow_neg, zpow_natCast, Nat.shiftLeft_eq]
    push_cast
    field_simp

/-- The table of powers of ten is right. -/
theorem exact_powerOfTen (k : Fin Float.exactlyRepresentablePowersOfTen.size) :
    Exact Float.exactlyRepresentablePowersOfTen[k] (10 ^ k.val) := by
  have htable : ∀ k : Fin Float.exactlyRepresentablePowersOfTen.size,
      (match parts Float.exactlyRepresentablePowersOfTen[k] with
      | .finite negative m e => decide (negative = false ∧ 2 ^ 52 ≤ m ∧
          m * 2 ^ e.toNat = 10 ^ k.val * 2 ^ (-e).toNat)
      | _ => false) = true := by decide +kernel
  have hk := htable k
  split at hk
  · rename_i negative m e hparts
    obtain ⟨rfl, hfull, hvalue⟩ := of_decide_eq_true hk
    have hc := canonical_of_parts hparts (by omega)
    refine ⟨m, e, hc, eq_double hparts hc, hfull, ?_⟩
    have hup := zpow_mul_toNat (b := 2) two_ne_zero e
    have hcast : (m : ℚ) * 2 ^ e.toNat = 10 ^ k.val * 2 ^ (-e).toNat := by exact_mod_cast hvalue
    rw [← hup, ← mul_assoc] at hcast
    exact (mul_right_cancel₀ (by positivity) hcast).symm
  · exact nomatch hk

/-! ## 3. Products and quotients of exact doubles -/

variable {x y : Float} {w : ℚ}

theorem mul_of_exact (hx : Exact x v) (hy : Exact y w) (hc : Canonical m e)
    (h : InCell m e (v * w)) : x * y = double false hc := by
  obtain ⟨m₁, e₁, hc₁, rfl, hfull, rfl⟩ := hx
  obtain ⟨m₂, e₂, hc₂, rfl, _, rfl⟩ := hy
  have hlong : 2 ^ 52 ≤ m₁ * m₂ := hfull.trans (Nat.le_mul_of_pos_right _ hc₂.pos)
  change Float.ofModel (.pack (UnpackedFloat.mul Format.binary64
    (double false hc₁).toModel.unpack (double false hc₂).toModel.unpack)) = _
  rw [unpack_double, unpack_double, mul_of_inCell _ _ hc₁.pos hc₂.pos hlong hc h]
  rfl

theorem div_of_exact (hx : Exact x v) (hy : Exact y w) (hc : Canonical m e)
    (h : InCell m e (v / w)) : x / y = double false hc := by
  obtain ⟨m₁, e₁, hc₁, rfl, _, rfl⟩ := hx
  obtain ⟨m₂, e₂, hc₂, rfl, _, rfl⟩ := hy
  change Float.ofModel (.pack (UnpackedFloat.div Format.binary64
    (double false hc₁).toModel.unpack (double false hc₂).toModel.unpack)) = _
  rw [unpack_double, unpack_double, div_of_inCell _ _ hc₁.pos hc₂.pos hc h]
  rfl

/-! ## 4. Reading a decimal -/

/-- Whole numbers of any size are multiplied or divided, and the result is rounded. -/
theorem unpacked_ofScientific (hn : n ≠ 0) (hc : Canonical m e) (h : InCell m e (n * 10 ^ z)) :
    UnpackedFloat.ofScientific Format.binary64 n z = .finite .positive m e hc.pos := by
  have hlt := h.exponent_lt hc hn
  have hgt : -359 ≤ z + ((n.log2 + 1 : Nat) : Int) := h.exponent_gt hc
    (Nat.lt_log2_self.trans_le (Nat.pow_le_pow_left (by decide) _))
  have hbits : (Format.binary64.exponentBits : Nat) = 11 := rfl
  have hpos : 0 < n := Nat.pos_of_ne_zero hn
  have hpower : 0 < 10 ^ z.natAbs := Nat.pow_pos (by decide)
  rw [UnpackedFloat.ofScientific, dif_neg hn, hbits, if_neg (by omega), if_neg (by omega)]
  by_cases hz : 0 ≤ z
  · obtain ⟨k, rfl⟩ := Int.eq_ofNat_of_zero_le hz
    rw [if_pos hz]
    have hlong : 2 ^ 52 ≤ n <<< Format.binary64.mantissaBits * 10 ^ k := by
      have hbits : 2 ^ 52 ≤ 2 ^ Format.binary64.mantissaBits :=
        Nat.pow_le_pow_right two_pos (by decide)
      rw [Nat.shiftLeft_eq]
      exact (hbits.trans (Nat.le_mul_of_pos_left _ hpos)).trans (Nat.le_mul_of_pos_right _ hpower)
    refine mul_of_inCell .positive .positive _ _ hlong hc ?_
    have hvalue : ((n <<< Format.binary64.mantissaBits : Nat) : ℚ) *
        2 ^ (-(Format.binary64.mantissaBits : Int)) * (((10 ^ k : Nat) : ℚ) * 2 ^ (0 : Int)) =
        n * 10 ^ (k : Int) := by
      rw [zpow_neg, zpow_natCast, zpow_natCast, Nat.shiftLeft_eq]
      push_cast
      field_simp
    rwa [← hvalue] at h
  · obtain ⟨k, hk⟩ := Int.eq_ofNat_of_zero_le (show 0 ≤ -z by omega)
    rw [if_neg hz]
    refine div_of_inCell .positive .positive _ _ hc ?_
    have hvalue : (n : ℚ) * 2 ^ (0 : Int) / (((10 ^ (-z).toNat : Nat) : ℚ) * 2 ^ (0 : Int)) =
        n * 10 ^ z := by
      have hneg : z = -(k : Int) := by omega
      rw [hneg, neg_neg, Int.toNat_natCast, zpow_neg, zpow_natCast]
      push_cast
      field_simp
    rwa [← hvalue] at h

theorem ofScientific_of_inCell (hn : n ≠ 0) (hc : Canonical m e) (h : InCell m e (n * 10 ^ z)) :
    Float.ofScientific n (z < 0) z.natAbs = double false hc := by
  unfold Float.ofScientific
  by_cases hsmall : n < 2 ^ 53 ∧ z.natAbs ≤ 22
  · have hx := exact_toFloat (Nat.pos_of_ne_zero hn) hsmall.1
    have hy := exact_powerOfTen ⟨z.natAbs, Nat.lt_succ_of_le hsmall.2⟩
    rw [dif_pos hsmall]
    by_cases hz : z < 0
    · rw [if_pos (decide_eq_true hz)]
      refine div_of_exact hx hy hc ?_
      rwa [div_eq_mul_inv, ← zpow_natCast, ← zpow_neg, Int.natCast_natAbs, abs_of_neg hz, neg_neg]
    · rw [if_neg (by simpa using hz)]
      refine mul_of_exact hx hy hc ?_
      rwa [← zpow_natCast, Int.natCast_natAbs, abs_of_nonneg (Int.not_lt.mp hz)]
  · rw [dif_neg hsmall]
    have hexponent : (if decide (z < 0) = true then Int.negOfNat z.natAbs else Int.ofNat z.natAbs) =
        z := by
      by_cases hz : z < 0
      · rw [if_pos (decide_eq_true hz), Int.negOfNat_eq, Int.ofNat_eq_natCast]
        omega
      · rw [if_neg (by simpa using hz), Int.ofNat_eq_natCast]
        omega
    simp only [hexponent]
    rw [Float.Model.ofScientific, unpacked_ofScientific hn hc h]
    rfl

/-- **A decimal is read as the double whose cell it is in.** -/
theorem nearest_of_inCell (hn : n ≠ 0) (hc : Canonical m e) (h : InCell m e (n * 10 ^ z)) :
    nearest n z = double false hc := by
  have hlt := h.exponent_lt hc hn
  have hlong : ¬ (z < -400 ∧ z + (Nat.repr n).length < -400) := by
    rintro ⟨_, hshort⟩
    have hdigits : n < 10 ^ (Nat.repr n).length :=
      (Nat.length_repr_le_iff Nat.length_repr_pos).mp le_rfl
    have hgt := h.exponent_gt hc hdigits
    omega
  rw [nearest, if_neg hn, if_neg (by omega), if_neg hlong]
  exact ofScientific_of_inCell hn hc h

theorem neg_double (negative : Bool) (hc : Canonical m e) :
    -(double negative hc) = double (!negative) hc := by
  change Float.ofModel (.pack (double negative hc).toModel.unpack.neg) = _
  rw [unpack_double]
  cases negative <;> rfl

/-- A decimal with a sign is read as the double of that sign. -/
theorem nearestSigned_of_inCell (negative : Bool) (hn : n ≠ 0) (hc : Canonical m e)
    (h : InCell m e (n * 10 ^ z)) : nearestSigned negative n z = double negative hc := by
  rw [nearestSigned, nearest_of_inCell hn hc h]
  cases negative with
  | true => exact neg_double false hc
  | false => rfl

end GridSketch.Decimal
