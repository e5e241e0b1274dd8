import GridSketch.Decimal.Shortest
import Mathlib

/-!
# Rounding to the cell of a double

A number that is no double is rounded to one. What is rounded is a mantissa and an exponent: places
are dropped until fifty-three bits are left, and of what is dropped a bit is kept for the next place
and a bit for all the places behind (`Locates`). That is enough to round to the nearest whole number,
the even one of two (`Nearest`), and where this carries over, one place more is dropped.

The numbers that are rounded to a double are those in its cell (`InCell`), the cell in which
`Decimal.Shortest` looks for decimals. It is not quite the same to be in the cell and to be nearest
to the mantissa: below a power of two the doubles are twice as dense, and a number there is rounded
one place further behind and carried over (`place_of_inCell`).

A product is rounded as what it is worth (`mul_of_inCell`), and so is a quotient, since what is left
of a division says how far the quotient is from its whole part (`says_quotient`, `div_of_inCell`).
-/

set_option autoImplicit false

namespace GridSketch.Decimal

open Float.Model (Format totalExponent)
open Float.Model.UnpackedFloat

/-! ## 1. The nearest whole number -/

/-- A natural number is the nearest to a fraction, and the even one of two. -/
def Nearest (x : ℚ) (n : Nat) : Prop :=
  if n % 2 = 0 then (n : ℚ) - 1 / 2 ≤ x ∧ x ≤ n + 1 / 2
  else (n : ℚ) - 1 / 2 < x ∧ x < n + 1 / 2

theorem Nearest.of_lt {x : ℚ} {n : Nat} (hlow : (n : ℚ) - 1 / 2 < x) (hhigh : x < n + 1 / 2) :
    Nearest x n := by
  unfold Nearest
  split
  · exact ⟨hlow.le, hhigh.le⟩
  · exact ⟨hlow, hhigh⟩

theorem Nearest.of_even {x : ℚ} {n : Nat} (heven : n % 2 = 0) (hlow : (n : ℚ) - 1 / 2 ≤ x)
    (hhigh : x ≤ n + 1 / 2) : Nearest x n := by
  rw [Nearest, if_pos heven]
  exact ⟨hlow, hhigh⟩

theorem Nearest.le {x : ℚ} {n : Nat} (h : Nearest x n) : (n : ℚ) - 1 / 2 ≤ x ∧ x ≤ n + 1 / 2 := by
  unfold Nearest at h
  split at h
  · exact h
  · exact ⟨h.1.le, h.2.le⟩

theorem Nearest.not_lt {x : ℚ} {n n' : Nat} (h : Nearest x n) (h' : Nearest x n') : ¬ n < n' := by
  intro hlt
  have hnext : ((n + 1 : Nat) : ℚ) ≤ n' := Nat.cast_le.mpr hlt
  push_cast at hnext
  -- the two are next to each other and the fraction is half-way between, so only one is even
  have hone : n' = n + 1 := by
    have hle : (n' : ℚ) ≤ n + 1 := by linarith [h.le.2, h'.le.1]
    exact Nat.le_antisymm (by exact_mod_cast hle) hlt
  subst hone
  push_cast at hnext
  unfold Nearest at h h'
  push_cast at h'
  split at h
  · rw [if_neg (by omega)] at h'
    linarith [h.2, h'.1]
  · rw [if_pos (by omega)] at h'
    linarith [h.2, h'.1]

/-- There is one nearest whole number. -/
theorem Nearest.unique {x : ℚ} {n n' : Nat} (h : Nearest x n) (h' : Nearest x n') : n = n' :=
  Nat.le_antisymm (Nat.not_lt.mp (h'.not_lt h)) (Nat.not_lt.mp (h.not_lt h'))

/-! ## 2. Two bits behind a mantissa -/

/-- A mantissa with a bit for the next place and a bit for all the places behind says where a
fraction is. -/
def Locates (em : ExtendedMantissa) (x : ℚ) : Prop :=
  match em.roundBit, em.stickyBit with
  | false, false => x = em.mantissa
  | false, true => em.mantissa < x ∧ x < em.mantissa + 1 / 2
  | true, false => x = em.mantissa + 1 / 2
  | true, true => em.mantissa + 1 / 2 < x ∧ x < em.mantissa + 1

theorem Locates.bounds {em : ExtendedMantissa} {x : ℚ} (h : Locates em x) :
    (em.mantissa : ℚ) ≤ x ∧ x < em.mantissa + 1 := by
  obtain ⟨m, round, sticky⟩ := em
  cases round <;> cases sticky <;> simp only [Locates] at h ⊢ <;> constructor <;> linarith

/-- The last bit of the mantissa becomes the next place, and what was known of the places behind is
still known of one more of them. -/
theorem Locates.shiftRightOne {em : ExtendedMantissa} {x : ℚ} (h : Locates em x) :
    Locates em.shiftRightOne (x / 2) := by
  obtain ⟨m, round, sticky⟩ := em
  have hparts : ((m % 2 : Nat) : ℚ) + 2 * ((m / 2 : Nat) : ℚ) = m := by
    exact_mod_cast Nat.mod_add_div m 2
  rcases Nat.mod_two_eq_zero_or_one m with hlast | hlast
  all_goals
    rw [hlast] at hparts
    push_cast at hparts
    cases round <;> cases sticky <;>
      simp only [Locates, ExtendedMantissa.shiftRightOne, hlast, Nat.reduceBNe, Bool.or_false,
        Bool.or_true] at h ⊢ <;>
      first | linarith | exact ⟨by linarith, by linarith⟩

theorem Locates.shiftRight {em : ExtendedMantissa} {x : ℚ} (h : Locates em x) (k : Nat) :
    Locates (em >>> k) (x / 2 ^ k) := by
  change Locates (k.repeat ExtendedMantissa.shiftRightOne em) (x / 2 ^ k)
  induction k with
  | zero => simpa [Nat.repeat] using h
  | succ k ih =>
    rw [Nat.repeat, pow_succ, ← div_div]
    exact ih.shiftRightOne

/-- What a located fraction is rounded to is the nearest whole number. -/
theorem Locates.nearest {em : ExtendedMantissa} {x : ℚ} (h : Locates em x) :
    Nearest x em.roundedMantissa := by
  obtain ⟨m, round, sticky⟩ := em
  cases round <;> cases sticky <;> simp only [Locates] at h
  · exact Nearest.of_lt (n := m) (by linarith) (by linarith)
  · exact Nearest.of_lt (n := m) (by linarith) (by linarith)
  · change Nearest x (m + m % 2)
    rcases Nat.mod_two_eq_zero_or_one m with heven | hodd
    · rw [heven, Nat.add_zero]
      exact Nearest.of_even heven (by linarith) (by linarith)
    · rw [hodd]
      apply Nearest.of_even
      · omega
      · push_cast
        linarith
      · push_cast
        linarith
  · refine Nearest.of_lt (n := m + 1) ?_ ?_
    · push_cast
      linarith
    · push_cast
      linarith

/-! ## 3. Rounding to fifty-three bits -/

theorem targetExponent_binary64 (t : Int) :
    Format.binary64.targetExponent t = max (t - 53) (-1074) :=
  rfl

/-- A mantissa that is not too long stays as it is. -/
theorem shiftToTargetExponent_of_lt {m : Nat} {e : Int} (hm : m < 2 ^ 53) (he : -1074 ≤ e) :
    shiftToTargetExponent Format.binary64 m e .exact = (⟨m, false, false⟩, e) := by
  have hlog : m.log2 ≤ 52 := by
    rcases Nat.eq_zero_or_pos m with rfl | hpos
    · decide
    · exact Nat.le_of_lt_succ ((Nat.log2_lt hpos.ne').mpr hm)
  have hshift : (Format.binary64.targetExponent (totalExponent m e) - e).toNat = 0 := by
    rw [targetExponent_binary64, totalExponent]
    omega
  rw [shiftToTargetExponent, shiftToExponent, hshift]
  simp only [Nat.cast_zero, add_zero]
  rfl

/-- One that rounding has carried over is halved. -/
theorem shiftToTargetExponent_carry {e : Int} (he : -1074 ≤ e) :
    shiftToTargetExponent Format.binary64 (2 ^ 53) e .exact =
      (⟨2 ^ 52, false, false⟩, e + 1) := by
  have hshift : (Format.binary64.targetExponent (totalExponent (2 ^ 53) e) - e).toNat = 1 := by
    rw [targetExponent_binary64, totalExponent, Nat.log2_two_pow]
    omega
  rw [shiftToTargetExponent, shiftToExponent, hshift]
  rfl

/-- The exponent that a number of a mantissa and an exponent is rounded at. -/
def place (m : Nat) (e : Int) : Int :=
  max ((m.log2 : Int) + e - 52) (-1074)

theorem targetExponent_totalExponent (m : Nat) (e : Int) :
    Format.binary64.targetExponent (totalExponent m e) = place m e := by
  rw [targetExponent_binary64, totalExponent, place]
  congr 1
  omega

/-- The number that is rounded: what the mantissa and its accuracy say. -/
def Says (m : Nat) (a : Accuracy) (x : ℚ) : Prop :=
  Locates (ExtendedMantissa.ofMantissaAndAccuracy m a) x

variable {q m : Nat} {E e : Int} {a : Accuracy} {x : ℚ}

theorem says_exact (m : Nat) : Says m .exact m :=
  rfl

theorem Says.bounds (h : Says q a x) : (q : ℚ) ≤ x ∧ x < q + 1 := by
  have hq : (ExtendedMantissa.ofMantissaAndAccuracy q a).mantissa = q := by
    cases a with
    | exact => rfl
    | inexact o => cases o <;> rfl
  have hbounds := Locates.bounds h
  rwa [hq] at hbounds

/-- The mantissa at the place where it is rounded. -/
theorem exists_shiftToTargetExponent (h : Says q a x) (hE : E ≤ place q E) :
    ∃ em, shiftToTargetExponent Format.binary64 q E a = (em, place q E) ∧
      Nearest (x * 2 ^ E / 2 ^ place q E) em.roundedMantissa := by
  obtain ⟨k, hk⟩ := Int.le.dest hE
  have hshift : (place q E - E).toNat = k := by omega
  have hx : x * 2 ^ E / 2 ^ place q E = x / 2 ^ k := by
    rw [← hk, zpow_add₀ two_ne_zero, zpow_natCast]
    field_simp
  refine ⟨_, ?_, hx ▸ (Locates.shiftRight h k).nearest⟩
  rw [shiftToTargetExponent, targetExponent_totalExponent, shiftToExponent, hshift, hk]

theorem roundWithAccuracy_of_nearest (sign : Sign) (h : Says q a x) (hE : E ≤ place q E)
    (hm : 0 < m) (hlt : m < 2 ^ 53) (hnear : Nearest (x * 2 ^ E / 2 ^ place q E) m) :
    roundWithAccuracy Format.binary64 sign q E a = .finite sign m (place q E) hm := by
  obtain ⟨em, hfirst, hrounded⟩ := exists_shiftToTargetExponent h hE
  have hplace : -1074 ≤ place q E := le_max_right _ _
  rw [roundWithAccuracy, hfirst]
  simp only [hrounded.unique hnear, shiftToTargetExponent_of_lt hlt hplace]
  rw [dif_neg hm.ne']

theorem roundWithAccuracy_of_carry (sign : Sign) (h : Says q a x) (hE : E ≤ place q E)
    (hnear : Nearest (x * 2 ^ E / 2 ^ place q E) (2 ^ 53)) :
    roundWithAccuracy Format.binary64 sign q E a =
      .finite sign (2 ^ 52) (place q E + 1) (Nat.two_pow_pos 52) := by
  obtain ⟨em, hfirst, hrounded⟩ := exists_shiftToTargetExponent h hE
  have hplace : -1074 ≤ place q E := le_max_right _ _
  rw [roundWithAccuracy, hfirst]
  simp only [hrounded.unique hnear, shiftToTargetExponent_carry hplace]
  rfl

/-! ## 4. Cells -/

/-- A mantissa and an exponent as they stand in the bits of a double that is not zero. -/
structure Canonical (m : Nat) (e : Int) : Prop where
  pos : 0 < m
  lt : m < 2 ^ 53
  least : -1074 ≤ e
  greatest : e ≤ 971
  full : 2 ^ 52 ≤ m ∨ e = -1074

/-- A fraction is in the cell of a double. -/
def InCell (m : Nat) (e : Int) (v : ℚ) : Prop :=
  if (Cell.of m e).closed then
    (Cell.of m e).low * (2 : ℚ) ^ (e - 2) ≤ v ∧ v ≤ (Cell.of m e).high * (2 : ℚ) ^ (e - 2)
  else
    (Cell.of m e).low * (2 : ℚ) ^ (e - 2) < v ∧ v < (Cell.of m e).high * (2 : ℚ) ^ (e - 2)

variable {v : ℚ}

theorem two_zpow_pos (e : Int) : (0 : ℚ) < 2 ^ e :=
  zpow_pos two_pos e

/-- The ends of a cell in the last place of the mantissa. -/
theorem cell_high (m : Nat) (e : Int) :
    ((Cell.of m e).high : ℚ) * 2 ^ (e - 2) = (m + 1 / 2) * 2 ^ e := by
  have hpos := two_zpow_pos e
  rw [zpow_sub₀ two_ne_zero, Cell.of]
  push_cast
  field_simp
  ring

theorem cell_low (hm : 0 < m) :
    ((Cell.of m e).low : ℚ) * 2 ^ (e - 2) =
      if m = 2 ^ 52 ∧ e ≠ -1074 then ((m : ℚ) - 1 / 4) * 2 ^ e else ((m : ℚ) - 1 / 2) * 2 ^ e := by
  have hpos := two_zpow_pos e
  rw [zpow_sub₀ two_ne_zero, Cell.of, Nat.one_shiftLeft]
  simp only
  split
  · rw [Nat.cast_sub (by omega)]
    push_cast
    field_simp
  · rw [Nat.cast_sub (by omega)]
    push_cast
    field_simp
    ring

theorem InCell.le (h : InCell m e v) :
    (Cell.of m e).low * (2 : ℚ) ^ (e - 2) ≤ v ∧ v ≤ (Cell.of m e).high * (2 : ℚ) ^ (e - 2) := by
  unfold InCell at h
  split at h
  · exact h
  · exact ⟨h.1.le, h.2.le⟩

/-- A double is the nearest one to what is in its cell. -/
theorem InCell.nearest (h : InCell m e v) (hm : 0 < m) : Nearest (v / 2 ^ e) m := by
  have hpos := two_zpow_pos e
  have hlow : ((m : ℚ) - 1 / 2) * 2 ^ e ≤ (Cell.of m e).low * 2 ^ (e - 2) := by
    rw [cell_low hm]
    split
    · gcongr
      norm_num
    · exact le_rfl
  have hclosed : (Cell.of m e).closed = true ↔ m % 2 = 0 := decide_eq_true_iff
  unfold InCell at h
  rw [cell_high] at h
  unfold Nearest
  by_cases heven : m % 2 = 0
  · rw [if_pos (hclosed.mpr heven)] at h
    rw [if_pos heven, le_div_iff₀ hpos, div_le_iff₀ hpos]
    exact ⟨hlow.trans h.1, h.2⟩
  · rw [if_neg (mt hclosed.mp heven)] at h
    rw [if_neg heven, lt_div_iff₀ hpos, div_lt_iff₀ hpos]
    exact ⟨hlow.trans_lt h.1, h.2⟩

theorem InCell.lt (h : InCell m e v) (hm : m < 2 ^ 53) : v < 2 ^ (e + 53) := by
  have hpos := two_zpow_pos e
  have hle : ((m + 1 : Nat) : ℚ) ≤ ((2 ^ 53 : Nat) : ℚ) := Nat.cast_le.mpr hm
  push_cast at hle
  calc v ≤ (m + 1 / 2) * 2 ^ e := cell_high m e ▸ h.le.2
    _ < 2 ^ 53 * 2 ^ e := by
        gcongr
        linarith
    _ = 2 ^ (e + 53) := by
        rw [zpow_add₀ two_ne_zero, mul_comm]
        norm_num

/-- What is in the cell of a double is not below the power of two below the double, and not far below
the double where that is a power of two itself. -/
theorem InCell.gt (h : InCell m e v) (hm : 2 ^ 52 ≤ m) :
    2 ^ (e + 51) < v ∧ (m ≠ 2 ^ 52 → 2 ^ (e + 52) < v) ∧
      (m = 2 ^ 52 → e ≠ -1074 → (2 ^ 52 - 1 / 4) * 2 ^ e ≤ v) := by
  have hpos := two_zpow_pos e
  have hnear := (h.nearest (by omega)).le.1
  rw [le_div_iff₀ hpos] at hnear
  refine ⟨?_, ?_, ?_⟩
  · have hle : ((2 ^ 52 : Nat) : ℚ) ≤ m := Nat.cast_le.mpr hm
    push_cast at hle
    calc (2 : ℚ) ^ (e + 51) = 2 ^ 51 * 2 ^ e := by
          rw [zpow_add₀ two_ne_zero, mul_comm]
          norm_num
      _ < (m - 1 / 2) * 2 ^ e := by
          gcongr
          linarith
      _ ≤ v := hnear
  · intro hne
    have hlt : ((2 ^ 52 + 1 : Nat) : ℚ) ≤ m := Nat.cast_le.mpr (by omega)
    push_cast at hlt
    calc (2 : ℚ) ^ (e + 52) = 2 ^ 52 * 2 ^ e := by
          rw [zpow_add₀ two_ne_zero, mul_comm]
          norm_num
      _ < (m - 1 / 2) * 2 ^ e := by
          gcongr
          linarith
      _ ≤ v := hnear
  · intro hpower he
    have hlow := h.le.1
    rw [cell_low (by omega), if_pos ⟨hpower, he⟩, hpower] at hlow
    push_cast at hlow
    exact hlow

/-! ## 5. Rounding into a cell -/

theorem lt_of_two_zpow {i j : Int} (h : (2 : ℚ) ^ i < 2 ^ j) : i < j :=
  (zpow_lt_zpow_iff_right₀ one_lt_two).mp h

/-- What a mantissa says is between the powers of two at its first place. -/
theorem Says.powers (h : Says q a x) (E : Int) :
    (q ≠ 0 → (2 : ℚ) ^ ((q.log2 : Int) + E) ≤ x * 2 ^ E) ∧
      x * 2 ^ E < 2 ^ ((q.log2 : Int) + E + 1) := by
  have hpos := two_zpow_pos E
  obtain ⟨hlow, hhigh⟩ := h.bounds
  constructor
  · intro hq
    have hle : ((2 ^ q.log2 : Nat) : ℚ) ≤ q := Nat.cast_le.mpr (Nat.log2_self_le hq)
    push_cast at hle
    rw [zpow_add₀ two_ne_zero, zpow_natCast]
    gcongr
    linarith
  · have hlt : ((q + 1 : Nat) : ℚ) ≤ ((2 ^ (q.log2 + 1) : Nat) : ℚ) :=
      Nat.cast_le.mpr Nat.lt_log2_self
    push_cast at hlt
    have hsum : (q.log2 : Int) + E + 1 = ((q.log2 + 1 : Nat) : Int) + E := by omega
    rw [hsum, zpow_add₀ two_ne_zero, zpow_natCast]
    gcongr
    linarith

/-- A number in the cell of a double is rounded at the last place of the double, or one place further
where the double is a power of two and the number below it. -/
theorem place_of_inCell (h : Says q a x) (hE : E ≤ place q E) (hc : Canonical m e)
    (hv : InCell m e (x * 2 ^ E)) :
    place q E = e ∨ place q E = e - 1 ∧ m = 2 ^ 52 ∧ e ≠ -1074 := by
  obtain ⟨hfirst, hnext⟩ := h.powers E
  have hplace : place q E = max ((q.log2 : Int) + E - 52) (-1074) := rfl
  have hleast := hc.least
  have hlt := hv.lt hc.lt
  rcases Int.lt_trichotomy (place q E) e with hless | heq | hmore
  · right
    have hfull : 2 ^ 52 ≤ m := hc.full.resolve_right (by omega)
    obtain ⟨hgt, hgt', _⟩ := hv.gt hfull
    have hnear := lt_of_two_zpow (hgt.trans hnext)
    have hpower : m = 2 ^ 52 := by
      by_contra hne
      have hnear' := lt_of_two_zpow ((hgt' hne).trans hnext)
      omega
    omega
  · exact Or.inl heq
  · have hq : q ≠ 0 := by
      rintro rfl
      rw [Nat.log2_zero] at hplace
      omega
    have hfar := lt_of_two_zpow ((hfirst hq).trans_lt hlt)
    omega

/-- **A number in the cell of a double is rounded to the double.** -/
theorem roundWithAccuracy_of_inCell (sign : Sign) (h : Says q a x) (hE : E ≤ place q E)
    (hc : Canonical m e) (hv : InCell m e (x * 2 ^ E)) :
    roundWithAccuracy Format.binary64 sign q E a = .finite sign m e hc.pos := by
  rcases place_of_inCell h hE hc hv with hplace | ⟨hplace, rfl, hne⟩
  · subst hplace
    exact roundWithAccuracy_of_nearest sign h hE hc.pos hc.lt (hv.nearest hc.pos)
  · -- the number is rounded up to the next power of two
    have hnear : Nearest (x * 2 ^ E / 2 ^ place q E) (2 ^ 53) := by
      have hpos := two_zpow_pos e
      have hlow := (hv.gt le_rfl).2.2 rfl hne
      have hhigh := (h.powers E).2
      have hlog : (q.log2 : Int) + E + 1 ≤ e + 52 := by
        unfold place at hplace
        omega
      have hhigh := hhigh.trans_le (zpow_le_zpow_right₀ one_le_two hlog)
      rw [zpow_add₀ two_ne_zero] at hhigh
      rw [hplace, zpow_sub_one₀ two_ne_zero]
      apply Nearest.of_even (by decide)
      · rw [le_div_iff₀ (by positivity)]
        push_cast
        linarith
      · rw [div_le_iff₀ (by positivity)]
        push_cast
        norm_num at hhigh ⊢
        linarith
    rw [roundWithAccuracy_of_carry sign h hE hnear]
    congr 1
    omega

/-! ## 6. Products and quotients -/

theorem le_place {q : Nat} (hq : 2 ^ 52 ≤ q) (E : Int) : E ≤ place q E := by
  have hlog : 52 ≤ q.log2 := (Nat.le_log2 (by omega)).mpr hq
  unfold place
  omega

variable {m₁ m₂ : Nat} {e₁ e₂ : Int}

/-- A product is rounded as what it is worth. -/
theorem mul_of_inCell (s₁ s₂ : Sign) (h₁ : 0 < m₁) (h₂ : 0 < m₂) (hq : 2 ^ 52 ≤ m₁ * m₂)
    (hc : Canonical m e) (hv : InCell m e (m₁ * 2 ^ e₁ * (m₂ * 2 ^ e₂))) :
    mul Format.binary64 (.finite s₁ m₁ e₁ h₁) (.finite s₂ m₂ e₂ h₂) =
      .finite (s₁ * s₂) m e hc.pos := by
  have hvalue : (m₁ : ℚ) * 2 ^ e₁ * (m₂ * 2 ^ e₂) = ((m₁ * m₂ : Nat) : ℚ) * 2 ^ (e₁ + e₂) := by
    rw [zpow_add₀ two_ne_zero]
    push_cast
    ring
  rw [hvalue] at hv
  exact roundWithAccuracy_of_inCell _ (says_exact _) (le_place hq _) hc hv

/-- What is left of a division says how far the quotient is from its whole part. -/
theorem says_quotient (num : Nat) {den : Nat} (hden : 0 < den) :
    Says (num / den) (accuracyOfFraction (num % den) den) (num / den) := by
  have hpos : (0 : ℚ) < den := Nat.cast_pos.mpr hden
  have hparts : (num : ℚ) = den * ((num / den : Nat) : ℚ) + ((num % den : Nat) : ℚ) := by
    exact_mod_cast (Nat.div_add_mod num den).symm
  have hrest : ((num % den : Nat) : ℚ) < den := Nat.cast_lt.mpr (Nat.mod_lt num hden)
  have hx : (num : ℚ) / den = ((num / den : Nat) : ℚ) + ((num % den : Nat) : ℚ) / den := by
    rw [hparts]
    field_simp
  rw [hx]
  generalize num / den = q
  generalize num % den = r at hrest
  unfold accuracyOfFraction
  by_cases hr : r = 0
  · rw [if_pos hr, hr]
    simp [Says, Locates, ExtendedMantissa.ofMantissaAndAccuracy]
  · rw [if_neg hr]
    have hrpos : (0 : ℚ) < r := Nat.cast_pos.mpr (Nat.pos_of_ne_zero hr)
    rcases Nat.lt_trichotomy (2 * r) den with hlt | heq | hgt
    · rw [Nat.compare_eq_lt.mpr hlt]
      have hlt' : (2 : ℚ) * r < den := by exact_mod_cast hlt
      constructor
      · exact lt_add_of_pos_right _ (by positivity)
      · refine add_lt_add_of_le_of_lt le_rfl ?_
        rw [div_lt_div_iff₀ hpos two_pos]
        linarith
    · rw [Nat.compare_eq_eq.mpr heq]
      have heq' : (2 : ℚ) * r = den := by exact_mod_cast heq
      change (q : ℚ) + r / den = q + 1 / 2
      rw [← heq']
      field_simp
    · rw [Nat.compare_eq_gt.mpr hgt]
      have hgt' : (den : ℚ) < 2 * r := by exact_mod_cast hgt
      constructor
      · refine add_lt_add_of_le_of_lt le_rfl ?_
        rw [div_lt_div_iff₀ two_pos hpos]
        linarith
      · exact add_lt_add_of_le_of_lt le_rfl ((div_lt_one hpos).mpr hrest)

/-- Enough places are divided out. -/
theorem le_place_quotient {k : Nat} {E : Int} (h₁ : 0 < m₁) (h₂ : 0 < m₂)
    (hE : E ≤ Format.binary64.targetExponent (totalExponent m₁ e₁ - totalExponent m₂ e₂))
    (hk : (k : Int) = e₁ - e₂ - E) : E ≤ place ((m₁ <<< k) / m₂) E := by
  rcases le_or_gt E (-1074) with hlow | hhigh
  · exact hlow.trans (le_max_right _ _)
  · apply le_place
    rw [targetExponent_binary64, totalExponent, totalExponent] at hE
    have hplaces : 52 + (m₂.log2 + 1) ≤ m₁.log2 + k := by omega
    rw [Nat.le_div_iff_mul_le h₂, Nat.shiftLeft_eq]
    calc 2 ^ 52 * m₂ ≤ 2 ^ 52 * 2 ^ (m₂.log2 + 1) :=
          Nat.mul_le_mul_left _ Nat.lt_log2_self.le
      _ ≤ 2 ^ (m₁.log2 + k) := by
          rw [← pow_add]
          exact Nat.pow_le_pow_right two_pos hplaces
      _ ≤ m₁ * 2 ^ k := by
          rw [pow_add]
          exact Nat.mul_le_mul_right _ (Nat.log2_self_le h₁.ne')

/-- A quotient is rounded as what it is worth. -/
theorem div_of_inCell (s₁ s₂ : Sign) (h₁ : 0 < m₁) (h₂ : 0 < m₂) (hc : Canonical m e)
    (hv : InCell m e (m₁ * 2 ^ e₁ / (m₂ * 2 ^ e₂))) :
    div Format.binary64 (.finite s₁ m₁ e₁ h₁) (.finite s₂ m₂ e₂ h₂) =
      .finite (s₁ / s₂) m e hc.pos := by
  generalize hE : min (e₁ - e₂)
    (Format.binary64.targetExponent (totalExponent m₁ e₁ - totalExponent m₂ e₂)) = E
  obtain ⟨k, hk⟩ := Int.eq_ofNat_of_zero_le (show 0 ≤ e₁ - e₂ - E by omega)
  have hplace : E ≤ place ((m₁ <<< k) / m₂) E :=
    le_place_quotient h₁ h₂ (hE ▸ min_le_right _ _) hk.symm
  have hpos : (0 : ℚ) < m₂ := Nat.cast_pos.mpr h₂
  have hvalue : (m₁ : ℚ) * 2 ^ e₁ / (m₂ * 2 ^ e₂) = ((m₁ <<< k : Nat) : ℚ) / m₂ * 2 ^ E := by
    have hsum : e₁ = k + E + e₂ := by omega
    rw [hsum, zpow_add₀ two_ne_zero, zpow_add₀ two_ne_zero, zpow_natCast, Nat.shiftLeft_eq]
    push_cast
    field_simp
  rw [hvalue] at hv
  rw [div, divCore]
  simp only [hE, hk, Int.toNat_natCast]
  exact roundWithAccuracy_of_inCell _ (says_quotient _ h₂) hplace hc hv

end GridSketch.Decimal
