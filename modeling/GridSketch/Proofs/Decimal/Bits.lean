import GridSketch.Proofs.Decimal.Rounding

/-!
# The bits of a double

A double is taken apart in two ways: into the parts of `Decimal.parts`, on which everything exact is
decided, and by the unpacking that all arithmetic of doubles begins with. Both are of the same bits
and say the same (`unpack_of_parts`), and a finite double is known by its parts (`eq_of_parts`).

The other way `double` packs a sign with a mantissa and an exponent that may stand in the bits
(`Canonical`), and these are the parts of what it makes (`parts_double`).
-/

set_option autoImplicit false

namespace GridSketch.Decimal

open Float.Model (Format UnpackedFloat)
open Float.Model.UnpackedFloat (Sign packComponents unpackMantissa unpackExponent unpackSign)

variable {x y : Float} {m : Nat} {e : Int} {negative : Bool}

/-! ## 1. Parts -/

/-- What is taken apart is what the bits are made of. -/
theorem bits_of_parts (h : parts x = .finite negative m e) :
    ∃ field tail : Nat, field < 2047 ∧ tail < 2 ^ 52 ∧
      x.toBits.toNat = (if negative then 1 else 0) * 2 ^ 63 + field * 2 ^ 52 + tail ∧
      (field = 0 ∧ m = tail ∧ e = -1074 ∨
        field ≠ 0 ∧ m = 2 ^ 52 + tail ∧ e = (field : Int) - 1075) := by
  have hbits : x.toBits.toNat < 2 ^ 64 := x.toBits.toNat_lt
  have hsign : (if (x.toBits.toNat >>> 63 == 1) = true then 1 else 0) = x.toBits.toNat / 2 ^ 63 := by
    rw [Nat.shiftRight_eq_div_pow]
    split
    · rename_i h
      exact (beq_iff_eq.mp h).symm
    · rename_i h
      rw [beq_iff_eq] at h
      omega
  have hfields : x.toBits.toNat = (if (x.toBits.toNat >>> 63 == 1) = true then 1 else 0) * 2 ^ 63 +
      x.toBits.toNat >>> 52 % 2 ^ 11 * 2 ^ 52 + x.toBits.toNat % 2 ^ 52 := by
    rw [hsign, Nat.shiftRight_eq_div_pow]
    omega
  have hfield : x.toBits.toNat >>> 52 % 2 ^ 11 < 2 ^ 11 := Nat.mod_lt _ (by decide)
  have htail : x.toBits.toNat % 2 ^ 52 < 2 ^ 52 := Nat.mod_lt _ (by decide)
  simp only [parts, Nat.one_shiftLeft] at h
  refine ⟨x.toBits.toNat >>> 52 % 2 ^ 11, x.toBits.toNat % 2 ^ 52, ?_⟩
  split at h
  · split at h <;> exact nomatch h
  · rename_i hfinite
    split at h
    · rename_i hzero
      injection h with hn hm he
      exact ⟨by omega, htail, hn ▸ hfields, Or.inl ⟨hzero, hm.symm, he.symm⟩⟩
    · rename_i hnormal
      injection h with hn hm he
      exact ⟨by omega, htail, hn ▸ hfields, Or.inr ⟨hnormal, hm.symm, he.symm⟩⟩

/-- The parts of a double that is not zero are canonical. -/
theorem canonical_of_parts (h : parts x = .finite negative m e) (hm : m ≠ 0) : Canonical m e := by
  obtain ⟨field, tail, hfield, htail, _, hparts⟩ := bits_of_parts h
  constructor <;> omega

/-- A finite double is known by its parts. -/
theorem eq_of_parts (h : parts x = .finite negative m e) (h' : parts y = .finite negative m e) :
    x = y := by
  obtain ⟨field, tail, hfield, htail, hbits, hparts⟩ := bits_of_parts h
  obtain ⟨field', tail', hfield', htail', hbits', hparts'⟩ := bits_of_parts h'
  have hnat : x.toBits.toNat = y.toBits.toNat := by
    rw [hbits, hbits']
    omega
  exact Float.toBits_inj.mp (UInt64.toNat_inj.mp hnat)

/-! ## 2. Packing -/

/-- The sign of a double. -/
def signOf (negative : Bool) : Sign :=
  if negative then .negative else .positive

theorem toNat_signOf (negative : Bool) :
    (signOf negative).toBitVec.toNat = if negative then 1 else 0 := by
  cases negative <;> rfl

/-- The double of a sign, a mantissa and an exponent. -/
def double (negative : Bool) (hc : Canonical m e) : Float :=
  .ofModel (.pack (.finite (signOf negative) m e hc.pos))

theorem toNat_append {n k : Nat} (a : BitVec n) (b : BitVec k) :
    (a ++ b).toNat = a.toNat * 2 ^ k + b.toNat := by
  rw [BitVec.toNat_append, ← Nat.shiftLeft_add_eq_or_of_lt b.isLt, Nat.shiftLeft_eq]

/-- The bits of a double are its three parts, one behind the other. -/
theorem toNat_packComponents (sign : Sign) (E : BitVec 11) (M : BitVec 52) :
    (packComponents Format.binary64 sign E M).toNat =
      sign.toBitVec.toNat * 2 ^ 63 + E.toNat * 2 ^ 52 + M.toNat := by
  change (sign.toBitVec ++ E ++ M).toNat = _
  rw [toNat_append, toNat_append]
  omega

theorem pack_finite (sign : Sign) (hc : Canonical m e) :
    UnpackedFloat.pack Format.binary64 (.finite sign m e hc.pos) =
      packComponents Format.binary64 sign
        (BitVec.ofNat 11 (if 2 ^ 52 ≤ m then (e + 1075).toNat else 0)) (BitVec.ofNat 52 m) := by
  have hlog : m.log2 + 1 = 53 ↔ 2 ^ 52 ≤ m := by
    rw [← Nat.le_log2 hc.pos.ne']
    have hlt := (Nat.log2_lt hc.pos.ne').mpr hc.lt
    omega
  have hleast := hc.least
  have hgreatest := hc.greatest
  have hbias : (e + (Format.binary64.exponentBias : Int) + (52 : Nat)).toNat = (e + 1075).toNat := by
    have : (Format.binary64.exponentBias : Int) = 1023 := rfl
    omega
  rw [UnpackedFloat.pack]
  simp only [hbias]
  rw [if_neg (by omega)]
  by_cases hfull : 2 ^ 52 ≤ m
  · rw [if_pos hfull]
    exact if_pos (hlog.mpr hfull)
  · rw [if_neg hfull]
    exact if_neg (mt hlog.mp hfull)

/-- What the bits are made of is what is taken apart. -/
theorem parts_of_bits {field tail : Nat} (hfield : field < 2047) (htail : tail < 2 ^ 52)
    (hbits : x.toBits.toNat = (if negative then 1 else 0) * 2 ^ 63 + field * 2 ^ 52 + tail) :
    parts x = if field = 0 then .finite negative tail (-1074)
      else .finite negative (2 ^ 52 + tail) ((field : Int) - 1075) := by
  have hsign : (x.toBits.toNat >>> 63 == 1) = negative := by
    rw [hbits, Nat.shiftRight_eq_div_pow]
    cases negative <;> simp <;> omega
  have hmiddle : x.toBits.toNat >>> 52 % 2 ^ 11 = field := by
    rw [hbits, Nat.shiftRight_eq_div_pow]
    split <;> omega
  have hlast : x.toBits.toNat % 2 ^ 52 = tail := by
    rw [hbits]
    split <;> omega
  simp only [parts, Nat.one_shiftLeft, hsign, hmiddle, hlast]
  rw [if_neg (by omega)]

theorem parts_double (negative : Bool) (hc : Canonical m e) :
    parts (double negative hc) = .finite negative m e := by
  have hlt := hc.lt
  have hpos := hc.pos
  have hleast := hc.least
  have hgreatest := hc.greatest
  have hfull := hc.full
  generalize hfield : (if 2 ^ 52 ≤ m then (e + 1075).toNat else 0) = field
  have hcases : 2 ^ 52 ≤ m ∧ (field : Int) = e + 1075 ∨ m < 2 ^ 52 ∧ field = 0 := by
    rw [← hfield]
    split <;> omega
  have hsmall : field < 2047 := by omega
  have hbits : (double negative hc).toBits.toNat =
      (if negative then 1 else 0) * 2 ^ 63 + field * 2 ^ 52 + m % 2 ^ 52 := by
    change (UnpackedFloat.pack Format.binary64 (.finite (signOf negative) m e hc.pos)).toNat = _
    rw [pack_finite _ hc, toNat_packComponents, toNat_signOf, hfield, BitVec.toNat_ofNat,
      BitVec.toNat_ofNat, Nat.mod_eq_of_lt (by omega)]
  rw [parts_of_bits hsmall (Nat.mod_lt _ (by decide)) hbits]
  split
  · congr 1 <;> omega
  · congr 1 <;> omega

/-- A double that is not zero is the double of its parts. -/
theorem eq_double (h : parts x = .finite negative m e) (hc : Canonical m e) :
    x = double negative hc :=
  eq_of_parts h (parts_double negative hc)

/-! ## 3. Unpacking -/

theorem toNat_unpackMantissa (b : BitVec 64) :
    (@unpackMantissa Format.binary64 b).toNat = b.toNat % 2 ^ 52 := by
  change (b.extractLsb 51 0).toNat = _
  rw [BitVec.extractLsb_toNat]
  rfl

theorem toNat_unpackExponent (b : BitVec 64) :
    (@unpackExponent Format.binary64 b).toNat = b.toNat >>> 52 % 2 ^ 11 := by
  change (b.extractLsb 62 52).toNat = _
  rw [BitVec.extractLsb_toNat]

theorem toNat_unpackSign (b : BitVec 64) :
    (@unpackSign Format.binary64 b).toNat = b.toNat >>> 63 % 2 := by
  change (b.extractLsb 63 63).toNat = _
  rw [BitVec.extractLsb_toNat]

/-- What is unpacked are the parts. -/
theorem unpack_of_parts (h : parts x = .finite negative m e) (hm : 0 < m) :
    x.toModel.unpack = .finite (signOf negative) m e hm := by
  obtain ⟨field, tail, hfield, htail, hbits, hparts⟩ := bits_of_parts h
  have hlast : (@unpackMantissa Format.binary64 x.toBits.toBitVec).toNat = tail := by
    rw [toNat_unpackMantissa]
    change x.toBits.toNat % 2 ^ 52 = tail
    rw [hbits]
    split <;> omega
  have hmiddle : (@unpackExponent Format.binary64 x.toBits.toBitVec).toNat = field := by
    rw [toNat_unpackExponent, Nat.shiftRight_eq_div_pow]
    change x.toBits.toNat / 2 ^ 52 % 2 ^ 11 = field
    rw [hbits]
    split <;> omega
  have hsign : @unpackSign Format.binary64 x.toBits.toBitVec = (signOf negative).toBitVec := by
    apply BitVec.eq_of_toNat_eq
    rw [toNat_unpackSign, toNat_signOf, Nat.shiftRight_eq_div_pow]
    change x.toBits.toNat / 2 ^ 63 % 2 = _
    rw [hbits]
    split <;> omega
  have hbias : (Format.binary64.exponentBias : Int) = 1023 := rfl
  have hfinite : @unpackExponent Format.binary64 x.toBits.toBitVec ≠ -1#_ := by
    intro h
    rw [h] at hmiddle
    change 2047 = field at hmiddle
    omega
  change UnpackedFloat.unpack Format.binary64 x.toBits.toBitVec = _
  rw [UnpackedFloat.unpack]
  simp only [if_neg hfinite, hmiddle, hsign, Sign.ofBitVec_toBitVec, toNat_append, hlast]
  rcases hparts with ⟨rfl, rfl, rfl⟩ | ⟨hfield, rfl, rfl⟩
  · have hzero : @unpackExponent Format.binary64 x.toBits.toBitVec = 0#_ :=
      BitVec.eq_of_toNat_eq hmiddle
    have hmantissa : @unpackMantissa Format.binary64 x.toBits.toBitVec ≠ 0#_ := by
      intro h
      rw [h] at hlast
      exact hm.ne hlast
    rw [if_pos hzero, dif_neg hmantissa]
    congr 1
  · have hzero : @unpackExponent Format.binary64 x.toBits.toBitVec ≠ 0#_ := by
      intro h
      rw [h] at hmiddle
      exact hfield hmiddle.symm
    rw [if_neg hzero]
    congr 1

theorem unpack_double (negative : Bool) (hc : Canonical m e) :
    (double negative hc).toModel.unpack = .finite (signOf negative) m e hc.pos :=
  unpack_of_parts (parts_double negative hc) hc.pos

end GridSketch.Decimal
