/-!
# The exact value of a double

A finite double is a sign and a number `mantissa · 2 ^ exponent`. Everything that is decided about
a double exactly, such as its decimal digits, its whole part or its value as a fraction, is decided
on these parts with integers of any size, and not with the arithmetic of doubles.
-/

set_option autoImplicit false

namespace GridSketch.Decimal

/-- What the bits of a double say. -/
inductive Parts where
  | finite (negative : Bool) (mantissa : Nat) (exponent : Int)
  | infinite (negative : Bool)
  | nan
  deriving DecidableEq, Repr

/-- Takes a double apart: one bit of sign, eleven of exponent, fifty-two of mantissa, to which a
leading one is added unless the exponent field is zero. -/
def parts (x : Float) : Parts :=
  let bits : Nat := x.toBits.toNat
  let negative : Bool := bits >>> 63 == 1
  let field : Nat := (bits >>> 52) % (1 <<< 11)
  let tail : Nat := bits % (1 <<< 52)
  if field = 2047 then if tail = 0 then .infinite negative else .nan
  else if field = 0 then .finite negative tail (-1074)
  else .finite negative (1 <<< 52 + tail) ((field : Int) - 1075)

def signed (negative : Bool) (n : Nat) : Int :=
  if negative then -(n : Int) else n

/-- The whole part of a number `mantissa · 2 ^ exponent`. -/
def wholePart (mantissa : Nat) (exponent : Int) : Nat :=
  (mantissa <<< exponent.toNat) >>> (-exponent).toNat

/-- The value of a double as a fraction; zero where it has none. -/
def toRat (x : Float) : Rat :=
  match parts x with
  | .finite negative m e =>
    mkRat (signed negative (m <<< e.toNat)) (1 <<< (-e).toNat)
  | .infinite _ | .nan => 0

/-- The greatest integer that is not above a double, which must be finite. -/
def floor? (x : Float) : Option Int :=
  match parts x with
  | .finite negative m e =>
    some (Int.fdiv (signed negative (m <<< e.toNat)) (1 <<< (-e).toNat : Nat))
  | .infinite _ | .nan => none

/-- The whole number nearest to `num / den`, the even one of two that are equally near. -/
def roundDiv (num den : Nat) : Nat :=
  let q := num / den
  let r := num % den
  if 2 * r < den ∨ (2 * r = den ∧ q % 2 = 0) then q else q + 1

theorem roundDiv_one (n : Nat) : roundDiv n 1 = n := by
  simp [roundDiv, Nat.mod_one]

/-- The natural number nearest to `n` that has fifty-three significant bits at most, the even one
of two: the value of the double nearest to `n`, where `n` is in the range of doubles. -/
def nearestWhole (n : Nat) : Nat :=
  let unit := 1 <<< (n.log2 - 52)
  roundDiv n unit * unit

theorem nearestWhole_of_lt {n : Nat} (h : n < 1 <<< 53) : nearestWhole n = n := by
  have hu : n.log2 - 52 = 0 := by
    rcases Nat.eq_zero_or_pos n with rfl | hn
    · rfl
    · have hl : n.log2 < 53 := (Nat.log2_lt (Nat.ne_of_gt hn)).mpr h
      omega
  simp [nearestWhole, hu, roundDiv_one]

/-- The double nearest to an integer, the even one of two; none where that is beyond the greatest
finite double. -/
def ofInt? (n : Int) : Option Float :=
  let x := Float.ofInt n
  match parts x with
  | .finite .. => some x
  | .infinite _ | .nan => none

end GridSketch.Decimal
