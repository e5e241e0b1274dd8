import GridSketch.Decimal.Binary

/-!
# From decimals to doubles

A decimal of any length is read as the double nearest to it, the even one of two. Beyond the
greatest double lies infinity.

`Float.ofScientific` does the rounding. It works with the power of ten that is written, so a power
far outside the range of doubles is answered here first: with a digit other than zero, four hundred
places above the point are infinity, and four hundred places of zeros after it are zero.
-/

set_option autoImplicit false

namespace GridSketch.Decimal

def infinity : Float := 1.0 / 0.0

def notANumber : Float := 0.0 / 0.0

/-- The double nearest to `digits · 10 ^ exponent`. -/
def nearest (digits : Nat) (exponent : Int) : Float :=
  if digits = 0 then 0.0
  else if 400 < exponent then infinity
  else if exponent < -400 ∧ exponent + (Nat.repr digits).length < -400 then 0.0
  else Float.ofScientific digits (exponent < 0) exponent.natAbs

/-- `nearest` with a sign, which zero has too. -/
def nearestSigned (negative : Bool) (digits : Nat) (exponent : Int) : Float :=
  if negative then -(nearest digits exponent) else nearest digits exponent

end GridSketch.Decimal
