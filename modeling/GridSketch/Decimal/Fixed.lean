import GridSketch.Decimal.Binary

/-!
# Six decimal places

Points on the screen are reported with six places after the decimal point. The value is rounded
exactly, from the value the double has and not from a decimal of it, and a half goes to the even
neighbour. Zero has no sign, also where a negative value rounds to it.
-/

set_option autoImplicit false

namespace GridSketch.Decimal

def millionths (n : Nat) : List Char :=
  let rest := Nat.toDigits 10 (n % 1000000)
  Nat.toDigits 10 (n / 1000000) ++ '.' :: (List.replicate (6 - rest.length) '0' ++ rest)

def fixedText (x : Float) : String :=
  match parts x with
  | .finite negative m e =>
    let n := roundDiv ((m * 1000000) <<< e.toNat) (1 <<< (-e).toNat)
    String.ofList (if negative ∧ n ≠ 0 then '-' :: millionths n else millionths n)
  | .infinite negative => if negative then "-inf" else "inf"
  | .nan => "nan"

end GridSketch.Decimal
