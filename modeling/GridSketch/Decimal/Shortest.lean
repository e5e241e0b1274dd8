import GridSketch.Decimal.Binary

/-!
# The shortest decimal of a double

A double is shown by the fewest digits that read back as the same double, and by the nearest of
those where there are several. The reals that read back as a double form an interval around it,
whose ends belong to it exactly when the mantissa is even. For one digit, two digits and so on up
to seventeen the two neighbours of the exact value on the grid of that many digits are tested
against this interval; the first grid with a hit has the shortest decimal. All of it is done in
whole numbers.

Between the exponents of `positional` the digits are written with a point and at least one digit
after it, outside in scientific form with at least two digits of exponent.
-/

set_option autoImplicit false

namespace GridSketch.Decimal

/-- The number `digits · 10 ^ exponent`. -/
structure Scaled where
  digits : Nat
  exponent : Int
  deriving DecidableEq, Repr

/-- The decimals that read back as `mantissa · 2 ^ exponent`, in quarters of the last place: from
`low` to `high`, ends included if `closed`. Below a power of two the doubles are twice as dense,
so there the lower end is half as far away. -/
structure Cell where
  low : Nat
  high : Nat
  closed : Bool

def Cell.of (mantissa : Nat) (exponent : Int) : Cell :=
  let step := if mantissa = 1 <<< 52 ∧ exponent ≠ -1074 then 1 else 2
  ⟨4 * mantissa - step, 4 * mantissa + 2, mantissa % 2 = 0⟩

/-- The scale between quarters of the last binary place and units of `10 ^ grid`, as a fraction:
`quarters · up / down` is the value in those units. -/
def scale (exponent grid : Int) : Nat × Nat :=
  (Nat.pow 10 (-grid).toNat <<< (exponent - 2).toNat,
    Nat.pow 10 grid.toNat <<< (2 - exponent).toNat)

/-- The point of the grid `10 ^ grid` that is nearest to the value among the two neighbours in the
interval, if one of them is in it; of two that are equally near the even one. -/
def onGrid? (mantissa : Nat) (exponent grid : Int) : Option Nat :=
  let cell := Cell.of mantissa exponent
  let (up, down) := scale exponent grid
  let value := 4 * mantissa * up
  let below := value / down
  let inside (c : Nat) : Bool :=
    if cell.closed then cell.low * up ≤ c * down ∧ c * down ≤ cell.high * up
    else cell.low * up < c * down ∧ c * down < cell.high * up
  let toBelow := value - below * down
  let toAbove := (below + 1) * down - value
  match inside below, inside (below + 1) with
  | true, true =>
    if toBelow < toAbove ∨ (toBelow = toAbove ∧ below % 2 = 0) then some below
    else some (below + 1)
  | true, false => some below
  | false, true => some (below + 1)
  | false, false => none

/-- The place of the decimal point: `10 ^ (point - 1) ≤ value < 10 ^ point`. Four hundred places
bring the least double above one, where the digits can be counted. -/
def point (mantissa : Nat) (exponent : Int) : Int :=
  ((Nat.repr (wholePart (mantissa * Nat.pow 10 400) exponent)).length : Int) - 400

/-- The first grid with a hit, from `count` digits on. -/
def search (mantissa : Nat) (exponent p : Int) : Nat → Nat → Scaled
  | 0, count => ⟨(onGrid? mantissa exponent (p - count)).getD 0, p - count⟩
  | fuel + 1, count =>
    match onGrid? mantissa exponent (p - count) with
    | some c => ⟨c, p - count⟩
    | none => search mantissa exponent p fuel (count + 1)

/-- The shortest decimal that reads back as `mantissa · 2 ^ exponent`, for a mantissa above zero.
Seventeen digits always suffice. -/
def shortest (mantissa : Nat) (exponent : Int) : Scaled :=
  search mantissa exponent (point mantissa exponent) 16 1

def significant (n : Nat) : List Char :=
  ((Nat.toDigits 10 n).reverse.dropWhile (· = '0')).reverse

/-- The exponents that are written with a point: from 0.0001 to below 10000000000000000. -/
def positional (exponent : Int) : Bool :=
  -4 ≤ exponent && exponent ≤ 15

/-- The exponent of scientific form, with its sign and at least two digits. -/
def exponentText (e : Int) : List Char :=
  let ds := Nat.toDigits 10 e.natAbs
  'e' :: (if e < 0 then '-' else '+') :: (if ds.length < 2 then '0' :: ds else ds)

/-- Digits with the decimal point after the first `point` of them. -/
def layout (ds : List Char) (point : Int) : List Char :=
  if positional (point - 1) then
    if point ≤ 0 then '0' :: '.' :: (List.replicate (-point).toNat '0' ++ ds)
    else if ds.length ≤ point then
      ds ++ List.replicate (point.toNat - ds.length) '0' ++ ['.', '0']
    else ds.take point.toNat ++ '.' :: ds.drop point.toNat
  else
    match ds with
    | [] => []
    | [d] => d :: exponentText (point - 1)
    | d :: rest => d :: '.' :: (rest ++ exponentText (point - 1))

/-- The digits of a finite double without its sign. -/
def magnitudeText (mantissa : Nat) (exponent : Int) : List Char :=
  if mantissa = 0 then ['0', '.', '0']
  else
    let s := shortest mantissa exponent
    layout (significant s.digits) ((Nat.toDigits 10 s.digits).length + s.exponent)

def floatText (x : Float) : String :=
  match parts x with
  | .finite negative m e =>
    String.ofList (if negative then '-' :: magnitudeText m e else magnitudeText m e)
  | .infinite negative => if negative then "-inf" else "inf"
  | .nan => "nan"

end GridSketch.Decimal
