import GridSketch.Grid.Basic
import GridSketch.Decimal.Binary
import GridSketch.Shape

/-!
# How large a grid can be

A new grid is laid out in arrays before its rows are read off: an array of integers of eight bytes
each, and for the two triangular fillings one of truth values of a byte each as well. An `Oversize`
says why there is no such array: a side or the bytes are beyond the words of the machine, or there
is not enough memory.

Two fillings count the numbers from one, and their count goes through a double. So it is rounded
(`Decimal.nearestWhole`), and at `2 ^ 63` exactly the last word is passed by one and there are no
numbers at all: a diagonal of none is a grid without rows, and a sequence of none fills no grid.

The main statement is `layOut_eq_whole`: a grid that there is memory for is laid out whole, whatever
its filling.
-/

set_option autoImplicit false

namespace GridSketch

/-- What the items of an array are. -/
inductive Item where
  | integer
  | truth
  deriving DecidableEq, Repr

namespace Item

def bytes : Item → Nat
  | .integer => 8
  | .truth => 1

def name : Item → String
  | .integer => "int64"
  | .truth => "bool"

end Item

/-- Why there is no array of some size. -/
inductive Oversize where
  /-- A side is beyond the greatest word. -/
  | side
  /-- A count of numbers is beyond the greatest word. -/
  | count
  /-- The bytes are beyond the greatest word. -/
  | bytes
  /-- There is not enough memory. -/
  | memory (item : Item) (sides : List Nat)
  /-- The numbers for a grid came to none. -/
  | nothingLeft (rows cols : Nat)
  deriving DecidableEq, Repr

namespace Oversize

/-- The units of memory, each a thousand and twenty-four of the one before. -/
def units : List String :=
  ["bytes", "KiB", "MiB", "GiB", "TiB", "PiB", "EiB"]

/-- A number `num / den` below ten thousand with three significant digits, and with its point also
where no digit follows it. -/
def threeDigits (num den : Nat) : String :=
  let hundredths := Decimal.roundDiv (num * 100) den
  let tenths := Decimal.roundDiv (num * 10) den
  if hundredths < 1000 then
    s!"{hundredths / 100}.{hundredths / 10 % 10}{hundredths % 10}"
  else if tenths < 1000 then s!"{tenths / 10}.{tenths % 10}"
  else s!"{Decimal.roundDiv num den}."

/-- A count of bytes in the unit that suits it. A count that would be rounded to a thousand and
twenty-four of a unit is given in the next. What is rounded to the digits shown is the double
nearest to the count of units; a unit is a power of two, so that is the double nearest to the count
of bytes, divided by the unit. -/
def memoryText (count : Nat) : String :=
  let double := Decimal.nearestWhole count
  let power := count.log2 / 10
  let power := if Decimal.roundDiv double (1 <<< (10 * power)) = 1024 then power + 1 else power
  let power := min power (units.length - 1)
  let unit := units.getD power ""
  if power = 0 then s!"{count} {unit}"
  else threeDigits double (1 <<< (10 * power)) ++ " " ++ unit

def message : Oversize → String
  | .side => "Maximum allowed dimension exceeded"
  | .count => "Maximum allowed size exceeded"
  | .bytes =>
    "array is too big; \x60arr.size * arr.dtype.itemsize\x60 is larger than the maximum possible" ++
      " size."
  | .memory item sides =>
    "Unable to allocate " ++ memoryText (item.bytes * Shape.volume sides) ++
      " for an array with shape " ++ Shape.sidesText sides ++ " and data type " ++ item.name
  | .nothingLeft rows cols =>
    s!"cannot reshape array of size 0 into shape ({rows},{cols})"

end Oversize

namespace Grid

def maxWord : Nat := 1 <<< 63 - 1

def memory : Nat := 1 <<< 34

def reserve (item : Item) (sides : List Nat) : Except Oversize Unit :=
  if sides.any (maxWord < ·) then .error .side
  else if maxWord < item.bytes * Shape.volume sides then .error .bytes
  else if memory < item.bytes * Shape.volume sides then .error (.memory item sides)
  else .ok ()

/-- Sees to it that there is room for the numbers from one to the given one. The answer is how many
there are, which is either all of them or none. -/
def reserveCount (n : Nat) : Except Oversize Nat := do
  let count := Decimal.nearestWhole n
  if maxWord + 1 < count then throw .count
  else if count = maxWord + 1 then pure 0
  else do
    reserve .integer [count]
    pure count

/-- Whether a grid is laid out with all its rows or with none. -/
inductive Layout where
  | whole
  | rowless
  deriving DecidableEq, Repr

def layOut : Filling → Nat → Nat → Except Oversize Layout
  | .sequential, rows, cols => do
    let count ← reserveCount (rows * cols)
    if count = 0 then
      if maxWord < rows ∨ maxWord < cols then throw .side else throw (.nothingLeft rows cols)
    else pure .whole
  | .diagonal, rows, cols => do
    let count ← reserveCount rows
    if count = 0 then pure .rowless
    else do
      reserve .integer [rows, cols]
      pure .whole
  | .upper, rows, cols | .lower, rows, cols => do
    reserve .truth [rows, cols]
    reserve .integer [rows, cols]
    pure .whole
  | .identity, rows, cols | .zeros, rows, cols | .ones, rows, cols => do
    reserve .integer [rows, cols]
    pure .whole

/-! ## Grids that there is memory for -/

theorem memory_le_maxWord : memory ≤ maxWord := by
  decide

theorem reserve_eq_ok {item : Item} {sides : List Nat}
    (hm : item.bytes * Shape.volume sides ≤ memory) (hs : ∀ n ∈ sides, n ≤ maxWord) :
    reserve item sides = .ok () := by
  have hw := Nat.le_trans hm memory_le_maxWord
  have ha : sides.any (maxWord < ·) = false := by
    simpa [List.any_eq_false] using hs
  simp [reserve, ha, Nat.not_lt.mpr hw, Nat.not_lt.mpr hm]

theorem reserveCount_eq_ok {n : Nat} (hm : 8 * n ≤ memory) : reserveCount n = .ok n := by
  have hn : Decimal.nearestWhole n = n :=
    Decimal.nearestWhole_of_lt (by unfold memory at hm; omega)
  have hw : n ≤ maxWord := Nat.le_trans (by omega) memory_le_maxWord
  have hr : reserve .integer [n] = .ok () :=
    reserve_eq_ok (by simpa [Item.bytes] using hm) (by simpa using hw)
  simp [reserveCount, hn, hr, Nat.not_lt.mpr (Nat.le_succ_of_le hw),
    Nat.ne_of_lt (Nat.lt_succ_of_le hw), bind, Except.bind, pure, Except.pure]

/-- A grid that there is memory for is laid out whole. -/
theorem layOut_eq_whole {f : Filling} {rows cols : Nat} (hr : 0 < rows) (hc : 0 < cols)
    (hm : 8 * (rows * cols) ≤ memory) : layOut f rows cols = .ok .whole := by
  have h1 : rows ≤ rows * cols := Nat.le_mul_of_pos_right rows hc
  have h2 : cols ≤ rows * cols := Nat.le_mul_of_pos_left cols hr
  have hp : 0 < rows * cols := Nat.mul_pos hr hc
  have hw : ∀ n ∈ [rows, cols], n ≤ maxWord := by
    intro n hn
    have hn : n ≤ rows * cols := by
      have h : n = rows ∨ n = cols := by simpa using hn
      rcases h with rfl | rfl <;> assumption
    exact Nat.le_trans (by omega) memory_le_maxWord
  have hi : reserve .integer [rows, cols] = .ok () :=
    reserve_eq_ok (by simpa [Item.bytes] using hm) hw
  have hb : rows * cols ≤ memory := Nat.le_trans (Nat.le_mul_of_pos_left _ (by decide)) hm
  have ht : reserve .truth [rows, cols] = .ok () :=
    reserve_eq_ok (by simpa [Item.bytes] using hb) hw
  have hs := reserveCount_eq_ok hm
  have hd := reserveCount_eq_ok (n := rows) (by omega)
  cases f <;> simp [layOut, hi, ht, hs, hd, Nat.ne_of_gt hp, Nat.ne_of_gt hr, bind, Except.bind,
    pure, Except.pure]

end Grid

end GridSketch
