import GridSketch.Decimal.Shortest

/-!
# Numbers

A number is an integer of any size or a double, and stays what it is: a cell that was given `2`
shows `2`, one that was given `2.0` shows `2.0`, and a saved scene keeps the difference.
-/

set_option autoImplicit false

namespace GridSketch

/-- An integer of any size or a double. -/
inductive Number where
  | int (n : Int)
  | float (x : Float)
  deriving DecidableEq

namespace Number

def text : Number → String
  | .int n => toString n
  | .float x => Decimal.floatText x

def isZero : Number → Bool
  | .int n => n == 0
  | .float x => x == 0.0

end Number

end GridSketch
