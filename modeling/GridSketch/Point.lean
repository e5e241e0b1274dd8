/-!
# Points

A point of the plane, over whatever coordinates it is given in.
-/

set_option autoImplicit false

namespace GridSketch

/-- A pair of coordinates. -/
@[ext] structure Point (K : Type) where
  x : K
  y : K
  deriving DecidableEq, Repr

end GridSketch
