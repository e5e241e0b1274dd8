/-!
# Guarded handlers

An event handler that fails must not end the program. Its failure is noted, the event is told to go
unheeded if it can be told so, and there is no result.
-/

set_option autoImplicit false

namespace GridSketch

/-- What came of an event: the result of its handler, and how often the event was told to go
unheeded. -/
structure Handled (α : Type) where
  result : Option α
  ignored : Nat
  deriving DecidableEq, Repr

def guarded {ε α : Type} (ignorable : Bool) : Except ε α → Handled α
  | .ok a => ⟨some a, 0⟩
  | .error _ => ⟨none, if ignorable then 1 else 0⟩

end GridSketch
