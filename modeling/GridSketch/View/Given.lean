import GridSketch.Field
import GridSketch.Json.Items
import GridSketch.View.Viewport

/-!
# Points and views given as values

A point is given as two values, and a view as a list of up to three: its scale and the two parts of
its offset. Each is taken for the double it stands for. What a list leaves out is as it is in the
view at the start, and a list of more is refused, but not before all of it was read.
-/

set_option autoImplicit false

namespace GridSketch

def Point.ofValues (x y : Json) : Except Fault (Point Float) := do
  pure ⟨← x.asFloat, ← y.asFloat⟩

namespace Viewport

def ofNumbers : List Float → Except Fault (Viewport Float)
  | [] => .ok initial
  | [k] => .ok (make k initial.offset)
  | [k, x] => .ok (make k ⟨x, initial.offset.y⟩)
  | [k, x, y] => .ok (make k ⟨x, y⟩)
  | ks => .error (.surplus ks.length)

/-- The view of a value. Nothing is the view at the start. -/
def ofValue : Json → Except Fault (Viewport Float)
  | .null => .ok initial
  | j => do ofNumbers (← (← j.items).mapM Json.asFloat)

theorem ofValue_floats (k x y : Float) :
    ofValue (.arr [.num (.float k), .num (.float x), .num (.float y)]) = .ok (make k ⟨x, y⟩) :=
  rfl

end Viewport

end GridSketch
