import GridSketch.Arrow.Outline
import GridSketch.Block
import GridSketch.Field
import GridSketch.Json.Items

/-!
# Ends given as values

The two ends of an arrow can be given as values, each a list of two numbers; a text counts as the
list of its characters, and an object as that of its names. What such an end holds is a block, and
two blocks are repeated until they meet. So what an end lacks is not missed before the end itself is
asked for it, and ends of more than two numbers meet each other, but not the direction of the arrow,
which has two. All of these are refused all the same, and `mismatch` says for what: it depends on
what the style has drawn first.

The main statement is `betweenValues_floats`: two lists of two numbers are the points that they
stand for.
-/

set_option autoImplicit false

namespace GridSketch

namespace End

/-- The number a value stands for. Nothing is not a number. -/
def number : Json → Except Fault Float
  | .null => .ok Decimal.notANumber
  | j => j.asFloat

def ofItems (items : List Json) : Except Fault (Block Float) := do
  ((← (Block.ofValue (.arr items)).mapError .misshape).mapM number)

end End

namespace Outline

/-- Whether the drawing asks a repeated end for its coordinates before a longer end meets the
direction. A curve asks both ends, and a head the one it is at. -/
def asksFirst (style : ArrowStyle) (atSource atTarget : Bool) : Bool :=
  if style.curved then atSource || atTarget
  else if style.headAtTarget then atTarget
  else style.headAtSource && atSource

/-- Why two ends of given sides are refused, of which at least one is no point. -/
def mismatch (start stop : List Nat) (style : ArrowStyle) : Fault :=
  match Shape.meet? stop start with
  | none => .misshape (.apart stop start)
  | some sides =>
    let n := sides.headD 0
    if n < 2 then .noCoordinate n
    else if 1 < sides.length then .unfit .coordinate
    else if n = 2 ∨ asksFirst style (start != sides) (stop != sides) then .noCoordinate 1
    else .misshape (.apart sides [2])

/-- The outline of an arrow between two ends, in the style of a token. The token is not looked at
before both ends are known to have items. -/
def betweenValues (start stop token : Json) : Except Fault Outline := do
  let start ← start.items
  let stop ← stop.items
  let style ← ArrowStyle.ofToken token
  match ← End.ofItems start, ← End.ofItems stop with
  | ⟨[2], [a, b]⟩, ⟨[2], [c, d]⟩ => pure (between ⟨a, b⟩ ⟨c, d⟩ style)
  | p, q => throw (mismatch p.sides q.sides style)

theorem betweenValues_floats {token : Json} {style : ArrowStyle} (a b c d : Float)
    (h : ArrowStyle.ofToken token = .ok style) :
    betweenValues (.arr [.num (.float a), .num (.float b)])
      (.arr [.num (.float c), .num (.float d)]) token = .ok (between ⟨a, b⟩ ⟨c, d⟩ style) := by
  simp only [betweenValues, Json.items_arr, h]
  rfl

end Outline

end GridSketch
