import GridSketch.Arrow.Style
import GridSketch.View.Picking

/-!
# The outline of an arrow

An arrow is drawn on the screen from the middle of one cell to the middle of another. Its outline
says where everything goes: the two control points of a curve, a triangle for each head, the bar
across the target end, and the place of the label beside the middle.
-/

set_option autoImplicit false

namespace GridSketch

/-- Three points. -/
structure Triangle where
  tip : Point Float
  left : Point Float
  right : Point Float

/-- Everything that is drawn of an arrow. -/
structure Outline where
  start : Point Float
  stop : Point Float
  controls : Option (Point Float × Point Float)
  heads : List Triangle
  bar : Option (Point Float × Point Float)
  label : Point Float

namespace Outline

/-- The length of a head, from its tip to each wing. -/
def headLength : Float := 10.0

/-- Half the angle at the tip of a head: a seventh of a half turn. -/
def headAngle : Float := 3.141592653589793 / 7.0

/-- How far from the target the bar stands, and half its length. -/
def barDistance : Float := 5.0
def barHalf : Float := 5.0

/-- How far beside the middle the label stands, for each pixel of the arrow's length. -/
def labelShift : Float := 0.1

/-- The point at a distance from `p`, back along a direction. -/
def backFrom (p direction : Point Float) (distance : Float) : Point Float :=
  ⟨p.x - distance * direction.x, p.y - distance * direction.y⟩

def directionOf (angle : Float) : Point Float :=
  ⟨Float.cos angle, Float.sin angle⟩

/-- A head with its tip at a point, pointing along a direction. -/
def head (tip direction : Point Float) : Triangle :=
  let angle := Float.atan2 direction.y direction.x
  { tip
    left := backFrom tip (directionOf (angle - headAngle)) headLength
    right := backFrom tip (directionOf (angle + headAngle)) headLength }

/-- The bar across the end of a line that points along a direction. -/
def barAt (stop direction : Point Float) : Point Float × Point Float :=
  let across : Point Float := ⟨-direction.y, direction.x⟩
  let base := backFrom stop direction barDistance
  ( ⟨base.x + barHalf * across.x, base.y + barHalf * across.y⟩,
    ⟨base.x - barHalf * across.x, base.y - barHalf * across.y⟩ )

/-- The control points of a curve, at a quarter and three quarters of the way across and at the
heights of the two ends. -/
def curve (start stop : Point Float) : Point Float × Point Float :=
  let dx := stop.x - start.x
  (⟨start.x + dx * 0.25, start.y⟩, ⟨stop.x - dx * 0.25, stop.y⟩)

/-- The outline of an arrow between two points of the screen. -/
def between (start stop : Point Float) (style : ArrowStyle) : Outline :=
  let d : Point Float := ⟨stop.x - start.x, stop.y - start.y⟩
  let along := directionOf (Float.atan2 d.y d.x)
  let atTarget := if style.headAtTarget then [head stop along] else []
  let atSource := if style.headAtSource then [head start ⟨-along.x, -along.y⟩] else []
  { start, stop
    controls := if style.curved then some (curve start stop) else none
    heads := atTarget ++ atSource
    bar := if style.barAtTarget then some (barAt stop along) else none
    label :=
      ⟨(start.x + stop.x) / 2.0 + labelShift * d.y, (start.y + stop.y) / 2.0 + labelShift * -d.x⟩ }

end Outline

/-- The outline of an arrow of a drawing, if both its cells are there. Its style is not looked at
before that. -/
def Drawing.outline (d : Drawing) (v : Viewport Float) (a : Arrow) :
    Except Fault (Option Outline) := do
  let start ← d.cellCentre v a.source
  let stop ← d.cellCentre v a.target
  match start, stop with
  | some p, some q => pure (some (Outline.between p q (← ArrowStyle.ofToken a.style)))
  | _, _ => pure none

end GridSketch
