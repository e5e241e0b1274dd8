import GridSketch.View.Coordinate

/-!
# Viewports

A viewport maps the plane to the screen by a scale and an offset. The plane has its second axis
upwards and the screen downwards, so that axis changes its sign. The rows of a matrix go down, so
a place in a matrix changes its sign once more on the way (`dataToScreen`).

The scale is kept between ten and a hundred pixels to the unit, whatever it was asked to be: the
clamp compares in an order that takes what is not a number for the greatest scale. So there is
always a way back from the screen.
-/

set_option autoImplicit false

namespace GridSketch

/-- A scale and an offset. -/
structure Viewport (K : Type) where
  scale : K
  offset : Point K
  deriving Repr

namespace Viewport

variable {K : Type} [Coordinate K]

/-- A scale brought between the least and the greatest. -/
def clamp (scale : K) : K :=
  let s := if scale < (100.0 : K) then scale else 100.0
  if (10.0 : K) < s then s else 10.0

/-- A viewport of a scale, brought into range, and an offset. -/
def make (scale : K) (offset : Point K) : Viewport K :=
  ⟨clamp scale, offset⟩

def initial : Viewport K :=
  ⟨40.0, ⟨50.0, 50.0⟩⟩

def toScreen (v : Viewport K) (p : Point K) : Point K :=
  ⟨p.x * v.scale + v.offset.x, -p.y * v.scale + v.offset.y⟩

/-- The point of the plane under a point of the screen. -/
def toScene (v : Viewport K) (p : Point K) : Point K :=
  ⟨(p.x - v.offset.x) / v.scale, -(p.y - v.offset.y) / v.scale⟩

def dataToScreen (v : Viewport K) (p : Point K) : Point K :=
  v.toScreen ⟨p.x, -p.y⟩

/-- One step of the wheel changes the scale by a tenth. -/
def zoom (v : Viewport K) (up : Bool) : Viewport K :=
  { v with scale := clamp (if up then v.scale * 1.1 else v.scale / 1.1) }

/-- Moves what is seen along the first axis. -/
def panX (v : Viewport K) (dx : K) : Viewport K :=
  { v with offset := ⟨v.offset.x + dx, v.offset.y⟩ }

/-- Moves what is seen along the second axis. -/
def panY (v : Viewport K) (dy : K) : Viewport K :=
  { v with offset := ⟨v.offset.x, v.offset.y + dy⟩ }

/-- Moves what is seen by a displacement on the screen, along one axis after the other: the view
that was reached, and the fault that the way ended with, if it did. What was gone along the first
axis is not taken back where the second one cannot be gone along. -/
def pan (v : Viewport K) (d : Point (Given K)) : Viewport K × Option Fault :=
  match d.x.read with
  | .error f => (v, some f)
  | .ok dx =>
    match d.y.read with
    | .error f => (v.panX dx, some f)
    | .ok dy => ((v.panX dx).panY dy, none)

@[simp] theorem scale_pan (v : Viewport K) (d : Point (Given K)) :
    (v.pan d).1.scale = v.scale := by
  unfold pan
  split
  · rfl
  · split
    · rfl
    · rfl

end Viewport

/-- A drag of the view with the button held: where the pointer was last, while it is held. -/
structure Drag (K : Type) where
  last : Option (Point (Given K))
  deriving Repr

namespace Drag

variable {K : Type} [Coordinate K]

def idle : Drag K := ⟨none⟩

def active (d : Drag K) : Bool :=
  d.last.isSome

def press (p : Point (Given K)) : Drag K :=
  ⟨some p⟩

def displacement (start stop : Point (Given K)) : Except Fault (Point (Given K)) := do
  let dx ← stop.x.minus start.x
  let dy ← stop.y.minus start.y
  pure ⟨dx, dy⟩

/-- What a move of the pointer did to a drag and to the view, and the fault it ended with, if it
did. -/
structure Moved (K : Type) where
  drag : Drag K
  view : Viewport K
  fault : Option Fault

/-- A view that is being dragged from a point is dragged to another. Only a drag that has got there
goes on from there. -/
def pull (last : Point (Given K)) (v : Viewport K) (p : Point (Given K)) : Moved K :=
  match displacement last p with
  | .error f => ⟨press last, v, some f⟩
  | .ok d =>
    match v.pan d with
    | (view, some f) => ⟨press last, view, some f⟩
    | (view, none) => ⟨press p, view, none⟩

@[simp] theorem scale_pull (last : Point (Given K)) (v : Viewport K) (p : Point (Given K)) :
    (pull last v p).view.scale = v.scale := by
  unfold pull
  split
  · rfl
  · rename_i d _
    have hscale := v.scale_pan d
    split
    · rename_i heq
      rw [heq] at hscale
      exact hscale
    · rename_i heq
      rw [heq] at hscale
      exact hscale

/-- The pointer moves to a point: a view that is being dragged moves along, by the displacement
since the last point. Nothing happens while the button is up. -/
def move (d : Drag K) (v : Viewport K) (p : Point (Given K)) : Option (Moved K) :=
  d.last.map fun last => pull last v p

end Drag

end GridSketch
