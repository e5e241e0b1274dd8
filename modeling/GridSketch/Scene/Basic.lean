import GridSketch.Scene.Drawing

/-!
# Scenes

A scene is a drawing together with how it is being looked at: the theme, what is selected and the
cell under the pointer. Only the drawing is saved and undone.

There are three selections at once, one for each kind of thing. A selection is kept as it was
given and may denote nothing, or nothing any more.
-/

set_option autoImplicit false

namespace GridSketch

/-- The themes a scene can be shown in. -/
inductive Theme where
  | light
  | dark
  deriving DecidableEq, Repr

namespace Theme

def name : Theme → String
  | .light => "light"
  | .dark => "dark"

def flip : Theme → Theme
  | .light => .dark
  | .dark => .light

@[simp] theorem flip_light : flip .light = .dark :=
  rfl

@[simp] theorem flip_dark : flip .dark = .light :=
  rfl

/-- There are two themes, and flipping one gives the other. -/
theorem flip_eq_iff {a b : Theme} : a.flip = b ↔ a ≠ b := by
  cases a <;> cases b <;> simp

end Theme

/-- The three selections. Each is whatever it was given: the name of a matrix, the index of an
arrow or a tint, or nothing; other values are kept as well and denote what they stand for. -/
structure Selection where
  matrix : Json := .null
  arrow : Json := .null
  tint : Json := .null

/-- The kinds of thing that can be selected. -/
inductive Slot where
  | matrix
  | arrow
  | tint
  deriving DecidableEq, Repr

def Slot.ofWord (word : Json) : Except Fault Slot :=
  if word.isText "matrix" then .ok .matrix
  else if word.isText "arrow" then .ok .arrow
  else if word.isText "colored_cell" then .ok .tint
  else .error (.showing [word] (.unknownSlot word))

def Selection.set (s : Selection) (slot : Slot) (value : Json) : Selection :=
  match slot with
  | .matrix => { s with matrix := value }
  | .arrow => { s with arrow := value }
  | .tint => { s with tint := value }

/-- A drawing and how it is being looked at. -/
structure Scene extends Drawing where
  theme : Theme := .light
  selection : Selection := {}
  hovered : Option CellRef := none

namespace Scene

/-- The scene with another drawing under the same look. -/
def withDrawing (s : Scene) (d : Drawing) : Scene :=
  { s with toDrawing := d }

/-- Changes one of the selections, whether what is selected is there or not. -/
def select (s : Scene) (slot : Slot) (value : Json) : Scene :=
  { s with selection := s.selection.set slot value }

@[simp] theorem toDrawing_withDrawing (s : Scene) (d : Drawing) : (s.withDrawing d).toDrawing = d :=
  rfl

@[simp] theorem toDrawing_select (s : Scene) (slot : Slot) (value : Json) :
    (s.select slot value).toDrawing = s.toDrawing :=
  rfl

/-- Puts the pointer over a cell, or over none. Nothing changes where it is over that already. -/
def hover (s : Scene) (r : Option CellRef) : Scene :=
  if r == s.hovered then s else { s with hovered := r }

def toggleTheme (s : Scene) : Scene :=
  { s with theme := s.theme.flip }

/-- Gives a matrix another name, also where it is selected or under the pointer. -/
def rename (s : Scene) (old new : Json) : Except Fault (Option Scene) := do
  let change ← s.toDrawing.rename old new
  pure <| change.map fun d =>
    { s with
      toDrawing := d
      selection :=
        if s.selection.matrix.equals old then s.selection.set .matrix new else s.selection
      hovered := s.hovered.map (CellRef.renamed old new) }

/-- A drawing as it is looked at first, under a theme. -/
def fresh (d : Drawing) (theme : Theme) : Scene :=
  { toDrawing := d, theme }

/-- The drawing a session starts with: two matrices, an arrow between them and a tint. -/
def initial : Drawing :=
  let grid := Grid.ofInts (Grid.filled .sequential 3 3)
  { matrices :=
      (Roster.empty.put (.str "A") (.sized 3 3 grid ⟨0.0, 0.0⟩)).put (.str "B")
        (.sized 3 3 grid ⟨5.0, 0.0⟩)
    arrows :=
      [ { source := .ofText "A" 0 0, target := .ofText "B" 0 0, colour := .str Arrow.defaultColour
          style := .str Arrow.defaultStyle, width := .num (.float Arrow.defaultWidth)
          label := .str "example" } ]
    tints := [⟨.ofText "A" 1 1, .str "lightblue"⟩] }

/-- Back to the first drawing, under the theme that is on. -/
def reset (s : Scene) : Scene :=
  fresh initial s.theme

/-- Another drawing under the theme that is on, with nothing selected. -/
def load (s : Scene) (d : Drawing) : Scene :=
  fresh d s.theme

end Scene

end GridSketch
