import GridSketch.View.Viewport
import Mathlib.Tactic.FieldSimp
import Mathlib.Tactic.NormNum
import Mathlib.Tactic.Ring

/-!
# The way back from the screen

A view is zoomed, moved, dragged and put back as it was at the start, in any order and any number of
times. There is always a way back from the screen to the plane, because the scale that the way back
divides by stays between the least and the greatest one (`Viewport.InRange`). Four things write it:
a view that is opened, both directions of the wheel, and going back to the start. Three of them clamp
it, whatever it was asked to be (`Viewport.inRange_make`).

A clamp compares, and doubles that are no numbers compare with nothing. What it needs of an order is
therefore little, and doubles have it: what is below is not above (`Coordinate.Clamps`). Being no
more than an invariant, the range is kept by each gesture and so along a run (`Pane.inRange_after`).

Over exact fractions, where nothing is rounded, the two ways undo each other wherever the scale is
not zero (`Viewport.toScene_toScreen`, `Viewport.toScreen_toScene`), although each of them turns the
second axis round.
-/

set_option autoImplicit false

namespace GridSketch

/-! ## 1. Scales -/

/-- What a clamp needs to know of an order: that what is below is not above, and how the least, the
first and the greatest scale lie to each other. -/
class Coordinate.Clamps (K : Type) [Coordinate K] : Prop where
  le_of_lt : ∀ {a b : K}, a < b → a ≤ b
  least_le_least : (10.0 : K) ≤ 10.0
  least_le_first : (10.0 : K) ≤ 40.0
  least_le_greatest : (10.0 : K) ≤ 100.0
  first_le_greatest : (40.0 : K) ≤ 100.0
  greatest_le_greatest : (100.0 : K) ≤ 100.0

instance : Coordinate.Clamps Rat where
  le_of_lt := Rat.le_of_lt
  least_le_least := Rat.le_refl
  least_le_first := by
    change (10.0 : Rat) ≤ 40.0
    norm_num
  least_le_greatest := by
    change (10.0 : Rat) ≤ 100.0
    norm_num
  first_le_greatest := by
    change (40.0 : Rat) ≤ 100.0
    norm_num
  greatest_le_greatest := Rat.le_refl

namespace Decimal

/-- Doubles are ordered by how they compare, and what is no number compares with none. -/
theorem float_lt_iff {x y : Float} :
    x < y ↔ x.toModel.unpack.compare y.toModel.unpack = some .lt := by
  have h : x < y ↔ (x.toModel.unpack.compare y.toModel.unpack == some .lt) = true :=
    decide_eq_true_iff
  rw [h, beq_iff_eq]

theorem float_le_iff {x y : Float} :
    x ≤ y ↔ (x.toModel.unpack.compare y.toModel.unpack).any (·.isLE) = true :=
  decide_eq_true_iff

theorem float_le_of_lt {x y : Float} (h : x < y) : x ≤ y := by
  rw [float_le_iff, float_lt_iff.mp h]
  rfl

/-- A double that is not below ten is no zero, of either sign. -/
theorem float_beq_zero {x : Float} (h : 10.0 ≤ x) : (x == 0.0) = false := by
  rw [Bool.eq_false_iff]
  intro hzero
  have hle := float_le_iff.mp h
  have heq : x.toModel.unpack.compare (0.0 : Float).toModel.unpack = some .eq := eq_of_beq hzero
  obtain ⟨_, hunpack⟩ : ∃ sign, (0.0 : Float).toModel.unpack = .zero sign := ⟨_, rfl⟩
  obtain ⟨_, _, _, hten⟩ : ∃ m e hm, (10.0 : Float).toModel.unpack = .finite .positive m e hm :=
    ⟨_, _, _, rfl⟩
  rw [hunpack] at heq
  rw [hten] at hle
  -- only a zero compares as a zero, and ten is above both of them
  cases hx : x.toModel.unpack with
  | zero sign =>
    rw [hx] at hle
    exact nomatch hle
  | finite sign m e hm =>
    rw [hx] at heq
    cases sign <;> exact nomatch heq
  | infinity sign =>
    rw [hx] at heq
    cases sign <;> exact nomatch heq
  | notANumber =>
    rw [hx] at heq
    exact nomatch heq

end Decimal

instance : Coordinate.Clamps Float where
  le_of_lt := Decimal.float_le_of_lt
  least_le_least := by decide
  least_le_first := by decide
  least_le_greatest := by decide
  first_le_greatest := by decide
  greatest_le_greatest := by decide

namespace Viewport

variable {K : Type} [Coordinate K]

/-- The scale is between the least and the greatest. -/
def InRange (v : Viewport K) : Prop :=
  (10.0 : K) ≤ v.scale ∧ v.scale ≤ 100.0

section

variable [Coordinate.Clamps K]

/-- **Whatever scale is asked for, a clamped one is in range.** -/
theorem clamp_mem (scale : K) : (10.0 : K) ≤ clamp scale ∧ clamp scale ≤ 100.0 := by
  unfold clamp
  dsimp only
  by_cases habove : scale < 100.0
  · rw [if_pos habove]
    split
    · rename_i hbelow
      exact ⟨Coordinate.Clamps.le_of_lt hbelow, Coordinate.Clamps.le_of_lt habove⟩
    · exact ⟨Coordinate.Clamps.least_le_least, Coordinate.Clamps.least_le_greatest⟩
  · -- this is the case of what is no number, too
    rw [if_neg habove]
    split
    · exact ⟨Coordinate.Clamps.least_le_greatest, Coordinate.Clamps.greatest_le_greatest⟩
    · exact ⟨Coordinate.Clamps.least_le_least, Coordinate.Clamps.least_le_greatest⟩

theorem inRange_make (scale : K) (offset : Point K) : (make scale offset).InRange :=
  clamp_mem scale

theorem inRange_zoom (v : Viewport K) (up : Bool) : (v.zoom up).InRange :=
  clamp_mem _

theorem inRange_initial : (initial : Viewport K).InRange :=
  ⟨Coordinate.Clamps.least_le_first, Coordinate.Clamps.first_le_greatest⟩

end

variable {v : Viewport Rat}

theorem InRange.scale_ne_zero (h : v.InRange) : v.scale ≠ 0 := by
  have hten : (0 : Rat) < 10.0 := by norm_num
  have hle : (10.0 : Rat) ≤ v.scale := h.1
  exact (hten.trans_le hle).ne'

/-- The way to the screen and back. -/
theorem toScene_toScreen (hv : v.scale ≠ 0) (p : Point Rat) : v.toScene (v.toScreen p) = p := by
  apply Point.ext
  · simp only [toScene, toScreen]
    field_simp
    ring
  · simp only [toScene, toScreen]
    field_simp
    ring

/-- The way from the screen and back to it. -/
theorem toScreen_toScene (hv : v.scale ≠ 0) (q : Point Rat) : v.toScreen (v.toScene q) = q := by
  apply Point.ext
  · simp only [toScene, toScreen]
    field_simp
    ring
  · simp only [toScene, toScreen]
    field_simp
    ring

end Viewport

/-! ## 2. Gestures -/

/-- A view and a drag of it. -/
structure Pane (K : Type) where
  view : Viewport K
  drag : Drag K

/-- What can be done to a view, with the wheel, with the pointer or without either. -/
inductive Gesture (K : Type) where
  | zoom (up : Bool)
  | pan (d : Point (Given K))
  | reset
  | press (p : Point (Given K))
  | move (p : Point (Given K))
  | release

namespace Pane

variable {K : Type} [Coordinate K]

/-- A view of a scale and an offset, which nobody drags. -/
def opened (scale : K) (offset : Point K) : Pane K :=
  ⟨.make scale offset, .idle⟩

def step (c : Pane K) : Gesture K → Pane K
  | .zoom up => { c with view := c.view.zoom up }
  | .pan d => { c with view := (c.view.pan d).1 }
  | .reset => { c with view := .initial }
  | .press p => { c with drag := .press p }
  | .move p =>
    match c.drag.move c.view p with
    | some moved => ⟨moved.view, moved.drag⟩
    | none => c
  | .release => { c with drag := .idle }

/-- The view after gestures, done one after the other. -/
def after (c : Pane K) (gs : List (Gesture K)) : Pane K :=
  gs.foldl step c

theorem scale_move (c : Pane K) (p : Point (Given K)) :
    (c.step (.move p)).view.scale = c.view.scale := by
  simp only [step, Drag.move]
  cases c.drag.last with
  | none => rfl
  | some last => exact Drag.scale_pull last c.view p

/-- Moving a view leaves its scale, whether it is moved at once or dragged, and the wheel leaves its
offset. -/
structure Steady (c : Pane K) : Prop where
  pan : ∀ d, (c.step (.pan d)).view.scale = c.view.scale
  press : ∀ p, (c.step (.press p)).view.scale = c.view.scale
  move : ∀ p, (c.step (.move p)).view.scale = c.view.scale
  release : (c.step .release).view.scale = c.view.scale
  zoom : ∀ up, (c.step (.zoom up)).view.offset = c.view.offset

theorem steady (c : Pane K) : c.Steady where
  pan := c.view.scale_pan
  press _ := rfl
  move := c.scale_move
  release := rfl
  zoom _ := rfl

variable [Coordinate.Clamps K]

theorem inRange_step {c : Pane K} (hc : c.view.InRange) (g : Gesture K) :
    (c.step g).view.InRange := by
  cases g with
  | zoom up => exact c.view.inRange_zoom up
  | reset => exact Viewport.inRange_initial
  | press | release => exact hc
  | pan d =>
    rw [Viewport.InRange, c.steady.pan d]
    exact hc
  | move p =>
    rw [Viewport.InRange, c.scale_move p]
    exact hc

/-- **The scale is in range after any run**, whatever scale the view was opened with. -/
theorem inRange_after (scale : K) (offset : Point K) (gs : List (Gesture K)) :
    ((opened scale offset).after gs).view.InRange := by
  have hrun : ∀ c : Pane K, c.view.InRange → (c.after gs).view.InRange := by
    induction gs with
    | nil => exact fun c hc => hc
    | cons g gs ih => exact fun c hc => ih (c.step g) (inRange_step hc g)
  exact hrun _ (Viewport.inRange_make scale offset)

/-! ## 3. Runs -/

/-- **A view can be inverted after any run of gestures.** In doubles as over fractions, whatever
scale and offset it was opened with, its scale is in range and no zero. Over fractions the ways to
the screen and back undo each other. And whatever view there is, moving it leaves the scale and the
wheel leaves the offset. -/
theorem invertible_after :
    (∀ (scale : Float) (offset : Point Float) (gs : List (Gesture Float)),
      let v := ((opened scale offset).after gs).view
      v.InRange ∧ (v.scale == 0.0) = false) ∧
    (∀ (scale : Rat) (offset : Point Rat) (gs : List (Gesture Rat)),
      let v := ((opened scale offset).after gs).view
      v.InRange ∧ v.scale ≠ 0 ∧ (∀ p, v.toScene (v.toScreen p) = p) ∧
        ∀ q, v.toScreen (v.toScene q) = q) ∧
    (∀ c : Pane Float, c.Steady) ∧ ∀ c : Pane Rat, c.Steady := by
  refine ⟨?_, ?_, steady, steady⟩
  · intro scale offset gs v
    have hv : v.InRange := inRange_after scale offset gs
    exact ⟨hv, Decimal.float_beq_zero hv.1⟩
  · intro scale offset gs v
    have hv : v.InRange := inRange_after scale offset gs
    have hscale := hv.scale_ne_zero
    exact ⟨hv, hscale, Viewport.toScene_toScreen hscale, Viewport.toScreen_toScene hscale⟩

/-- A scale that is no number is taken for the greatest. -/
example : (opened (0.0 / 0.0 : Float) ⟨0.0, 0.0⟩).view.scale = 100.0 := by decide

end Pane

end GridSketch
