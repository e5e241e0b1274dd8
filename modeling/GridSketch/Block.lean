import GridSketch.Json.Basic
import GridSketch.Shape

/-!
# Blocks

A block is the items at the bottom of a list of lists, one after the other, with the shape they
stand in. A value that is no list is a block of itself without sides. Lists that are not of one
length at one depth make no block.

The main statement is `length_leaves`: where the items agree all the way down, there is one for each
place of the shape.
-/

set_option autoImplicit false

namespace GridSketch

/-- The sides of a value, as far as its items agree. -/
structure Extent where
  sides : List Nat
  /-- Whether the items agree all the way down. -/
  even : Bool

namespace Extent

/-- What two lists have in common at their beginnings. -/
def common : List Nat → List Nat → List Nat
  | a :: as, b :: bs => if a = b then a :: common as bs else []
  | _, _ => []

/-- The extent that two items of one list agree on. -/
def agree (s t : Extent) : Extent :=
  ⟨common s.sides t.sides, s.even && t.even && s.sides == t.sides⟩

/-- The extent of a list, from those of its items. -/
def ofItems : List Extent → Extent
  | [] => ⟨[0], true⟩
  | s :: ss =>
    let inner := ss.foldl agree s
    ⟨(ss.length + 1) :: inner.sides, inner.even⟩

mutual

/-- The extent of a value; what is no list has no sides. -/
def ofValue : Json → Extent
  | .arr xs => ofItems (ofValues xs)
  | _ => ⟨[], true⟩
termination_by structural j => j

def ofValues : List Json → List Extent
  | [] => []
  | x :: xs => ofValue x :: ofValues xs
termination_by structural xs => xs

end

theorem common_self (as : List Nat) : common as as = as := by
  induction as with
  | nil => rfl
  | cons a as ih => simp [common, ih]

/-- Items that agree all the way down have the sides of the first. -/
theorem foldl_agree {s : Extent} {ss : List Extent} (h : (ss.foldl agree s).even) :
    (ss.foldl agree s).sides = s.sides ∧ ∀ t ∈ s :: ss, t.even ∧ t.sides = s.sides := by
  induction ss generalizing s with
  | nil => simpa using h
  | cons t ss ih =>
    obtain ⟨hs, ha⟩ := ih h
    have he := (ha _ List.mem_cons_self).1
    simp only [agree, Bool.and_eq_true, beq_iff_eq] at he
    obtain ⟨⟨hse, hte⟩, hst⟩ := he
    have hc : (agree s t).sides = s.sides := by rw [agree, ← hst, common_self]
    refine ⟨by rw [List.foldl_cons, hs, hc], fun u hu => ?_⟩
    rcases List.mem_cons.mp hu with rfl | hu
    · exact ⟨hse, rfl⟩
    · rcases List.mem_cons.mp hu with rfl | hu
      · exact ⟨hte, hst.symm⟩
      · exact hc ▸ ha u (List.mem_cons_of_mem _ hu)

end Extent

/-- Items in the order of the places of their shape. -/
structure Block (α : Type) where
  sides : List Nat
  items : List α

namespace Block

variable {α β ε : Type}

mutual

def leaves : Json → List Json
  | .arr xs => leavesOf xs
  | j => [j]
termination_by structural j => j

def leavesOf : List Json → List Json
  | [] => []
  | x :: xs => leaves x ++ leavesOf xs
termination_by structural xs => xs

end

def ofValue (j : Json) : Except Misshape (Block Json) :=
  let extent := Extent.ofValue j
  let count := extent.sides.length
  if Shape.greatestCount < count ∨ (count = Shape.greatestCount ∧ !extent.even) then
    .error .tooDeep
  else if extent.even then .ok ⟨extent.sides, leaves j⟩
  else .error (.ragged extent.sides)

def single (a : α) : Block α :=
  ⟨[], [a]⟩

/-- Takes each item for something else, from the first to the last. -/
def mapM (f : α → Except ε β) (b : Block α) : Except ε (Block β) := do
  pure ⟨b.sides, ← b.items.mapM f⟩

/-- The item for a place of a shape that the block is repeated to. -/
def item? (b : Block α) (place : List Nat) : Option α :=
  b.items[Shape.offset b.sides (place.drop (place.length - b.sides.length))]?

@[simp] theorem item?_single (a : α) (place : List Nat) : (single a).item? place = some a := by
  simp [item?, single, Shape.offset]

theorem item?_placeAt (b : Block α) {k : Nat} (h : k < Shape.volume b.sides) :
    b.item? (Shape.placeAt b.sides k) = b.items[k]? := by
  rw [item?, Shape.length_placeAt, Nat.sub_self, List.drop_zero, Shape.offset_placeAt h]

mutual

/-- Where the items agree all the way down, there is one for each place. -/
theorem length_leaves (j : Json) (h : (Extent.ofValue j).even) :
    (leaves j).length = Shape.volume (Extent.ofValue j).sides := by
  match j with
  | .arr xs =>
    rw [Extent.ofValue] at h ⊢
    match xs with
    | [] => rfl
    | x :: xs =>
      rw [Extent.ofValues, Extent.ofItems] at h ⊢
      obtain ⟨hs, ha⟩ := Extent.foldl_agree h
      have hx := length_leaves x (ha _ List.mem_cons_self).1
      have hxs := length_leavesOf xs (Extent.ofValue x).sides fun t ht =>
        ha t (List.mem_cons_of_mem _ ht)
      simp only [leaves, leavesOf, List.length_append, hx, hxs, hs, Shape.volume_cons,
        Nat.add_mul, Nat.one_mul, Nat.add_comm]
  | .null => rfl
  | .bool _ => rfl
  | .num _ => rfl
  | .str _ => rfl
  | .obj _ => rfl

theorem length_leavesOf (xs : List Json) (sides : List Nat)
    (h : ∀ t ∈ Extent.ofValues xs, t.even ∧ t.sides = sides) :
    (leavesOf xs).length = (Extent.ofValues xs).length * Shape.volume sides := by
  match xs with
  | [] => simp [leavesOf, Extent.ofValues]
  | x :: xs =>
    obtain ⟨he, hs⟩ := h _ List.mem_cons_self
    have hx := length_leaves x he
    have hxs := length_leavesOf xs sides fun t ht => h t (List.mem_cons_of_mem _ ht)
    simp only [leavesOf, Extent.ofValues, List.length_append, List.length_cons, hx, hxs, hs,
      Nat.add_mul, Nat.one_mul, Nat.add_comm]

end

end Block

end GridSketch
