import GridSketch.Fault
import GridSketch.Json.Same

/-!
# The order of values

Numbers are ordered on the line, texts by the code points of their characters, and lists by the
first place at which they differ. Values of other kinds, or of two kinds, are not comparable, and
comparing them is a fault.

An index is a value that is compared with nought and with a count first, and used afterwards. So a
text is refused when it is compared, a number out of range is no index, and a fraction in range is
refused when it is used. On integers all this is what it is on the integers themselves.
-/

set_option autoImplicit false

namespace GridSketch.Json

/-! ## Comparing -/

/-- Compares two values neither of which is a list. -/
def compareSimple (c : Comparison) (a b : Json) : Except Fault Bool :=
  match a.number?, b.number? with
  | some m, some n => .ok ((m.compare? n).any c.holds)
  | _, _ =>
    match a, b with
    | .str s, .str t => .ok (c.holds (compare s t))
    | _, _ => .error (.unfit (.order c a.kindName b.kindName))

mutual

def comparesTo (c : Comparison) : Json → Json → Except Fault Bool
  | .arr xs, b =>
    match b with
    | .arr ys => itemsCompareTo c xs ys
    | _ => .error (.unfit (.order c (arr xs).kindName b.kindName))
  | a, b => compareSimple c a b
termination_by structural a => a

def itemsCompareTo (c : Comparison) : List Json → List Json → Except Fault Bool
  | [], ys => .ok (c.holds (compare 0 ys.length))
  | x :: xs, ys =>
    match ys with
    | [] => .ok (c.holds .gt)
    | y :: ys => if x == y then itemsCompareTo c xs ys else comparesTo c x y
termination_by structural xs => xs

end

/-- Whether a value is not below nought and below another. -/
def isBelow (j bound : Json) : Except Fault Bool := do
  if ← comparesTo .atMost (.num (.int 0)) j then comparesTo .less j bound else pure false

@[simp] theorem comparesTo_int (c : Comparison) (m n : Int) :
    comparesTo c (.num (.int m)) (.num (.int n)) = .ok (c.holds (compare m n)) := by
  simp [comparesTo, compareSimple, number?]

theorem less_holds_int (m n : Int) : Comparison.less.holds (compare m n) = decide (m < n) := by
  change (compareOfLessAndEq m n).isLT = _
  unfold compareOfLessAndEq
  split
  · simp_all
  · split <;> simp_all

theorem atMost_holds_int (m n : Int) :
    Comparison.atMost.holds (compare m n) = decide (m ≤ n) := by
  change (compareOfLessAndEq m n).isLE = _
  unfold compareOfLessAndEq
  split
  · simp; omega
  · split <;> simp <;> omega

theorem less_holds_text (s t : String) :
    Comparison.less.holds (compare s t) = decide (s < t) := by
  change (compareOfLessAndEq s t).isLT = _
  unfold compareOfLessAndEq
  split
  · simp_all
  · split <;> simp_all

/-- Texts are ordered by the code points of their characters. -/
theorem less_str (s t : String) : comparesTo .less (.str s) (.str t) = .ok (decide (s < t)) := by
  rw [← less_holds_text]
  rfl

@[simp] theorem isBelow_int (i n : Int) :
    isBelow (.num (.int i)) (.num (.int n)) = .ok (decide (0 ≤ i) && decide (i < n)) := by
  simp only [isBelow, comparesTo_int, bind, Except.bind, less_holds_int, atMost_holds_int]
  by_cases h : 0 ≤ i <;> simp [h, pure, Except.pure]

/-- Whether a number is between two integers, both included. -/
def isBetween (first last : Int) (j : Json) : Bool :=
  match j.number? with
  | some n =>
    ((Number.compare? (.int first) n).any Comparison.atMost.holds) &&
      ((n.compare? (.int last)).any Comparison.atMost.holds)
  | none => false

@[simp] theorem isBetween_int (first last i : Int) :
    isBetween first last (.num (.int i)) = (decide (first ≤ i) && decide (i ≤ last)) := by
  simp [isBetween, number?, atMost_holds_int]

/-- Neither of two places is beyond the other only if they are one place. -/
theorem atMost_antisymm (a b : Worth) :
    (Comparison.atMost.holds (a.compare b) && Comparison.atMost.holds (b.compare a)) =
      decide (b = a) := by
  cases a with
  | exact p =>
    cases b with
    | exact q =>
      have hle (x y : Rat) : (compareOfLessAndEq x y).isLE = true ↔ x ≤ y :=
        isLE_compareOfLessAndEq Rat.le_antisymm Rat.not_le fun _ _ => Rat.le_total
      change ((compareOfLessAndEq p q).isLE && (compareOfLessAndEq q p).isLE) = _
      rw [Bool.eq_iff_iff, Bool.and_eq_true, hle, hle, decide_eq_true_iff, Worth.exact.injEq]
      exact ⟨fun h => Rat.le_antisymm h.2 h.1, fun h => h ▸ ⟨Rat.le_refl, Rat.le_refl⟩⟩
    | least | greatest => rfl
  | least | greatest => cases b <;> rfl

theorem isBetween_self (i : Int) (j : Json) : j.isBetween i i = (j == .num (.int i)) := by
  have hnumber : ∀ n : Number, (Json.num n).isBetween i i = (Json.num n == .num (.int i)) := by
    intro n
    have hsame : (Json.num n == .num (.int i)) = decide (n.worth? = some (.exact i)) := by
      rw [Bool.eq_iff_iff, beq_iff]
      simp [marksOf]
    rw [hsame, isBetween, number?]
    cases hw : n.worth? with
    | none => simp [Number.compare?, hw]
    | some w => simp [Number.compare?, hw, atMost_antisymm]
  cases j with
  | num n => exact hnumber n
  | bool b =>
    -- a truth value has the marks of the number that it counts as
    have hcount : Json.bool b == .num (.int b.toNat) := by
      rw [beq_iff]
      cases b <;> rfl
    rw [BEq.congr_left hcount]
    exact hnumber _
  | null | str | arr | obj =>
    refine Eq.symm (Bool.eq_false_iff.mpr ?_)
    intro h
    rw [beq_iff] at h
    simp [marksOf] at h

/-- What is the same as an integer is between two others if the integer is. -/
theorem isBetween_of_beq {first last i : Int} {j : Json} (h : j == .num (.int i))
    (hfirst : first ≤ i) (hlast : i ≤ last) : j.isBetween first last = true := by
  rw [← isBetween_self, isBetween] at h
  cases hn : j.number? with
  | none => simp [hn] at h
  | some n =>
    cases hw : n.worth? with
    | none => simp [hn, Number.compare?, hw] at h
    | some w =>
      have hw : n.worth? = some (.exact i) := by
        simpa [hn, Number.compare?, hw, atMost_antisymm] using h
      simp [isBetween, hn, Number.compare?_of_worth hw, atMost_holds_int, hfirst, hlast]

/-! ## Indices -/

/-- The integer that a value is the same as, if there is one. -/
def whole? (j : Json) : Option Int :=
  j.number?.bind Number.whole?

def asIndex (use : Indexing) : Json → Except Fault Int
  | .num (.int i) => .ok i
  | .bool b => .ok b.toNat
  | j => .error (.unfit (.index use j.kindName))

/-- The index that a value is among so many entries, if it is in range. -/
def indexBelow (use : Indexing) (count : Nat) (j : Json) : Except Fault (Option Nat) := do
  if ← j.isBelow (.num (.int count)) then do
    let i ← j.asIndex use
    pure (some i.toNat)
  else pure none

@[simp] theorem whole?_int (n : Int) : whole? (.num (.int n)) = some n := by
  simp [whole?, number?]

/-- What is the same as an integer is below another value if the integer is. -/
theorem isBelow_of_whole {j : Json} {k : Int} (h : j.whole? = some k) (n : Int) :
    j.isBelow (.num (.int n)) = .ok (decide (0 ≤ k) && decide (k < n)) := by
  obtain ⟨m, hm, hk⟩ := Option.bind_eq_some_iff.mp h
  have hcompare := Number.compare?_of_worth (Number.worth?_of_whole hk)
  have hcompares : ∀ c, comparesTo c (.num (.int 0)) j = .ok (c.holds (compare 0 k)) ∧
      comparesTo c j (.num (.int n)) = .ok (c.holds (compare k n)) := by
    intro c
    cases j with
    | num | bool =>
      obtain rfl := Option.some.inj hm
      simp only [comparesTo, compareSimple, number?, hcompare, Option.any_some, and_self]
    | null | str | arr | obj => exact nomatch hm
  rw [← isBelow_int]
  simp only [isBelow, hcompares, comparesTo_int]

@[simp] theorem indexBelow_int (use : Indexing) (count : Nat) (i : Int) :
    indexBelow use count (.num (.int i)) =
      .ok (if 0 ≤ i ∧ i < count then some i.toNat else none) := by
  rw [indexBelow, isBelow_int]
  by_cases h : 0 ≤ i ∧ i < count
  · have hb : (decide (0 ≤ i) && decide (i < (count : Int))) = true := by simpa using h
    rw [hb, if_pos h]
    rfl
  · have hb : (decide (0 ≤ i) && decide (i < (count : Int))) = false := by simpa using h
    rw [hb, if_neg h]
    rfl

end GridSketch.Json
