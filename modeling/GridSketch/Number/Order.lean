import GridSketch.Decimal.Binary
import GridSketch.Number

/-!
# Numbers on the line

An integer and a double are the same number if they are worth the same, and one is below another if
it is worth less. What a number is worth is an exact fraction, or one of the two ends of the line
for what is infinite; so a great integer is told apart from the double next to it. What is not a
number is worth nothing that could be compared: it is the same as none, and neither above nor below
any.
-/

set_option autoImplicit false

namespace GridSketch

/-- What a number is worth: a fraction, or an end of the line. -/
inductive Worth where
  | least
  | exact (q : Rat)
  | greatest
  deriving DecidableEq

namespace Worth

def compare : Worth → Worth → Ordering
  | .exact p, .exact q => compareOfLessAndEq p q
  | .least, .least | .greatest, .greatest => .eq
  | .least, _ | _, .greatest => .lt
  | _, .least | .greatest, _ => .gt

/-- Two places lie level only if they are one place. -/
theorem compare_eq_iff {a b : Worth} : compare a b = .eq ↔ a = b := by
  cases a with
  | exact p =>
    cases b with
    | exact q =>
      rw [compare, compareOfLessAndEq_eq_eq (fun _ => Rat.le_refl) Rat.not_le]
      exact ⟨congrArg _, Worth.exact.inj⟩
    | least | greatest => exact ⟨nofun, nofun⟩
  | least | greatest => cases b <;> simp [compare]

def whole? : Worth → Option Int
  | .exact q => if q.den = 1 then some q.num else none
  | .least | .greatest => none

end Worth

namespace Number

/-- What a number is worth; what is not a number is worth nothing. -/
def worth? : Number → Option Worth
  | .int n => some (.exact n)
  | .float x =>
    match Decimal.parts x with
    | .finite .. => some (.exact (Decimal.toRat x))
    | .infinite negative => some (if negative then .least else .greatest)
    | .nan => none

def compare? (m n : Number) : Option Ordering :=
  match m.worth?, n.worth? with
  | some a, some b => some (a.compare b)
  | _, _ => none

/-- The integer that a number is the same as, if there is one. -/
def whole? (n : Number) : Option Int :=
  n.worth?.bind Worth.whole?

@[simp] theorem worth?_int (n : Int) : worth? (.int n) = some (.exact n) :=
  rfl

@[simp] theorem compare?_int (m n : Int) :
    compare? (.int m) (.int n) = some (compare m n) := by
  have h : compareOfLessAndEq (m : Rat) (n : Rat) = compareOfLessAndEq m n := by
    simp only [compareOfLessAndEq, Rat.intCast_lt_intCast, Rat.intCast_inj]
  exact congrArg some h

@[simp] theorem whole?_int (n : Int) : whole? (.int n) = some n := by
  simp [whole?, Worth.whole?]

/-- What is the same as an integer is worth as much. -/
theorem worth?_of_whole {n : Number} {k : Int} (h : n.whole? = some k) :
    n.worth? = some (.exact k) := by
  obtain ⟨w, hw, hk⟩ := Option.bind_eq_some_iff.mp h
  cases w with
  | exact q =>
    simp only [Worth.whole?] at hk
    split at hk
    · rename_i hden
      have hq : q = (q.num : Rat) := Rat.ext rfl hden
      rw [hw, ← Option.some.inj hk, ← hq]
    · exact nomatch hk
  | least | greatest => exact nomatch hk

/-- What is worth as much as an integer compares like it. -/
theorem compare?_of_worth {n : Number} {k : Int} (h : n.worth? = some (.exact k)) (i : Int) :
    compare? (.int i) n = some (compare i k) ∧ n.compare? (.int i) = some (compare k i) := by
  rw [← compare?_int, ← compare?_int]
  simp only [compare?, h, worth?_int, and_self]

end Number

end GridSketch
