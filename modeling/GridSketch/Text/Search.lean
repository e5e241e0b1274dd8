/-!
# Marks in a line

A command line is taken apart at the first place a mark such as `:=` or `->` occurs, and told
apart from other kinds of line by the marks it holds. A batch of commands is taken apart at its
line feeds.
-/

set_option autoImplicit false

namespace GridSketch.Text

def contains (mark : List Char) : List Char → Bool
  | [] => mark.isEmpty
  | c :: cs => mark.isPrefixOf (c :: cs) || contains mark cs

/-- What stands before the first place a mark occurs, and what stands after it; where the mark
does not occur the whole text stands before it. -/
def cut (mark : List Char) : List Char → List Char × List Char
  | [] => ([], [])
  | c :: cs =>
    if mark.isPrefixOf (c :: cs) then ([], (c :: cs).drop mark.length)
    else (c :: (cut mark cs).1, (cut mark cs).2)

/-- Nothing is lost where a text is cut at a mark it holds. -/
theorem cut_append {mark cs : List Char} (h : contains mark cs) :
    (cut mark cs).1 ++ mark ++ (cut mark cs).2 = cs := by
  induction cs with
  | nil => simpa [contains, cut] using h
  | cons c cs ih =>
    by_cases hp : mark.isPrefixOf (c :: cs)
    · obtain ⟨rest, hr⟩ := List.isPrefixOf_iff_prefix.mp hp
      have hd : (c :: cs).drop mark.length = rest := by rw [← hr, List.drop_left]
      simp only [cut, if_pos hp, hd, List.nil_append, hr]
    · have hc : contains mark cs := by simpa [contains, hp] using h
      simpa [cut, hp] using ih hc

/-- A text without the mark stands before it whole. -/
theorem cut_of_not_contains {mark cs : List Char} (h : ¬ contains mark cs) :
    cut mark cs = (cs, []) := by
  induction cs with
  | nil => rfl
  | cons c cs ih =>
    simp only [contains, Bool.or_eq_true, not_or] at h
    simp [cut, h.1, ih h.2]

/-- The lines of a text. A line feed ends no line, it stands between two, so that a text has one
line more than it has line feeds. -/
def lines : List Char → List (List Char)
  | [] => [[]]
  | c :: cs =>
    if c = '\n' then [] :: lines cs
    else
      match lines cs with
      | [] => [[c]]
      | l :: ls => (c :: l) :: ls

theorem lines_ne_nil (cs : List Char) : lines cs ≠ [] := by
  cases cs with
  | nil => simp [lines]
  | cons c cs =>
    rw [lines]
    split
    · simp
    · split <;> simp

/-- A line feed between two texts parts their lines. -/
theorem lines_append (cs ds : List Char) : lines (cs ++ '\n' :: ds) = lines cs ++ lines ds := by
  induction cs with
  | nil => simp [lines]
  | cons c cs ih =>
    by_cases h : c = '\n'
    · simp [lines, h, ih]
    · obtain ⟨l, ls, hl⟩ := List.exists_cons_of_ne_nil (lines_ne_nil cs)
      simp [lines, h, ih, hl]

/-- The first place, from the left, at which a reader of a text's beginning succeeds. -/
def findFirst {α : Type} (read : List Char → Option α) : List Char → Option α
  | [] => read []
  | c :: cs =>
    match read (c :: cs) with
    | some a => some a
    | none => findFirst read cs

end GridSketch.Text
