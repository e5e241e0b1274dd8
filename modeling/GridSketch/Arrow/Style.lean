import GridSketch.Json.Items

/-!
# Arrow styles

A style is a token such as `-|>` or `<->`. It is not looked up but searched for marks, each with a
meaning of its own, so several can hold at once and a token without any is a plain line.
-/

set_option autoImplicit false

namespace GridSketch

/-- What a style token asks for. -/
structure ArrowStyle where
  headAtTarget : Bool
  headAtSource : Bool
  barAtTarget : Bool
  curved : Bool
  deriving DecidableEq, Repr

/-- The style of a token of which it is known which marks it has. -/
def ArrowStyle.ofMarks (has : List Char → Bool) : ArrowStyle :=
  { headAtTarget := has ['>']
    headAtSource := has ['<', '-']
    barAtTarget := has ['|']
    curved := has ['a', 'r', 'c'] }

/-- Reads a style token. A bare one is a plain line. -/
def ArrowStyle.ofToken (token : Json) : Except Fault ArrowStyle :=
  if token.isBare then .ok (.ofMarks fun _ => false) else token.marks.map .ofMarks

theorem ArrowStyle.ofToken_str (s : String) :
    ofToken (.str s) = .ok (.ofMarks fun mark => Text.contains mark s.toList) := by
  by_cases h : s = ""
  · subst h
    rfl
  · simp [ofToken, Json.isBare, h, Except.map]

end GridSketch
