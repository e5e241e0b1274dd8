/-!
# Decimal digits

Every script's decimal digits count as digits: wherever a numeral may be typed, its digits may be
those of any of the scripts below, and may even be mixed. Each script has its ten digits in one
run of code points, so a table of the zeros is enough.

A numeral of more than `digitLimit` digits is refused by whoever reads it, so the digits are kept
apart from the number they denote.
-/

set_option autoImplicit false

namespace GridSketch.Text

/-- The code points of the digit zero in each script, in ascending order. -/
def zeros : List Nat :=
  [ 0x30, 0x660, 0x6F0, 0x7C0, 0x966, 0x9E6, 0xA66, 0xAE6, 0xB66,
    0xBE6, 0xC66, 0xCE6, 0xD66, 0xDE6, 0xE50, 0xED0, 0xF20, 0x1040,
    0x1090, 0x17E0, 0x1810, 0x1946, 0x19D0, 0x1A80, 0x1A90, 0x1B50, 0x1BB0,
    0x1C40, 0x1C50, 0xA620, 0xA8D0, 0xA900, 0xA9D0, 0xA9F0, 0xAA50, 0xABF0,
    0xFF10, 0x104A0, 0x10D30, 0x11066, 0x110F0, 0x11136, 0x111D0, 0x112F0, 0x11450,
    0x114D0, 0x11650, 0x116C0, 0x11730, 0x118E0, 0x11950, 0x11C50, 0x11D50, 0x11DA0,
    0x16A60, 0x16AC0, 0x16B50, 0x1D7CE, 0x1D7D8, 0x1D7E2, 0x1D7EC, 0x1D7F6, 0x1E140,
    0x1E2F0, 0x1E950, 0x1FBF0 ]

def digitValue? (c : Char) : Option Nat :=
  zeros.findSome? fun z => if z ≤ c.toNat ∧ c.toNat < z + 10 then some (c.toNat - z) else none

/-- Whether a character is a decimal digit of any script. -/
def isDigit (c : Char) : Bool :=
  (digitValue? c).isSome

/-- The number that digits denote, the most significant digit first. -/
def ofDigits (ds : List Nat) : Nat :=
  ds.foldl (fun n d => 10 * n + d) 0

/-- The number a run of digit characters denotes; other characters count as zero. -/
def digitsValue (cs : List Char) : Nat :=
  ofDigits (cs.map fun c => (digitValue? c).getD 0)

/-- The longest numeral that is turned into an integer, and the longest integer that is printed. -/
def digitLimit : Nat := 4300

/-- Whether an integer is short enough to be printed. -/
def withinDigitLimit (n : Int) : Bool :=
  -- A machine word is, so the power is taken for long integers only.
  n.natAbs < Nat.pow 2 63 || n.natAbs < Nat.pow 10 digitLimit

theorem withinDigitLimit_iff {n : Int} :
    withinDigitLimit n = true ↔ n.natAbs < Nat.pow 10 digitLimit := by
  have hword : Nat.pow 2 63 ≤ Nat.pow 10 digitLimit := by decide +kernel
  rw [withinDigitLimit, Bool.or_eq_true, decide_eq_true_eq, decide_eq_true_eq]
  exact ⟨fun h => h.elim (fun h => Nat.lt_of_lt_of_le h hword) id, .inr⟩

def takeDigits (cs : List Char) : List Char × List Char :=
  (cs.takeWhile isDigit, cs.dropWhile isDigit)

theorem takeDigits_append (cs : List Char) : (takeDigits cs).1 ++ (takeDigits cs).2 = cs :=
  List.takeWhile_append_dropWhile

theorem isDigit_of_mem_takeDigits {c : Char} {cs : List Char} (h : c ∈ (takeDigits cs).1) :
    isDigit c :=
  List.all_eq_true.mp List.all_takeWhile c h

theorem takeDigits_stops {c : Char} {cs rest : List Char} (h : (takeDigits cs).2 = c :: rest) :
    isDigit c = false := by
  have hd := List.head?_dropWhile_not isDigit cs
  rw [show cs.dropWhile isDigit = c :: rest from h] at hd
  simpa using hd

theorem ofDigits_concat (ds : List Nat) (d : Nat) :
    ofDigits (ds ++ [d]) = 10 * ofDigits ds + d := by
  simp [ofDigits]

/-- A sign in front, true for the minus, and the rest. -/
def takeSign : List Char → Bool × List Char
  | '+' :: cs => (false, cs)
  | '-' :: cs => (true, cs)
  | cs => (false, cs)

end GridSketch.Text
