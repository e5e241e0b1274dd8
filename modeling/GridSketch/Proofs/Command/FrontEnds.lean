import GridSketch.Proofs.Command.Digits
import GridSketch.Proofs.Command.Line
import GridSketch.Proofs.Session.Tints

/-!
# Two front ends

A drawing is changed from the console and from forms. The console reads a line and does what it
says; a form hands over its fields, which are read one by one. Where a line and a form say the same,
the same becomes of the drawing: it is the same drawing afterwards, or both are refused for causes
of one kind (`console_as_forms`). The wording of a refusal may differ, since a form and a command
call a cell by different roles, and so does what is selected afterwards, which is not part of the
drawing.

What becomes of a drawing is a computation in which a fault is told by its kind alone (`byKind`).
Both sides are brought to such a computation, step by step along the checks (`byKind_bind`), and
then they are one. Two things are left that are not the same on both sides. A form for a rectangle
takes away every tint in it, the command only the first of the cell: that comes to the same as long
as a cell has one tint at most. And a form for a cell does at once what takes two commands.
-/

set_option autoImplicit false

namespace GridSketch

variable {α β : Type}

/-! ## 1. Kinds -/

/-- A result of which a fault is told by its kind alone. -/
def byKind : Except Fault α → Except Fault.Kind α
  | .ok a => .ok a
  | .error f => .error f.kind

@[simp] theorem byKind_ok (a : α) : byKind (.ok a) = pure a :=
  rfl

@[simp] theorem byKind_pure (a : α) : byKind (pure a) = pure a :=
  rfl

theorem byKind_bind (x : Except Fault α) (f : α → Except Fault β) :
    byKind (x >>= f) = byKind x >>= fun a => byKind (f a) := by
  cases x <;> rfl

theorem byKind_eq_ok {x : Except Fault α} {a : α} : byKind x = .ok a ↔ x = .ok a := by
  cases x with
  | error f => exact ⟨nofun, nofun⟩
  | ok b => exact ⟨fun h => congrArg _ (Except.ok.inj h), fun h => congrArg _ (Except.ok.inj h)⟩

theorem Fault.kind_outOfRange (role role' : String) (rows cols : Json) :
    (outOfRange role rows cols).kind = (outOfRange role' rows cols).kind := by
  rw [outOfRange, outOfRange]
  cases lastIndex rows with
  | error f => rfl
  | ok row =>
    cases lastIndex cols with
    | error f => rfl
    | ok col =>
      dsimp only
      cases row.isPrintable && col.isPrintable <;> rfl

/-- The role of a cell is in the wording only. -/
theorem Drawing.byKind_requireCell (d : Drawing) (r : CellRef) (role role' : String) :
    byKind (d.requireCell r role) = byKind (d.requireCell r role') := by
  rw [requireCell, requireCell, byKind_bind, byKind_bind]
  congr 1
  funext m
  rw [byKind_bind, byKind_bind]
  congr 1
  funext inside
  cases inside with
  | true => rfl
  | false => exact congrArg Except.error (Fault.kind_outOfRange role role' m.rows m.cols)

/-! ## 2. A rectangle of one cell -/

/-- Where there is one of a kind at most, taking away the first is taking away all. -/
theorem eraseP_eq_filter {p : α → Bool} {xs : List α}
    (h : xs.Pairwise fun a b => ¬ (p a = true ∧ p b = true)) :
    xs.eraseP p = xs.filter fun a => !p a := by
  induction xs with
  | nil => rfl
  | cons a xs ih =>
    obtain ⟨ha, hxs⟩ := List.pairwise_cons.mp h
    cases hp : p a with
    | true =>
      have hrest : ∀ b ∈ xs, (!p b) = true := fun b hb => by simpa [hp] using ha b hb
      simp [hp, List.filter_eq_self.mpr hrest]
    | false => simp [hp, ih hxs]

namespace Drawing

variable {d : Drawing} {r : CellRef}

theorem clearTint_getD (d : Drawing) (r : CellRef) :
    (d.clearTint r).getD d = { d with tints := d.tints.eraseP fun t => t.cell.equals r } := by
  rw [clearTint, findTint?, List.eraseP_eq_eraseIdx]
  cases d.tints.findIdx? _ <;> rfl

theorem OneTintPerCell.clearTint_getD (h : d.OneTintPerCell) (r : CellRef) :
    (d.clearTint r).getD d =
      { d with tints := d.tints.filter fun t => !t.cell.equals r } := by
  have hone : d.tints.Pairwise fun t u =>
      ¬ (t.cell.equals r = true ∧ u.cell.equals r = true) := by
    refine h.imp ?_
    rintro t u htu ⟨ht, hu⟩
    have hsame := BEq.trans (CellRef.beq_of_equals ht) (BEq.symm (CellRef.beq_of_equals hu))
    rw [hsame] at htu
    exact nomatch htu
  rw [Drawing.clearTint_getD, eraseP_eq_filter hone]

end Drawing

namespace Change

theorem untintRange_getD (d : Drawing) (matrix : Json) (g : Range) :
    (untintRange d matrix g).getD d =
      { d with
        tints := d.tints.filter fun t =>
          !(t.cell.matrix.equals matrix && g.contains t.cell.row t.cell.col) } := by
  rw [untintRange]
  split
  · rename_i hlen
    rw [List.filter_eq_self.mpr (List.length_filter_eq_length_iff.mp hlen)]
    rfl
  · rfl

theorem Range.cells_self (name : String) (row col : Int) :
    (Range.between (row, col) (row, col)).cells (.str name) = [.ofText name row col] := by
  simp [Range.between, Range.cells, Range.span, CellRef.ofText]

/-- The rectangle of one cell is shown where the cell is. -/
theorem Range.print_self {row col : Int} (hrow : Text.withinDigitLimit row)
    (hcol : Text.withinDigitLimit col) :
    ∃ text, (Range.between (row, col) (row, col)).print = .ok text := by
  have hshort : (Range.between (row, col) (row, col)).isPrintable = true := by
    simp [Range.between, Range.isPrintable, hrow, hcol]
  exact ⟨_, if_pos hshort⟩

theorem Range.contains_self (row col : Int) (i j : Json) :
    (Range.between (row, col) (row, col)).contains i j =
      (i == .num (.int row) && j == .num (.int col)) := by
  simp [Range.between, Range.contains, Json.isBetween_self]

end Change

/-! ## 3. Lines and forms -/

/-- What becomes of a drawing where a line is typed at the console. -/
def Drawing.typed (d : Drawing) (line : List Char) : Except Fault.Kind Drawing := do
  let effect ← byKind (Command.execute d line)
  pure (effect.drawing.getD d)

/-- What becomes of the drawing of a scene where a form is submitted. -/
def Scene.submitted (s : Scene) (form : Action) : Except Fault.Kind Drawing := do
  let change ← byKind (form.apply s)
  pure (change.scene.getD s).toDrawing

namespace Command

/-- The form for a matrix that is filled in sequence. -/
def matrixForm (name : String) (rows cols : Nat) (x y : Literal) : MatrixForm where
  name := .str name
  rows := .num (.int rows)
  cols := .num (.int cols)
  x := .num (.float x.toFloat)
  y := .num (.float y.toFloat)
  kind := .str "sequential"

/-- The form for the colour of a rectangle that is one cell. -/
def Place.rangeForm (p : Place) (colour : String) : RangeForm where
  matrix := .str p.name
  start := .arr [.num (.int p.row), .num (.int p.col)]
  stop := .arr [.num (.int p.row), .num (.int p.col)]
  colour := .str colour

/-- The form for the value and the colour of a cell. -/
def Place.cellForm (p : Place) (value colour : String) : CellForm where
  matrix := .str p.name
  row := .num (.int p.row)
  col := .num (.int p.col)
  value := .str value
  colour := .str colour

/-- The form for an arrow of which no more is said than its colour. -/
def arrowForm (source target : Place) (colour : String) : ArrowForm where
  source := source.ref
  target := target.ref
  colour := .str colour

theorem newValues_matrixForm (name : String) (rows cols : Nat) (x y : Literal) (noise : Noise) :
    Change.newValues (matrixForm name rows cols x y) noise =
      Grid.make .sequential rows cols := by
  have hkind : ¬ (Json.str "sequential").isText Change.randomKind = true := by decide
  rw [Change.newValues, matrixForm, if_neg hkind]
  rfl

/-- What is left bare in the form for an arrow is what the command says nothing of. -/
theorem arrowOf_arrowForm (d : Drawing) (source target : Place) (colour : String) :
    Change.arrowOf d (arrowForm source target colour) =
      (d.requireCell source.ref "Source" >>= fun _ => d.requireCell target.ref "Target" >>= fun _ =>
        pure (plainArrow source.ref target.ref colour.toList)) := by
  have hcolour : Change.textOr Arrow.defaultColour (.str colour) =
      .ok (colourOr Arrow.defaultColour colour.toList) := rfl
  have hwidth : Change.width .null = .ok Arrow.defaultWidth := rfl
  have hlabel : Change.labelOf .null = .ok .null := rfl
  simp only [Change.arrowOf, arrowForm, hcolour, hwidth, hlabel]
  rfl

theorem IsNumeral.withinDigitLimit {ds : List Char} {n : Nat} (h : IsNumeral ds n) :
    Text.withinDigitLimit n :=
  Text.withinDigitLimit_iff.mpr (natural_lt h.natural)

/-- The place of a cell that is typed is short enough to be shown. -/
theorem Place.SpelledBy.withinDigitLimit {p : Place} {ts : List (List Char)} (h : p.SpelledBy ts) :
    Text.withinDigitLimit p.row ∧ Text.withinDigitLimit p.col := by
  obtain ⟨row, col, hrow, hcol, _⟩ := h.tokens
  exact ⟨hrow.withinDigitLimit, hcol.withinDigitLimit⟩

theorem Place.SpelledBy.print_ref {p : Place} {ts : List (List Char)} (h : p.SpelledBy ts) :
    p.ref.print = .ok p.ref.text := by
  obtain ⟨hrow, hcol⟩ := h.withinDigitLimit
  refine CellRef.print_of_isPrintable ?_
  simp [CellRef.isPrintable, Place.ref, CellRef.ofText, hrow, hcol]

variable {s : Scene} {line : List Char}

theorem typed_definition {name : String} {rows cols : Nat} {x y : Literal}
    (h : Sentence.SpelledBy (.definition name rows cols x y) line) (noise : Noise) :
    s.typed line = s.submitted (.define (matrixForm name rows cols x y) noise) := by
  have hname : Name.WellFormed name := by
    cases h with
    | definition hname => exact hname
  rw [Drawing.typed, Scene.submitted, execute_spelled h]
  simp only [Sentence.run, create, Action.apply, Change.define, newValues_matrixForm, byKind_bind]
  simp [matrixForm, clean_name hname]

theorem typed_arrow {source target : Place} {colour : String}
    (h : Sentence.SpelledBy (.arrow source target colour) line)
    (hnone : s.selection.arrow = .null) :
    s.typed line = s.submitted (.saveArrow (arrowForm source target colour)) := by
  obtain ⟨hsource, htarget⟩ : source.ref.print = .ok source.ref.text ∧
      target.ref.print = .ok target.ref.text := by
    cases h with
    | arrow hsource htarget => exact ⟨hsource.print_ref, htarget.print_ref⟩
  rw [Drawing.typed, Scene.submitted, execute_spelled h]
  have hnull : Json.null.isNull = true := rfl
  have hform : (arrowForm source target colour).source = source.ref ∧
      (arrowForm source target colour).target = target.ref := ⟨rfl, rfl⟩
  simp only [Sentence.run, join, Action.apply, Change.saveArrow, arrowOf_arrowForm, hnone, hnull,
    hform, hsource, htarget, if_true, byKind_bind, bind_assoc, byKind_pure, byKind_ok, pure_bind]
  rfl

theorem typed_colour {p : Place} {colour : String} (h : Sentence.SpelledBy (.colour p colour) line)
    (hcolour : Text.trimmed colour ≠ "") {d : Drawing} :
    d.typed line = byKind (d.requireCell p.ref "Cell") >>= fun _ =>
      pure (Change.tint d p.ref (Text.trimmed colour)) := by
  rw [Drawing.typed, execute_spelled h]
  have htrim : String.ofList (Text.trim colour.toList) = Text.trimmed colour := rfl
  simp only [Sentence.run, tint, byKind_bind, bind_assoc, htrim, if_neg hcolour, Change.tint]
  congr 1
  funext m
  by_cases hnone : Tint.isNone (Text.trimmed colour) = true
  · simp only [if_pos hnone, byKind_pure, pure_bind]
  · simp only [if_neg hnone, byKind_pure, pure_bind, Option.getD_some]

theorem toDrawing_getD (s : Scene) (change : Option Drawing) :
    ((change.map s.withDrawing).getD s).toDrawing = change.getD s.toDrawing := by
  cases change <;> rfl

theorem submitted_range (hs : s.OneTintPerCell) {p : Place} {ts : List (List Char)}
    (hp : p.SpelledBy ts) (colour : String) :
    s.submitted (.tintRange (p.rangeForm colour)) =
      byKind (s.requireCell p.ref "Cell") >>= fun _ =>
        pure (Change.tint s.toDrawing p.ref (Text.trimmed colour)) := by
  have hcorner : ∀ role, Change.corner s (.str p.name)
      (.arr [.num (.int p.row), .num (.int p.col)]) role =
        s.requireCell p.ref role >>= fun _ => pure ((p.row : Int), (p.col : Int)) :=
    fun _ => rfl
  have htyped : (Json.str colour).typed = .ok colour := rfl
  obtain ⟨text, htext⟩ := Change.Range.print_self hp.withinDigitLimit.1 hp.withinDigitLimit.2
  simp only [Scene.submitted, Action.apply, Change.tintRange, Place.rangeForm, hcorner, htyped,
    htext, Json.print_str, byKind_bind, bind_assoc, byKind_pure, byKind_ok, pure_bind,
    s.byKind_requireCell p.ref "Range start" "Cell", s.byKind_requireCell p.ref "Range end" "Cell"]
  -- both corners are the cell itself, so what is left is to check it twice and then to tint it
  cases byKind (s.requireCell p.ref "Cell") with
  | error k => rfl
  | ok m =>
    refine congrArg Except.ok ?_
    rw [toDrawing_getD, Change.tint]
    by_cases hnone : Tint.isNone (Text.trimmed colour) = true
    · rw [if_pos hnone, if_pos hnone, Change.untintRange_getD, hs.clearTint_getD]
      simp only [Change.Range.contains_self, CellRef.equals, Place.ref, CellRef.ofText,
        Json.equals_str, Json.equals_int, Bool.and_assoc]
    · rw [if_neg hnone, if_neg hnone, Change.Range.cells_self]
      rfl

theorem submitted_cell {p : Place} {value : String} (colour : String)
    (h : Sentence.SpelledBy (.value p value) line) :
    s.submitted (.editCell (p.cellForm value colour)) =
      s.typed line >>= fun d => pure (Change.tint d p.ref (Text.trimmed colour)) := by
  have htyped : ∀ text : String, (Json.str text).typed = .ok text := fun _ => rfl
  have hprint : p.ref.print = .ok p.ref.text := by
    cases h with
    | value hp => exact hp.print_ref
  rw [Place.ref, CellRef.ofText] at hprint
  rw [Drawing.typed, execute_spelled h]
  simp only [Scene.submitted, Action.apply, Change.editCell, Place.cellForm, Sentence.run, assign,
    Place.ref, CellRef.ofText, htyped, hprint, Json.asInt_int, byKind_bind, bind_assoc, byKind_pure,
    byKind_ok, pure_bind, Option.getD_some, Scene.toDrawing_select, Scene.toDrawing_withDrawing]

/-- A cell that has got a value is still there. -/
theorem requireCell_of_typed_value {p : Place} {value : String} {d : Drawing}
    (h : Sentence.SpelledBy (.value p value) line) (hd : s.typed line = .ok d) (role : String) :
    ∃ m, d.requireCell p.ref role = .ok m := by
  rw [Drawing.typed, execute_spelled h] at hd
  obtain ⟨effect, heffect, hd⟩ := bind_eq_ok.mp hd
  simp only [Sentence.run, byKind_eq_ok, assign, bind_eq_ok, pure_eq_ok] at heffect
  obtain ⟨m, hm, v, _, d', hd', rfl⟩ := heffect
  obtain rfl : d' = d := Except.ok.inj hd
  obtain ⟨_, hcell⟩ := Drawing.requireCell_eq_ok hm
  rw [Drawing.putMatrix_eq_ok hd']
  have hfind : (s.matrices.put p.ref.matrix (m.withValue p.ref.row p.ref.col (.num v))).find?
      p.ref.matrix = some (m.withValue p.ref.row p.ref.col (.num v)) := by simp
  refine ⟨_, Drawing.requireCell_of_find? rfl hfind ?_ role⟩
  rw [Matrix.contains_withValue, hcell]

/-- **The console and the forms do the same to a drawing.** A line that defines a matrix, adds an
arrow or colours a cell comes to the same as the form with what the line says in it, and a line that
sets a value, followed by one that colours the cell, to the same as the form for both; where the
value is refused, so is the form. -/
theorem console_as_forms (s : Scene) (hs : s.OneTintPerCell) :
    (∀ name rows cols x y line noise,
      Sentence.SpelledBy (.definition name rows cols x y) line →
        s.typed line = s.submitted (.define (matrixForm name rows cols x y) noise)) ∧
    (∀ source target colour line, s.selection.arrow = .null →
      Sentence.SpelledBy (.arrow source target colour) line →
        s.typed line = s.submitted (.saveArrow (arrowForm source target colour))) ∧
    (∀ p colour line, Text.trimmed colour ≠ "" → Sentence.SpelledBy (.colour p colour) line →
      s.typed line = s.submitted (.tintRange (p.rangeForm colour))) ∧
    (∀ p value colour line line', Text.trimmed colour ≠ "" →
      Sentence.SpelledBy (.value p value) line → Sentence.SpelledBy (.colour p colour) line' →
        (∀ d, s.typed line = .ok d → ∃ d', d.typed line' = .ok d' ∧
          s.submitted (.editCell (p.cellForm value colour)) = .ok d') ∧
        (∀ k, s.typed line = .error k →
          s.submitted (.editCell (p.cellForm value colour)) = .error k)) := by
  refine ⟨?_, ?_, ?_, ?_⟩
  · intro name rows cols x y line noise h
    exact typed_definition h noise
  · intro source target colour line hnone h
    exact typed_arrow h hnone
  · intro p colour line hcolour h
    obtain ⟨ts, hp⟩ : ∃ ts, p.SpelledBy ts := by
      cases h with
      | colour hp => exact ⟨_, hp⟩
    rw [typed_colour h hcolour, submitted_range hs hp]
  · intro p value colour line line' hcolour hvalue h
    rw [submitted_cell colour hvalue]
    constructor
    · intro d hd
      obtain ⟨m, hm⟩ := requireCell_of_typed_value hvalue hd "Cell"
      rw [typed_colour h hcolour, hm, hd]
      exact ⟨_, rfl, rfl⟩
    · intro k hk
      rw [hk]
      rfl

/-! ### Lines for the first drawing -/

theorem isNumeral_one : IsNumeral ['1'] 1 :=
  isNumeral_toString (n := 1) (by decide)

def firstScene : Scene :=
  Scene.fresh Scene.initial .light

def middle : Place :=
  ⟨"A", 1, 1⟩

theorem middle_spelled : middle.SpelledBy (cellTokens ['A'] ['1'] ['1']) where
  wellFormed := Name.wellFormed_initial.1
  tokens := ⟨['1'], ['1'], isNumeral_one, isNumeral_one, rfl⟩

/-- The first matrix of the first drawing has three rows and three columns. -/
theorem hasCell_first {i j : Int} (hi : 0 ≤ i ∧ i < 3) (hj : 0 ≤ j ∧ j < 3) :
    Scene.initial.HasCell (.ofText "A" i j) := by
  have hfind : Scene.initial.matrices.find? (.str "A") = some
      (.sized 3 3 (Grid.ofInts (Grid.filled .sequential 3 3)) ⟨0.0, 0.0⟩) := by
    simp [Scene.initial]
  refine ⟨_, hfind, (Matrix.contains_sized 3 3 _ _ i j).trans ?_⟩
  simp [hi, hj]

theorem hasCell_middle : Scene.initial.HasCell middle.ref :=
  hasCell_first (by decide) (by decide)

/-- One, and minus a half, as they are spelled in `spelled_definition`. -/
def one : Literal := ⟨false, ['1'], none⟩
def minusHalf : Literal := ⟨true, [], some ['5']⟩

theorem spelled_definition :
    Sentence.SpelledBy (.definition "A" 1 1 one minusHalf) "A:=[1,1]@(1,-.5)".toList := by
  have hfive : Text.isDigit '5' = true := by decide
  have hone : one.Spells ['1'] :=
    ⟨isNumeral_one.digits, nofun, Or.inl (List.cons_ne_nil _ _), [],
      Or.inr ⟨rfl, List.mem_cons_self⟩, rfl⟩
  have hhalf : minusHalf.Spells ['-', '.', '5'] :=
    ⟨nofun, by simp [minusHalf, hfive], Or.inr (List.cons_ne_nil _ _), ['-'],
      Or.inl ⟨rfl, rfl⟩, rfl⟩
  exact .definition Name.wellFormed_initial.1 isNumeral_one isNumeral_one hone hhalf
    (Spaced.flatten _)

theorem spelled_arrow :
    Sentence.SpelledBy (.arrow middle middle "green") "A[1][1]->A[1][1]:green".toList :=
  .arrow middle_spelled middle_spelled (Spaced.flatten _) (by decide)

theorem spelled_colour : Sentence.SpelledBy (.colour middle "None") "A[1][1]:None".toList :=
  .colour middle_spelled (Spaced.flatten _) (by decide) (by decide)

theorem spelled_value : Sentence.SpelledBy (.value middle "x") "A[1][1]=x".toList :=
  .value middle_spelled (Spaced.flatten _) (by decide) (by decide)

theorem typed_value_initial :
    Scene.initial.typed "A[1][1]=x".toList = .error .invalidNumber := by
  obtain ⟨m, hfind, hinside⟩ := hasCell_middle
  have hcell := Drawing.requireCell_of_find? rfl hfind hinside "Cell"
  have hnumber : number "x".toList = .error (.invalidNumber "x") := rfl
  rw [Drawing.typed, execute_spelled spelled_value, Sentence.run, assign, hcell, hnumber]
  rfl

theorem console_as_forms_initial :
    firstScene.OneTintPerCell ∧
      firstScene.typed "A:=[1,1]@(1,-.5)".toList =
        firstScene.submitted (.define (matrixForm "A" 1 1 one minusHalf) fun _ _ => 0) ∧
      firstScene.typed "A[1][1]->A[1][1]:green".toList =
        firstScene.submitted (.saveArrow (arrowForm middle middle "green")) ∧
      firstScene.typed "A[1][1]:None".toList =
        firstScene.submitted (.tintRange (middle.rangeForm "None")) ∧
      firstScene.submitted (.editCell (middle.cellForm "x" "None")) = .error .invalidNumber := by
  have hone : firstScene.OneTintPerCell := List.pairwise_singleton _ _
  have hnone : Text.trimmed "None" ≠ "" := by decide
  obtain ⟨hdefinition, harrow, hcolour, hcell⟩ := console_as_forms _ hone
  exact ⟨hone, hdefinition _ _ _ _ _ _ _ spelled_definition, harrow _ _ _ _ rfl spelled_arrow,
    hcolour _ _ _ hnone spelled_colour,
    (hcell _ _ _ _ _ hnone spelled_value spelled_colour).2 _ typed_value_initial⟩

end Command

end GridSketch
