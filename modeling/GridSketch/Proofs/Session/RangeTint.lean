import GridSketch.Proofs.Document.RoundTrip
import GridSketch.Proofs.Scene.Tinting
import GridSketch.Proofs.Session.Refusal
import GridSketch.Proofs.Session.TintSelection

/-!
# Tinting a rectangle

A form tints the cells between two corners, or takes their tints away, and the corners may be given
in any order. The cells are tinted one after the other, row by row (`Rectangle`), each tint taking
the others of its cell away. So the tints of the rectangle come last and in that order, every cell
of it has one, and the other tints stay where they were (`Drawing.Paints`). Taking tints away is
done in one go instead, by the bounds of the rectangle. A tint whose row or column is no integer can
be within the bounds and on no cell; every other one is within the bounds where it is on a cell
(`Rectangle.within_eq_covered`), so nothing else is lost (`Drawing.Clears`).

`Session.tinted_rectangle` says so of every session and every form that can be read, and what is
left alone: the rest of the drawing, the session where there is nothing to take away, and the
session where a corner is not there. One thing keeps a rectangle that is there from being tinted.
What is undone is shown by its bounds, and integers that are too long are not shown (`ShownCorners`),
so that in a matrix that declares enough rows there is a cell that cannot be tinted
(`Session.tall_untinted`).
-/

set_option autoImplicit false

namespace GridSketch

/-! ## 1. Rectangles -/

/-- The rows and columns of the cells between two corners, row by row. -/
structure Rectangle (a b : Int × Int) (ps : List (Int × Int)) : Prop where
  mem_iff : ∀ p, p ∈ ps ↔
    (min a.1 b.1 ≤ p.1 ∧ p.1 ≤ max a.1 b.1) ∧ min a.2 b.2 ≤ p.2 ∧ p.2 ≤ max a.2 b.2
  rowMajor : ps.Pairwise fun p q => p.1 < q.1 ∨ p.1 = q.1 ∧ p.2 < q.2

namespace Change.Range

theorem mem_span_iff {first last i : Int} : i ∈ span first last ↔ first ≤ i ∧ i ≤ last := by
  refine ⟨mem_span, fun h => ?_⟩
  refine List.mem_map.mpr ⟨(i - first).toNat, List.mem_range.mpr ?_, ?_⟩
  · omega
  · omega

theorem pairwise_span (first last : Int) : (span first last).Pairwise (· < ·) := by
  rw [span, List.pairwise_map]
  refine List.pairwise_lt_range.imp ?_
  intro i j hlt
  omega

/-- The rows and columns of the cells. -/
def places (g : Range) : List (Int × Int) :=
  (span g.top g.bottom).flatMap fun row => (span g.left g.right).map fun col => (row, col)

theorem cells_eq (g : Range) (name : String) :
    g.cells (.str name) = g.places.map fun p => .ofText name p.1 p.2 := by
  simp only [cells, places, List.map_flatMap, List.map_map]
  rfl

theorem rectangle_between (a b : Int × Int) : Rectangle a b (between a b).places where
  mem_iff := by
    rintro ⟨row, col⟩
    simp only [places, between, List.mem_flatMap, List.mem_map, mem_span_iff, Prod.mk.injEq]
    constructor
    · rintro ⟨_, hrow, _, hcol, rfl, rfl⟩
      exact ⟨hrow, hcol⟩
    · rintro ⟨hrow, hcol⟩
      exact ⟨row, hrow, col, hcol, rfl, rfl⟩
  rowMajor := by
    rw [places, List.pairwise_flatMap]
    constructor
    · intro row _
      rw [List.pairwise_map]
      exact (pairwise_span _ _).imp fun hlt => Or.inr ⟨rfl, hlt⟩
    · refine (pairwise_span _ _).imp ?_
      intro row row' hlt p hp q hq
      obtain ⟨_, _, rfl⟩ := List.mem_map.mp hp
      obtain ⟨_, _, rfl⟩ := List.mem_map.mp hq
      exact Or.inl hlt

end Change.Range

/-- The cell is one of those at certain rows and columns. -/
def CellRef.covered (r : CellRef) (name : String) (ps : List (Int × Int)) : Bool :=
  ps.any fun p => r == .ofText name p.1 p.2

/-- The cell is within the bounds of a rectangle. -/
def CellRef.within (r : CellRef) (name : String) (a b : Int × Int) : Bool :=
  r.matrix.equals (.str name) && (Change.Range.between a b).contains r.row r.col

namespace Rectangle

variable {a b : Int × Int} {ps : List (Int × Int)} {name : String} {r : CellRef}

theorem within_of_covered (h : Rectangle a b ps) (hr : r.covered name ps = true) :
    r.within name a b = true := by
  obtain ⟨p, hp, hsame⟩ := List.any_eq_true.mp hr
  obtain ⟨hname, hrow, hcol⟩ := CellRef.beq_iff.mp hsame
  obtain ⟨hrows, hcols⟩ := (h.mem_iff p).mp hp
  have hnames : (r.matrix == .str name) = true := hname
  rw [CellRef.within, Json.equals_str, hnames, Change.Range.contains]
  simp only [Change.Range.between]
  rw [Json.isBetween_of_beq hrow hrows.1 hrows.2, Json.isBetween_of_beq hcol hcols.1 hcols.2]
  rfl

/-- A cell in an integral row and column is within the bounds where it is one of the cells. -/
theorem within_eq_covered (h : Rectangle a b ps) (hr : r.Storable) :
    r.within name a b = r.covered name ps := by
  obtain ⟨matrix, row, col, rfl⟩ := hr
  refine Bool.eq_iff_iff.mpr ⟨?_, h.within_of_covered⟩
  intro hwithin
  simp only [CellRef.within, CellRef.ofText, Json.equals_str, Json.str_beq_str, beq_iff_eq,
    Bool.and_eq_true, Change.Range.contains, Change.Range.between, Json.isBetween_int,
    decide_eq_true_eq] at hwithin
  obtain ⟨rfl, hrow, hcol⟩ := hwithin
  exact List.any_eq_true.mpr ⟨(row, col), (h.mem_iff _).mpr ⟨hrow, hcol⟩, BEq.rfl⟩

/-- The cells are different. -/
theorem pairwise_cells (h : Rectangle a b ps) (name : String) :
    ps.Pairwise fun p q => (CellRef.ofText name p.1 p.2 == .ofText name q.1 q.2) = false := by
  refine h.rowMajor.imp ?_
  intro p q hpq
  rw [Bool.eq_false_iff, ne_eq, CellRef.ofText_beq_ofText]
  omega

end Rectangle

/-! ## 2. Tints -/

namespace Drawing

/-- What is drawn after the cells of a rectangle were tinted. -/
structure Paints (d : Drawing) (name : String) (ps : List (Int × Int)) (colour : String)
    (d' : Drawing) : Prop where
  matrices : d'.matrices = d.matrices
  arrows : d'.arrows = d.arrows
  tints : d'.tints = (d.tints.filter fun t => !t.cell.covered name ps) ++
    ps.map fun p => ⟨.ofText name p.1 p.2, .str colour⟩
  single : ∀ p ∈ ps, (d'.tints.filter fun t => t.cell == .ofText name p.1 p.2) =
    [⟨.ofText name p.1 p.2, .str colour⟩]

/-- What is drawn after the tints within a rectangle were taken away. -/
structure Clears (d : Drawing) (name : String) (a b : Int × Int) (ps : List (Int × Int))
    (d' : Drawing) : Prop where
  matrices : d'.matrices = d.matrices
  arrows : d'.arrows = d.arrows
  tints : d'.tints = d.tints.filter fun t => !t.cell.within name a b
  bare : ∀ t ∈ d'.tints, t.cell.covered name ps = false

variable {a b : Int × Int} {ps : List (Int × Int)}

/-- Tinting the cells of a rectangle one after the other. -/
theorem paints_cells (h : Rectangle a b ps) (d : Drawing) (name colour : String) :
    d.Paints name ps colour ((ps.map fun p => .ofText name p.1 p.2).foldl
      (fun d r => d.putTint ⟨r, .str colour⟩) d) := by
  let ts : List Tint := ps.map fun p => ⟨.ofText name p.1 p.2, .str colour⟩
  have hput : (ps.map fun p => .ofText name p.1 p.2).foldl
      (fun d r => d.putTint ⟨r, .str colour⟩) d = ts.foldl putTint d := by
    rw [List.foldl_map, List.foldl_map]
  have hcovers : ∀ r : CellRef, tintedBy ts r = r.covered name ps := fun r => List.any_map
  have hapart : ts.Pairwise fun t u => (t.cell == u.cell) = false :=
    List.pairwise_map.mpr (h.pairwise_cells name)
  rw [hput, foldl_putTint, latest_eq_self hapart]
  simp only [hcovers]
  refine ⟨rfl, rfl, rfl, ?_⟩
  intro p hp
  have hothers : ((d.tints.filter fun t => !t.cell.covered name ps).filter
      fun t => t.cell == .ofText name p.1 p.2) = [] := by
    refine List.filter_eq_nil_iff.mpr ?_
    intro t ht hsame
    have huncovered := (List.mem_filter.mp ht).2
    rw [CellRef.covered, List.any_eq_true.mpr ⟨p, hp, hsame⟩] at huncovered
    exact absurd huncovered Bool.false_ne_true
  have hplaced := filter_cell_of_mem hapart (List.mem_map_of_mem hp)
  dsimp only
  rw [List.filter_append, hothers, List.nil_append]
  exact hplaced

/-- Taking the tints within a rectangle away. -/
theorem clears_filter (h : Rectangle a b ps) (d : Drawing) (name : String) :
    d.Clears name a b ps
      { d with tints := d.tints.filter fun t => !t.cell.within name a b } := by
  refine ⟨rfl, rfl, rfl, ?_⟩
  intro t ht
  have hoff : t.cell.within name a b = false := by simpa using (List.mem_filter.mp ht).2
  rw [Bool.eq_false_iff] at hoff ⊢
  exact fun hcovered => hoff (h.within_of_covered hcovered)

end Drawing

namespace Change

variable {d : Drawing} {name : String} {a b : Int × Int}

theorem untintRange_of_bare (h : ∀ t ∈ d.tints, t.cell.within name a b = false) :
    untintRange d (.str name) (Range.between a b) = none := by
  refine if_pos (List.length_filter_eq_length_iff.mpr ?_)
  intro t ht
  have hoff := h t ht
  rw [CellRef.within] at hoff
  rw [hoff]
  rfl

theorem untintRange_of_mem {t : Tint} (ht : t ∈ d.tints) (h : t.cell.within name a b = true) :
    untintRange d (.str name) (Range.between a b) =
      some { d with tints := d.tints.filter fun t => !t.cell.within name a b } := by
  refine if_neg fun hlength => ?_
  have hkept := List.length_filter_eq_length_iff.mp hlength t ht
  rw [CellRef.within] at h
  rw [h] at hkept
  exact absurd hkept Bool.false_ne_true

end Change

/-! ## 3. Forms -/

/-- The rows and the columns of two corners are short enough to be shown. -/
def ShownCorners (a b : Int × Int) : Prop :=
  (Text.withinDigitLimit a.1 ∧ Text.withinDigitLimit a.2) ∧
    Text.withinDigitLimit b.1 ∧ Text.withinDigitLimit b.2

/-- The bounds of a rectangle are those of its corners. -/
theorem Change.Range.isPrintable_between {a b : Int × Int} :
    (between a b).isPrintable = true ↔ ShownCorners a b := by
  have hends : ∀ i j : Int, Text.withinDigitLimit (min i j) = true ∧
      Text.withinDigitLimit (max i j) = true ↔
        Text.withinDigitLimit i = true ∧ Text.withinDigitLimit j = true := by
    intro i j
    rcases Int.le_total i j with h | h
    · rw [Int.min_eq_left h, Int.max_eq_right h]
    · rw [Int.min_eq_right h, Int.max_eq_left h, and_comm]
  have hrows := hends a.1 b.1
  have hcols := hends a.2 b.2
  simp only [isPrintable, between, List.all_cons, List.all_nil, Bool.and_true, Bool.and_eq_true,
    ShownCorners]
  tauto

/-- What is given for a corner is read as its row and its column. -/
def Json.Locates (given : Json) (p : Int × Int) : Prop :=
  (given.item 0 >>= asInt) = .ok p.1 ∧ (given.item 1 >>= asInt) = .ok p.2

/-- What is read off a form for a rectangle: the name, the corners and the colour. -/
structure RangeForm.Asks (f : RangeForm) (name : String) (a b : Int × Int) (colour : String) :
    Prop where
  matrix : f.matrix = .str name
  start : f.start.Locates a
  stop : f.stop.Locates b
  colour : f.colour.typed = .ok colour

namespace Change

variable {s : Scene} {given : Json} {name role : String} {a b : Int × Int}

theorem corner_eq_requireCell (h : given.Locates a) :
    corner s (.str name) given role =
      s.requireCell (.ofText name a.1 a.2) role >>= fun _ => pure a := by
  obtain ⟨row, hrow, hrow'⟩ := bind_eq_ok.mp h.1
  obtain ⟨col, hcol, hcol'⟩ := bind_eq_ok.mp h.2
  simp only [corner, hrow, hcol, bind, Except.bind, hrow', hcol']
  rfl

theorem corner_of_hasCell (h : given.Locates a)
    (hcell : s.HasCell (.ofText name a.1 a.2)) : corner s (.str name) given role = .ok a := by
  obtain ⟨m, hm, hinside⟩ := hcell
  rw [corner_eq_requireCell h, Drawing.requireCell_of_find? rfl hm hinside]
  rfl

theorem corner_of_not_hasCell (h : given.Locates a)
    (hcell : ¬ s.HasCell (.ofText name a.1 a.2)) :
    ∃ f, corner s (.str name) given role = .error f := by
  rw [corner_eq_requireCell h]
  cases hrequire : s.requireCell (.ofText name a.1 a.2) role with
  | ok m => exact absurd (Drawing.hasCell_of_requireCell hrequire) hcell
  | error f => exact ⟨f, rfl⟩

/-- A form whose corners are there is done, as long as they can be shown. -/
theorem tintRange_of_asks {f : RangeForm} {colour : String} (h : f.Asks name a b colour)
    (ha : s.HasCell (.ofText name a.1 a.2)) (hb : s.HasCell (.ofText name b.1 b.2))
    (hshown : ShownCorners a b) :
    ∃ label, tintRange s f = .ok
      { scene :=
          (if Tint.isNone (Text.trimmed colour) then
            untintRange s.toDrawing (.str name) (Range.between a b)
          else some (((Range.between a b).cells (.str name)).foldl
            (fun d r => d.putTint ⟨r, .str (Text.trimmed colour)⟩) s.toDrawing)).map s.withDrawing
        label } := by
  have hstart : corner s (.str name) f.start "Range start" = .ok a := corner_of_hasCell h.start ha
  have hstop : corner s (.str name) f.stop "Range end" = .ok b := corner_of_hasCell h.stop hb
  have hbounds : (Range.between a b).print = .ok _ := if_pos (Range.isPrintable_between.mpr hshown)
  simp only [tintRange, h.matrix, hstart, hstop, h.colour, Json.print_str, hbounds, bind,
    Except.bind]
  exact ⟨_, rfl⟩

/-- Corners that are there and cannot be shown are refused for that, whatever the colour. -/
theorem tintRange_of_hidden {f : RangeForm} {colour : String} (h : f.Asks name a b colour)
    (ha : s.HasCell (.ofText name a.1 a.2)) (hb : s.HasCell (.ofText name b.1 b.2))
    (hhidden : ¬ ShownCorners a b) : tintRange s f = .error .unprintable := by
  have hstart : corner s (.str name) f.start "Range start" = .ok a := corner_of_hasCell h.start ha
  have hstop : corner s (.str name) f.stop "Range end" = .ok b := corner_of_hasCell h.stop hb
  have hbounds : (Range.between a b).print = .error .unprintable :=
    if_neg (mt Range.isPrintable_between.mp hhidden)
  simp only [tintRange, h.matrix, hstart, hstop, h.colour, Json.print_str, hbounds, bind,
    Except.bind]

theorem tintRange_of_not_hasCell {f : RangeForm} {colour : String} (h : f.Asks name a b colour)
    (hno : ¬ (s.HasCell (.ofText name a.1 a.2) ∧ s.HasCell (.ofText name b.1 b.2))) :
    ∃ fault, tintRange s f = .error fault := by
  by_cases ha : s.HasCell (.ofText name a.1 a.2)
  · have hb : ¬ s.HasCell (.ofText name b.1 b.2) := fun hb => hno ⟨ha, hb⟩
    have hstart : corner s (.str name) f.start "Range start" = .ok a :=
      corner_of_hasCell h.start ha
    obtain ⟨fault, hstop⟩ : ∃ fault, corner s (.str name) f.stop "Range end" = .error fault :=
      corner_of_not_hasCell h.stop hb
    refine ⟨fault, ?_⟩
    simp only [tintRange, h.matrix, hstart, hstop, bind, Except.bind]
  · obtain ⟨fault, hstart⟩ : ∃ fault, corner s (.str name) f.start "Range start" = .error fault :=
      corner_of_not_hasCell h.start ha
    refine ⟨fault, ?_⟩
    simp only [tintRange, h.matrix, hstart, bind, Except.bind]

end Change

/-! ## 4. Sessions -/

namespace Session

variable {K : Type}

/-- The turn is one step to a drawing, which can be undone. The look of the scene stays. -/
structure Records (s : Session K) (turn : Turn K) (d : Drawing) : Prop where
  answer : turn.answer = .ok (.name .null)
  session : ∃ label, turn.session = { s with
    scene := s.scene.withDrawing d
    snapshots := s.snapshots.record ⟨s.scene, s.scene.withDrawing d, label⟩ }

theorem records_of_apply {s : Session K} {a : Action} {d : Drawing} {label : String}
    (h : a.apply s.scene = .ok { scene := some (s.scene.withDrawing d), label }) :
    s.Records (s.act a) d := by
  rw [act, h]
  exact ⟨rfl, label, rfl⟩

variable [Coordinate K]

/-- **A form for a rectangle does its cells and nothing else.** Where both corners are there and can
be shown, a colour is put on each of the cells, row by row, and no colour takes the tints within the
bounds away, which is not recorded where there are none; a cell in an integral row and column is
within the bounds where it is one of the cells. Where a corner is not there, or is there and too
long to be shown, the form is refused, and the session is the one before. -/
theorem tinted_rectangle (s : Session K) {f : RangeForm} {name colour : String} {a b : Int × Int}
    (h : f.Asks name a b colour) :
    let d := s.scene.toDrawing
    let turn := s.step (.act (.tintRange f))
    ∃ ps, Rectangle a b ps ∧
      (∀ r : CellRef, r.Storable → r.within name a b = r.covered name ps) ∧
      (d.HasCell (.ofText name a.1 a.2) ∧ d.HasCell (.ofText name b.1 b.2) →
        (ShownCorners a b →
          (Tint.isNone (Text.trimmed colour) = false →
            ∃ d', d.Paints name ps (Text.trimmed colour) d' ∧ s.Records turn d') ∧
          (Tint.isNone (Text.trimmed colour) = true →
            ∃ d', d.Clears name a b ps d' ∧
              ((∃ t ∈ d.tints, t.cell.within name a b = true) → s.Records turn d') ∧
              ((∀ t ∈ d.tints, t.cell.within name a b = false) →
                d'.tints = d.tints ∧ turn = s.quiet (.name .null)))) ∧
        (¬ ShownCorners a b → turn = s.refuse .unprintable)) ∧
      (¬ (d.HasCell (.ofText name a.1 a.2) ∧ d.HasCell (.ofText name b.1 b.2)) →
        ∃ fault, turn = s.refuse fault) := by
  intro d turn
  have hps := Change.Range.rectangle_between a b
  have hturn : turn = s.act (.tintRange f) := rfl
  refine ⟨(Change.Range.between a b).places, hps, fun _ => hps.within_eq_covered, ?_, ?_⟩
  · rintro ⟨ha, hb⟩
    refine ⟨?_, ?_⟩
    · intro hshown
      obtain ⟨label, htint⟩ := Change.tintRange_of_asks h ha hb hshown
      constructor
      · intro hcolour
        have hpaints := Drawing.paints_cells hps d name (Text.trimmed colour)
        rw [← Change.Range.cells_eq] at hpaints
        refine ⟨_, hpaints, ?_⟩
        simp only [hcolour, Bool.false_eq_true, if_false, Option.map_some] at htint
        exact records_of_apply htint
      · intro hnone
        simp only [hnone, if_true] at htint
        refine ⟨_, Drawing.clears_filter hps d name, ?_, ?_⟩
        · rintro ⟨t, ht, hwithin⟩
          rw [Change.untintRange_of_mem ht hwithin] at htint
          exact records_of_apply htint
        · intro hbare
          refine ⟨?_, ?_⟩
          · refine List.filter_eq_self.mpr ?_
            intro t ht
            rw [hbare t ht]
            rfl
          · rw [Change.untintRange_of_bare hbare] at htint
            rw [hturn, act, Action.apply, htint]
            rfl
    · intro hhidden
      rw [hturn, act, Action.apply, Change.tintRange_of_hidden h ha hb hhidden]
  · intro hno
    obtain ⟨fault, htint⟩ := Change.tintRange_of_not_hasCell h hno
    refine ⟨fault, ?_⟩
    rw [hturn, act, Action.apply, htint]

/-! ### A rectangle of the first drawing -/

/-- Four cells of the first matrix, from the upper right to the lower left. -/
def cornerForm : RangeForm where
  matrix := .str "A"
  start := .arr [.num (.int 0), .num (.int 1)]
  stop := .arr [.num (.int 1), .num (.int 0)]
  colour := .str " red "

theorem asks_cornerForm : cornerForm.Asks "A" (0, 1) (1, 0) " red " :=
  ⟨rfl, ⟨rfl, rfl⟩, ⟨rfl, rfl⟩, rfl⟩

theorem tinted_rectangle_corner :
    cornerForm.Asks "A" (0, 1) (1, 0) " red " ∧
      ∃ ps d', Rectangle (0, 1) (1, 0) ps ∧ Scene.initial.Paints "A" ps "red" d' ∧
        (opening : Session Rat).Records
          ((opening : Session Rat).step (.act (.tintRange cornerForm))) d' := by
  have hstart : Scene.initial.HasCell (.ofText "A" 0 1) :=
    Command.hasCell_first (by decide) (by decide)
  have hstop : Scene.initial.HasCell (.ofText "A" 1 0) :=
    Command.hasCell_first (by decide) (by decide)
  have hcolour : Text.trimmed " red " = "red" := by decide
  obtain ⟨ps, hps, _, hdone, _⟩ := tinted_rectangle (opening : Session Rat) asks_cornerForm
  rw [hcolour] at hdone
  have hshown : ShownCorners (0, 1) (1, 0) := ⟨⟨rfl, rfl⟩, rfl, rfl⟩
  obtain ⟨d', hpaints, hrecords⟩ := ((hdone ⟨hstart, hstop⟩).1 hshown).1 (by decide)
  exact ⟨asks_cornerForm, ps, d', hps, hpaints, hrecords⟩

/-! ### A row that cannot be shown -/

/-- A document with a matrix of one column that declares one row more than a number says. -/
def tallDocument (n : Nat) : Json :=
  .obj
    [ ("matrices", .arr
        [ .obj
            [ ("name", .str "A"),
              ("rows", .num (.int (n + 1))),
              ("values", .arr [.arr [.num (.int 1)]]) ] ]) ]

/-- The form that tints the cell in a row of it. -/
def rowForm (n : Nat) : RangeForm where
  matrix := .str "A"
  start := .arr [.num (.int n), .num (.int 0)]
  stop := .arr [.num (.int n), .num (.int 0)]
  colour := .str "red"

theorem read_tallDocument (n : Nat) :
    Document.read (tallDocument n) = .ok
      { matrices := Roster.empty.put (.str "A") (.sized (n + 1) 1 (Grid.ofInts [[1]]) ⟨0.0, 0.0⟩)
        arrows := []
        tints := [] } :=
  rfl

theorem hasCell_tall (n : Nat) :
    ((opening : Session Rat).after [.importDocument (tallDocument n)]).scene.HasCell
      (.ofText "A" n 0) := by
  have hscene : ((opening : Session Rat).after [.importDocument (tallDocument n)]).scene.matrices =
      Roster.empty.put (.str "A") (.sized (n + 1) 1 (Grid.ofInts [[1]]) ⟨0.0, 0.0⟩) := by
    simp only [Session.after, List.foldl_cons, List.foldl_nil, step, importDocument,
      read_tallDocument]
    rfl
  refine ⟨.sized (n + 1) 1 (Grid.ofInts [[1]]) ⟨0.0, 0.0⟩, ?_, ?_⟩
  · rw [hscene]
    simp [CellRef.ofText]
  · exact (Matrix.contains_sized _ _ _ _ n 0).trans (by simp)

/-- A cell of a matrix is not tinted, since its row is too long to be shown. -/
theorem tall_untinted : ¬ ∀ (ops : List (Op Rat)) (f : RangeForm) (name colour : String)
    (a b : Int × Int), f.Asks name a b colour →
    let s := (opening : Session Rat).after ops
    s.scene.HasCell (.ofText name a.1 a.2) → s.scene.HasCell (.ofText name b.1 b.2) →
    Tint.isNone (Text.trimmed colour) = false →
      ∃ ps d', Rectangle a b ps ∧ s.scene.Paints name ps (Text.trimmed colour) d' ∧
        s.Records (s.step (.act (.tintRange f))) d' := by
  intro h
  obtain ⟨n, hlong⟩ : ∃ n : Nat, Text.withinDigitLimit n ≠ true := by
    refine ⟨Nat.pow 10 Text.digitLimit, ?_⟩
    rw [Ne, Text.withinDigitLimit_iff, Int.natAbs_natCast]
    exact Nat.lt_irrefl _
  let s := (opening : Session Rat).after [.importDocument (tallDocument n)]
  have hasks : (rowForm n).Asks "A" (n, 0) (n, 0) "red" := ⟨rfl, ⟨rfl, rfl⟩, ⟨rfl, rfl⟩, rfl⟩
  have hfault : Change.tintRange s.scene (rowForm n) = .error .unprintable :=
    Change.tintRange_of_hidden hasks (hasCell_tall n) (hasCell_tall n) fun hshown => hlong hshown.1.1
  obtain ⟨_, _, _, _, hrecords⟩ := h [.importDocument (tallDocument n)] (rowForm n) "A" "red" (n, 0)
    (n, 0) hasks (hasCell_tall n) (hasCell_tall n) (by decide)
  have hanswer : (s.step (.act (.tintRange (rowForm n)))).answer = .error .unprintable := by
    rw [step, act, Action.apply, hfault]
    rfl
  cases hanswer.symm.trans hrecords.answer

end Session

end GridSketch
