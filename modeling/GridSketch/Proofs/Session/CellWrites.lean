import GridSketch.Proofs.Command.Batch
import GridSketch.Proofs.Scene.Tinting
import GridSketch.Proofs.Session.WellFormed

/-!
# Setting the value of a cell

A form and a command set the value of a cell, and both check first that the matrix has the cell. The
check is about the size that the matrix declares, while the value is put among the values that it
stores, and these may be fewer: a document is let through with any size. So a value can be set and
be lost, though the form is done and the command says that it has set the value.

What is left is the same for both (`Drawing.Writes`). Nothing but the one cell is changed: the other
matrices are the same and in the same order, and the matrix of the cell keeps its size, its place
and the values of its other cells. And the value is in the cell exactly where the matrix stored a
value for the cell before (`Matrix.Writes.lands`). It did if the matrix is full, as all matrices are that were not
loaded or defined by a hollow form (`Drawing.Writes.lands_of_full`). So `Session.cell_writes` says
of every session what is set and what is lost, and `Session.value_lost` loses a value.
-/

set_option autoImplicit false

namespace GridSketch

/-! ## 1. Grids -/

namespace Grid

theorem value?_ofNat (g : Grid) (i j : Nat) : g.value? i j = g[i]?.bind fun r => r[j]? := by
  rw [value?, fromEitherEnd?_ofNat]
  cases g[i]? with
  | none => rfl
  | some r => exact fromEitherEnd?_ofNat r j

/-- A value that is set is in its cell where the grid has that cell, and in no other. -/
theorem value?_set (g : Grid) (row col i j : Nat) (v : Json) :
    (g.set row col v).value? i j =
      if i = row ∧ j = col then (g.value? i j).map fun _ => v else g.value? i j := by
  have hset : g.set row col v = g.modify row fun r => r.set col v :=
    if_pos ⟨Int.natCast_nonneg row, Int.natCast_nonneg col⟩
  rw [hset, value?_ofNat, value?_ofNat, List.getElem?_modify]
  cases g[i]? with
  | none => simp
  | some r =>
    by_cases hrow : row = i
    · by_cases hcol : col = j
      · simp [hrow, hcol, List.getElem?_set']
        rfl
      · simp [hrow, hcol, Ne.symm hcol]
    · simp [hrow, Ne.symm hrow]

end Grid

/-! ## 2. Matrices -/

namespace Matrix

variable {m : Matrix} {row col : Nat} {v : Number}

/-- The value that is stored for a cell, if there is one. -/
def stored (m : Matrix) (i j : Nat) : Except Fault (Option Json) :=
  m.value? (.num (.int i)) (.num (.int j))

theorem stored_eq (m : Matrix) (i j : Nat) : m.stored i j = .ok (m.values.value? i j) := by
  simp only [stored, value?, Json.asIndex, Grid.value?, bind, Except.bind]
  cases fromEitherEnd? m.values i with
  | none => rfl
  | some r => rfl

/-- What setting the value of one cell leaves of a matrix: its size, its place and the values of the
other cells. The value is in its cell exactly where there was one before. -/
structure Writes (m : Matrix) (row col : Nat) (v : Number) (m' : Matrix) : Prop where
  rows : m'.rows = m.rows
  cols : m'.cols = m.cols
  position : m'.position = m.position
  elsewhere : ∀ i j : Nat, ¬ (i = row ∧ j = col) → m'.stored i j = m.stored i j
  lands : m'.stored row col = .ok (some (.num v)) ↔ m.stored row col ≠ .ok none

theorem writes_withValue (m : Matrix) (row col : Nat) (v : Number) :
    m.Writes row col v (m.withValue (.num (.int row)) (.num (.int col)) (.num v)) := by
  have hset : m.withValue (.num (.int row)) (.num (.int col)) (.num v) =
      { m with values := m.values.set row col (.num v) } := by
    simp [withValue]
  rw [hset]
  refine ⟨rfl, rfl, rfl, ?_, ?_⟩
  · intro i j hother
    rw [stored_eq, stored_eq, Grid.value?_set, if_neg hother]
  · rw [stored_eq, stored_eq, Grid.value?_set, if_pos ⟨rfl, rfl⟩]
    cases m.values.value? row col with
    | none => simp
    | some old => simp

/-- A full matrix stores a value for every cell that it has. -/
theorem Full.stored (h : m.Full)
    (hcell : m.contains (.num (.int row)) (.num (.int col)) = .ok true) :
    m.stored row col ≠ .ok none := by
  obtain ⟨n, hn⟩ := h.present row col hcell
  rw [Matrix.stored, hn]
  simp

end Matrix

/-! ## 3. Drawings -/

/-- An integer that is not below nought and below another value. -/
theorem Json.nonneg_of_isBelow {i : Int} {bound : Json}
    (h : isBelow (.num (.int i)) bound = .ok true) : 0 ≤ i := by
  simp only [isBelow, bind_eq_ok, comparesTo_int, atMost_holds_int] at h
  obtain ⟨b, hb, h⟩ := h
  cases b with
  | false => exact absurd (pure_eq_ok.mp h) Bool.false_ne_true
  | true => simpa using hb

/-- A cell that a matrix has is in no row or column below nought. -/
theorem Matrix.nonneg_of_contains {m : Matrix} {i j : Int}
    (h : m.contains (.num (.int i)) (.num (.int j)) = .ok true) : 0 ≤ i ∧ 0 ≤ j := by
  simp only [contains, bind_eq_ok] at h
  obtain ⟨b, hb, h⟩ := h
  cases b with
  | false => exact absurd (pure_eq_ok.mp h) Bool.false_ne_true
  | true => exact ⟨Json.nonneg_of_isBelow hb, Json.nonneg_of_isBelow h⟩

namespace Drawing

variable {d d' : Drawing} {name : Json} {row col : Nat} {v : Number}

/-- What setting the value of a cell leaves of a drawing: its matrices in their order, all but that
of the cell as they were. The matrix must have had the cell. -/
structure Writes (d : Drawing) (name : Json) (row col : Nat) (v : Number) (d' : Drawing) :
    Prop where
  names : d'.matrices.names = d.matrices.names
  others : ∀ n, (name == n) = false → d'.matrices.find? n = d.matrices.find? n
  cell : ∃ m m', d.matrices.find? name = some m ∧
    m.contains (.num (.int row)) (.num (.int col)) = .ok true ∧
    d'.matrices.find? name = some m' ∧ m.Writes row col v m'

theorem writes_put {m : Matrix} (hm : d.matrices.find? name = some m)
    (hcell : m.contains (.num (.int row)) (.num (.int col)) = .ok true)
    (hd : d'.matrices = d.matrices.put name
      (m.withValue (.num (.int row)) (.num (.int col)) (.num v))) :
    d.Writes name row col v d' where
  names := by rw [hd, Roster.names_put, if_pos (has_of_find? hm)]
  others := by
    intro n hn
    rw [hd, Roster.find?_put, hn, if_neg Bool.false_ne_true]
  cell := by
    refine ⟨m, _, hm, hcell, ?_, m.writes_withValue row col v⟩
    rw [hd, Roster.find?_put, BEq.rfl, if_pos rfl]

/-- A value that is set in a full matrix is not lost. -/
theorem Writes.lands_of_full (h : d.Writes name row col v d')
    (hfull : ∀ m, d.matrices.find? name = some m → m.Full) :
    ∃ m', d'.matrices.find? name = some m' ∧ m'.stored row col = .ok (some (.num v)) := by
  obtain ⟨m, m', hm, hcell, hm', hwrites⟩ := h.cell
  exact ⟨m', hm', hwrites.lands.mpr ((hfull m hm).stored hcell)⟩

theorem matrices_tint (d : Drawing) (r : CellRef) (colour : String) :
    (Change.tint d r colour).matrices = d.matrices := by
  unfold Change.tint
  split
  · exact d.matrices_clearTint r
  · rfl

end Drawing

/-! ## 4. The form and the command -/

/-- A form for a cell that is done sets the value that is parsed. The tint that it puts or takes
away is no matter of the matrices. -/
theorem Change.editCell_writes {s : Scene} {f : CellForm} {change : Change}
    (h : editCell s f = .ok change) :
    ∃ (row col : Nat) (text : String) (v : Number),
      f.row.asInt = .ok (row : Int) ∧ f.col.asInt = .ok (col : Int) ∧
      f.value.typed = .ok text ∧ Command.number text.toList = .ok v ∧
      s.toDrawing.Writes f.matrix row col v (change.scene.getD s).toDrawing := by
  obtain ⟨i, j, m, text, v, d, _, hi, hj, hm, htext, hv, hd, _, _, hscene⟩ := editCell_steps h
  obtain ⟨hfind, hcell⟩ := Drawing.requireCell_eq_ok hm
  obtain ⟨hrow, hcol⟩ := Matrix.nonneg_of_contains hcell
  obtain ⟨row, rfl⟩ := Int.eq_ofNat_of_zero_le hrow
  obtain ⟨col, rfl⟩ := Int.eq_ofNat_of_zero_le hcol
  refine ⟨row, col, text, v, hi, hj, htext, hv, Drawing.writes_put hfind hcell ?_⟩
  rw [hscene, Drawing.putMatrix_eq_ok hd]
  exact Drawing.matrices_tint _ _ _

namespace Command

/-- A command that sets the value of a cell. -/
theorem assign_writes {d : Drawing} {p : Place} {cs : List Char} {effect : Effect}
    (h : assign d p.ref cs = .ok effect) :
    ∃ v, number cs = .ok v ∧
      d.Writes (.str p.name) p.row p.col v (effect.drawing.getD d) := by
  simp only [assign, bind_eq_ok, pure_eq_ok] at h
  obtain ⟨m, hm, v, hv, d', hd, rfl⟩ := h
  obtain ⟨hfind, hcell⟩ := Drawing.requireCell_eq_ok hm
  refine ⟨v, hv, Drawing.writes_put hfind hcell ?_⟩
  rw [Option.getD_some, Drawing.putMatrix_eq_ok hd]
  rfl

end Command

/-! ## 5. Sessions -/

namespace Session

variable {K : Type}

/-- What becomes of the drawing of a session where a text of one command is run. -/
theorem drawing_run_one {s : Session K} {source : Json} {text : String} {number : Nat}
    {line : List Char} {effect : Command.Effect} (htext : source.typedLines = .ok text)
    (hone : Command.commandsIn text = [(number, line)])
    (hdone : Command.execute s.scene.toDrawing line = .ok effect) :
    (s.run source).session.scene.toDrawing = effect.drawing.getD s.scene.toDrawing := by
  have hgoes : ¬ (Command.Attempt.mk s.scene.toDrawing number line).Stops := by
    rintro ⟨f, hf, _⟩
    exact nomatch hdone.symm.trans hf
  have hstopped : (Command.runBatch s.scene.toDrawing text).stopped = none := by
    refine Command.stopped_eq_none_iff.mpr ?_
    change ∀ a ∈ Command.attempts s.scene.toDrawing (Command.commandsIn text), ¬ a.Stops
    rw [hone]
    exact List.forall_mem_singleton.mpr hgoes
  have hdrawing : (Command.runBatch s.scene.toDrawing text).drawing =
      Command.reached s.scene.toDrawing (Command.commandsIn text) :=
    (Command.runLines_eq hstopped).1
  have hrun : s.run source = s.runText source.shown text := by
    rw [run, htext]
  rw [hrun, (s.runText_of_not_stopped source.shown hstopped).2.1, Scene.toDrawing_withDrawing,
    hdrawing, hone, Command.reached_cons, Command.Attempt.next, Command.Attempt.outcome, hdone]
  rfl

variable [Coordinate K]

/-- **Where a form for a cell is done, or a command that sets the value of a cell, the value that is
parsed is in the cell exactly if the matrix stored a value for it before, and nothing else has
changed**: no other cell of any matrix, no size, no place and not the order of the matrices. -/
theorem cell_writes (s : Session K) :
    (∀ form answer, (s.step (.act (.editCell form))).answer = .ok answer →
      ∃ (row col : Nat) (text : String) (v : Number),
        form.row.asInt = .ok (row : Int) ∧ form.col.asInt = .ok (col : Int) ∧
        form.value.typed = .ok text ∧ Command.number text.toList = .ok v ∧
        s.scene.Writes form.matrix row col v
          (s.step (.act (.editCell form))).session.scene.toDrawing) ∧
    (∀ source text number line p value effect, source.typedLines = .ok text →
      Command.commandsIn text = [(number, line)] →
      Command.Sentence.SpelledBy (.value p value) line →
      Command.execute s.scene.toDrawing line = .ok effect →
      ∃ v, Command.number value.toList = .ok v ∧
        s.scene.Writes (.str p.name) p.row p.col v
          (s.step (.run source)).session.scene.toDrawing) := by
  constructor
  · intro form answer hanswer
    obtain ⟨change, hedit, hscene⟩ := scene_act hanswer
    rw [hscene]
    exact Change.editCell_writes hedit
  · intro source text number line p value effect htext hone hspelled hdone
    have hassign := (Command.execute_spelled hspelled).symm.trans hdone
    obtain ⟨v, hv, hwrites⟩ := Command.assign_writes hassign
    refine ⟨v, hv, ?_⟩
    rw [← drawing_run_one htext hone hdone] at hwrites
    exact hwrites

/-! ### A value that is lost -/

/-- A document with a matrix that declares two columns and has one. -/
def shortRow : Json :=
  .obj
    [ ("matrices", .arr
        [ .obj
            [ ("name", .str "A"),
              ("rows", .num (.int 1)),
              ("cols", .num (.int 2)),
              ("values", .arr [.arr [.num (.int 1)]]) ] ]) ]

/-- The form that sets the value of the cell without one. -/
def missingCell : CellForm where
  matrix := .str "A"
  row := .num (.int 0)
  col := .num (.int 1)
  value := .str "5"

/-- After the document is imported the form is done, and its value is lost. -/
theorem value_lost :
    ¬ ∀ (ops : List (Op Rat)) (form : CellForm) (answer : Answer Rat),
      let turn := ((opening : Session Rat).after ops).step (.act (.editCell form))
      turn.answer = .ok answer →
        ∃ (row col : Nat) (text : String) (v : Number) (m : Matrix),
          form.row.asInt = .ok (row : Int) ∧ form.col.asInt = .ok (col : Int) ∧
          form.value.typed = .ok text ∧ Command.number text.toList = .ok v ∧
          turn.session.scene.matrices.find? form.matrix = some m ∧
          m.stored row col = .ok (some (.num v)) := by
  intro h
  have hdone : (((opening : Session Rat).after [.importDocument shortRow]).step
      (.act (.editCell missingCell))).answer = .ok (.name .null) := rfl
  obtain ⟨row, col, text, v, m, hrow, hcol, _, _, hm, hstored⟩ :=
    h [.importDocument shortRow] missingCell _ hdone
  have hzero : (row : Int) = 0 := Except.ok.inj hrow.symm
  have hone : (col : Int) = 1 := Except.ok.inj hcol.symm
  obtain rfl : row = 0 := Int.ofNat.inj hzero
  obtain rfl : col = 1 := Int.ofNat.inj hone
  have hlost : ((((opening : Session Rat).after [.importDocument shortRow]).step
      (.act (.editCell missingCell))).session.scene.matrices.find? missingCell.matrix).map
        (fun m => m.stored 0 1) = some (.ok none) := rfl
  rw [hm, Option.map_some, hstored] at hlost
  exact nomatch Except.ok.inj (Option.some.inj hlost)

end Session

end GridSketch
