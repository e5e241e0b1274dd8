import GridSketch.Proofs.Command.Digits
import GridSketch.Proofs.Command.Effects
import GridSketch.Proofs.Command.Fatal
import GridSketch.Proofs.Grid.Fits

/-!
# What stops a batch

`Breaks` lists the commands that stop a batch, by the place at which the fault comes up, and
`fatal_execute` says that there are no others. Some of the causes are in the text of the command,
the others in the drawing that it is tried on. A text is safe if its numerals are short and its
definitions ask for grids that there is room for. A drawing is safe if the declared sizes of its
matrices are integers, and the last row and the last column can be shown (`Drawing.Legible`); no
command makes another out of such a drawing (`legible_execute`), so that what is safe to begin with
never stops.

`not_stopped_iff` puts this together. What a text needs is not met by every text: an integer of one
digit too many, given to a cell that is there, stops the batch it stands in
(`stopped_by_long_integer`).
-/

set_option autoImplicit false

namespace GridSketch

/-! ## 1. Legible drawings -/

/-- The declared size is two integers, and the last row and the last column can be shown. -/
def Matrix.Legible (m : Matrix) : Prop :=
  ∃ rows cols : Int, m.rows = .num (.int rows) ∧ m.cols = .num (.int cols) ∧
    Text.withinDigitLimit (rows - 1) ∧ Text.withinDigitLimit (cols - 1)

namespace Drawing

/-- All matrices are legible. -/
def Legible (d : Drawing) : Prop :=
  ∀ e ∈ d.matrices.entries, e.2.Legible

theorem Legible.not_baffles {d : Drawing} (h : d.Legible) (r : CellRef) : ¬ d.Baffles r := by
  rintro ⟨m, hm, hbad⟩
  obtain ⟨name, hmem, _⟩ := Keyed.mem_of_find? hm
  obtain ⟨rows, cols, hrows, hcols, hrow, hcol⟩ := h _ hmem
  rcases hbad with (hnone | hnone) | ⟨_, last, hlast | hlast, hlong⟩
  · rw [hrows] at hnone
    exact nomatch hnone
  · rw [hcols] at hnone
    exact nomatch hnone
  · rw [hrows] at hlast
    obtain rfl := Except.ok.inj hlast
    exact Bool.noConfusion (hrow.symm.trans hlong)
  · rw [hcols] at hlast
    obtain rfl := Except.ok.inj hlast
    exact Bool.noConfusion (hcol.symm.trans hlong)

theorem Legible.put {d : Drawing} (h : d.Legible) {name : Json} {m : Matrix} (hm : m.Legible) :
    Legible { d with matrices := d.matrices.put name m } := by
  intro e he
  rcases Keyed.mem_put he with he | ⟨hsame, _⟩
  · exact h e he
  · rw [hsame]
    exact hm

end Drawing

/-- A size that can be read from a command is legible. -/
theorem Matrix.legible_sized {rows cols : Nat} (hrows : 0 < rows) (hcols : 0 < cols)
    (hrow : rows < Nat.pow 10 Text.digitLimit) (hcol : cols < Nat.pow 10 Text.digitLimit)
    (values : Grid) (p : Point Float) : (sized rows cols values p).Legible := by
  have hlast : ∀ {n : Nat}, 0 < n → n < Nat.pow 10 Text.digitLimit →
      Text.withinDigitLimit ((n : Int) - 1) = true := by
    intro n hpos hlt
    have habs : ((n : Int) - 1).natAbs ≤ n := by omega
    exact Text.withinDigitLimit_iff.mpr (Nat.lt_of_le_of_lt habs hlt)
  exact ⟨rows, cols, rfl, rfl, hlast hrows hrow, hlast hcols hcol⟩

namespace Command

variable {d : Drawing} {cs line : List Char}

/-! ## 2. Lines -/

/-- The name in a definition is let through. -/
def Names (line : List Char) : Prop :=
  ∃ name, Name.validate (.str (String.ofList (Text.trim (namePart line)))) = .ok name

/-- The commands that fail for a cause that stops a batch. A part of a line is looked at where the
parts before it can be read, and a cell where those before it are there. -/
inductive Breaks (d : Drawing) (line : List Char) : Prop where
  | size (hform : classify line = some .definition) (hname : Names line)
      (hlong : OverlongSize (sizePart line))
  | grid {rows cols : Nat} (hform : classify line = some .definition) (hname : Names line)
      (hsize : size (sizePart line) = .ok (rows, cols))
      (hcorner : ∃ corner, position (positionPart line) = .ok corner)
      (hgrid : Unallocatable rows cols)
  | source (hform : classify line = some .arrow) (hlong : OverlongCell (sourcePart line))
  | target {r : CellRef} (hform : classify line = some .arrow)
      (hsource : cell (sourcePart line) "Source" = .ok r) (hlong : OverlongCell (targetPart line))
  | arrow {r q : CellRef} (hform : classify line = some .arrow)
      (hsource : cell (sourcePart line) "Source" = .ok r)
      (htarget : cell (targetPart line) "Target" = .ok q)
      (hcell : d.Baffles r ∨ d.HasCell r ∧ d.Baffles q)
  | tinted (hform : classify line = some .cellColour)
      (hlong : OverlongCell (cellPart Form.colon line))
  | tint {r : CellRef} (hform : classify line = some .cellColour)
      (hread : cell (cellPart Form.colon line) "Cell" = .ok r) (hcell : d.Baffles r)
  | assigned (hform : classify line = some .cellValue)
      (hlong : OverlongCell (cellPart Form.equals line))
  | assign {r : CellRef} (hform : classify line = some .cellValue)
      (hread : cell (cellPart Form.equals line) "Cell" = .ok r)
      (hcell : d.Baffles r ∨ d.HasCell r ∧ OverlongNumber (valuePart line))

theorem size_lt {rows cols : Nat} (h : size cs = .ok (rows, cols)) :
    rows < Nat.pow 10 Text.digitLimit ∧ cols < Nat.pow 10 Text.digitLimit := by
  unfold size at h
  split at h
  · exact nomatch h
  · simp only [bind_eq_ok, pure_eq_ok, Prod.mk.injEq] at h
    obtain ⟨_, hrows, _, hcols, rfl, rfl⟩ := h
    exact ⟨natural_lt hrows, natural_lt hcols⟩

theorem fatal_create_of_size {name : String} {rows cols : Nat} {corner : Point Float}
    (h : size cs = .ok (rows, cols)) :
    Fatal (create d name rows cols corner) ↔ Unallocatable rows cols := by
  obtain ⟨hrow, hcol⟩ := size_lt h
  exact fatal_create (Text.withinDigitLimit_iff.mpr hrow) (Text.withinDigitLimit_iff.mpr hcol)

theorem fatal_define :
    Fatal (define d line) ↔ Names line ∧ (OverlongSize (sizePart line) ∨
      ∃ rows cols, size (sizePart line) = .ok (rows, cols) ∧
        (∃ corner, position (positionPart line) = .ok corner) ∧ Unallocatable rows cols) := by
  unfold define Names namePart sizePart positionPart
  dsimp only
  rw [fatal_bind, or_iff_right (not_fatal_validate _)]
  constructor
  · rintro ⟨name, hname, h⟩
    refine ⟨⟨name, hname⟩, ?_⟩
    rw [fatal_bind, fatal_size] at h
    rcases h with hlong | ⟨⟨rows, cols⟩, hsize, h⟩
    · exact Or.inl hlong
    · rw [fatal_bind, or_iff_right not_fatal_position] at h
      obtain ⟨corner, hcorner, h⟩ := h
      exact Or.inr ⟨rows, cols, hsize, ⟨corner, hcorner⟩, (fatal_create_of_size hsize).mp h⟩
  · rintro ⟨⟨name, hname⟩, h⟩
    refine ⟨name, hname, ?_⟩
    rw [fatal_bind, fatal_size]
    rcases h with hlong | ⟨rows, cols, hsize, ⟨corner, hcorner⟩, hgrid⟩
    · exact Or.inl hlong
    · refine Or.inr ⟨(rows, cols), hsize, ?_⟩
      rw [fatal_bind]
      exact Or.inr ⟨corner, hcorner, (fatal_create_of_size hsize).mpr hgrid⟩

theorem fatal_addArrow :
    Fatal (addArrow d line) ↔ OverlongCell (sourcePart line) ∨
      ∃ r, cell (sourcePart line) "Source" = .ok r ∧ (OverlongCell (targetPart line) ∨
        ∃ q, cell (targetPart line) "Target" = .ok q ∧ (d.Baffles r ∨ d.HasCell r ∧ d.Baffles q)) := by
  unfold addArrow sourcePart targetPart
  dsimp only
  rw [fatal_bind, fatal_cell]
  refine or_congr_right (exists_congr fun r => and_congr_right fun hsource => ?_)
  rw [fatal_bind, fatal_cell]
  refine or_congr_right (exists_congr fun q => and_congr_right fun htarget => ?_)
  exact fatal_join (typed_of_cell hsource) (typed_of_cell htarget)

theorem fatal_colourCell :
    Fatal (colourCell d line) ↔ OverlongCell (cellPart Form.colon line) ∨
      ∃ r, cell (cellPart Form.colon line) "Cell" = .ok r ∧ d.Baffles r := by
  unfold colourCell cellPart
  dsimp only
  rw [fatal_bind, fatal_cell]
  refine or_congr_right (exists_congr fun r => and_congr_right fun hread => ?_)
  exact fatal_tint (typed_of_cell hread)

theorem fatal_setValue :
    Fatal (setValue d line) ↔ OverlongCell (cellPart Form.equals line) ∨
      ∃ r, cell (cellPart Form.equals line) "Cell" = .ok r ∧
        (d.Baffles r ∨ d.HasCell r ∧ OverlongNumber (valuePart line)) := by
  unfold setValue cellPart valuePart
  dsimp only
  rw [fatal_bind, fatal_cell]
  refine or_congr_right (exists_congr fun r => and_congr_right fun hread => ?_)
  exact fatal_assign (typed_of_cell hread)

/-- **A command stops a batch if it breaks it**, and for no other cause. -/
theorem fatal_execute : Fatal (execute d line) ↔ Breaks d line := by
  unfold execute
  constructor
  · intro h
    split at h
    · exact nomatch fatal_error.mp h
    · rename_i hform
      obtain ⟨hname, hlong | ⟨rows, cols, hsize, hcorner, hgrid⟩⟩ := fatal_define.mp h
      · exact .size hform hname hlong
      · exact .grid hform hname hsize hcorner hgrid
    · rename_i hform
      rcases fatal_addArrow.mp h with hlong | ⟨r, hsource, hlong | ⟨q, htarget, hcell⟩⟩
      · exact .source hform hlong
      · exact .target hform hsource hlong
      · exact .arrow hform hsource htarget hcell
    · rename_i hform
      rcases fatal_colourCell.mp h with hlong | ⟨r, hread, hcell⟩
      · exact .tinted hform hlong
      · exact .tint hform hread hcell
    · rename_i hform
      rcases fatal_setValue.mp h with hlong | ⟨r, hread, hcell⟩
      · exact .assigned hform hlong
      · exact .assign hform hread hcell
  · intro h
    cases h with
    | size hform hname hlong =>
      rw [hform]
      exact fatal_define.mpr ⟨hname, Or.inl hlong⟩
    | grid hform hname hsize hcorner hgrid =>
      rw [hform]
      exact fatal_define.mpr ⟨hname, Or.inr ⟨_, _, hsize, hcorner, hgrid⟩⟩
    | source hform hlong =>
      rw [hform]
      exact fatal_addArrow.mpr (Or.inl hlong)
    | target hform hsource hlong =>
      rw [hform]
      exact fatal_addArrow.mpr (Or.inr ⟨_, hsource, Or.inl hlong⟩)
    | arrow hform hsource htarget hcell =>
      rw [hform]
      exact fatal_addArrow.mpr (Or.inr ⟨_, hsource, Or.inr ⟨_, htarget, hcell⟩⟩)
    | tinted hform hlong =>
      rw [hform]
      exact fatal_colourCell.mpr (Or.inl hlong)
    | tint hform hread hcell =>
      rw [hform]
      exact fatal_colourCell.mpr (Or.inr ⟨_, hread, hcell⟩)
    | assigned hform hlong =>
      rw [hform]
      exact fatal_setValue.mpr (Or.inl hlong)
    | assign hform hread hcell =>
      rw [hform]
      exact fatal_setValue.mpr (Or.inr ⟨_, hread, hcell⟩)

/-! ## 3. Batches that are never stopped -/

theorem not_overlongCell (h : Text.ShortRuns cs) : ¬ OverlongCell cs := by
  rintro ⟨c, hc, hlong⟩
  obtain ⟨cs', hs, hread⟩ := Text.findFirst_suffix hc
  obtain ⟨hrow, hcol⟩ := readCell_run hread
  rcases hlong with hlong | hlong
  · exact absurd hlong (Nat.not_lt.mpr (h _ (hrow.of_suffix hs)))
  · exact absurd hlong (Nat.not_lt.mpr (h _ (hcol.of_suffix hs)))

theorem not_overlongSize (h : Text.ShortRuns cs) : ¬ OverlongSize cs := by
  rintro ⟨s, hs, hlong⟩
  obtain ⟨cs', hs', hread⟩ := Text.findFirst_suffix hs
  obtain ⟨hrow, hcol⟩ := readSize_run hread
  rcases hlong with hlong | hlong
  · exact absurd hlong (Nat.not_lt.mpr (h _ (hrow.of_suffix hs')))
  · exact absurd hlong (Nat.not_lt.mpr (h _ (hcol.of_suffix hs')))

theorem not_overlongNumber (h : Text.ShortRuns cs) : ¬ OverlongNumber cs := by
  rintro ⟨l, hl, _, hlong⟩
  have hrun := (literal?_run hl).of_part (Text.trim_part cs)
  exact absurd hlong (Nat.not_lt.mpr (h _ hrun))

/-- If a line is a definition, there is room for the grid that it asks for. -/
def AsksForGrid (line : List Char) : Prop :=
  classify line = some .definition →
    ∀ rows cols, size (sizePart line) = .ok (rows, cols) → ¬ Unallocatable rows cols

/-- A command with short numerals that asks for nothing too large does not break a batch. -/
theorem not_breaks (hd : d.Legible) (hline : Text.ShortRuns line) (hgrid : AsksForGrid line) :
    ¬ Breaks d line := by
  have hparts : ∀ mark, Text.ShortRuns (Text.cut mark line).1 ∧
      Text.ShortRuns (Text.cut mark line).2 := fun mark =>
    ⟨hline.of_part (Text.cut_parts mark line).1, hline.of_part (Text.cut_parts mark line).2⟩
  intro h
  cases h with
  | size _ _ hlong =>
    have hshort := (hparts Form.defines).2.of_part (Text.cut_parts Form.atSign _).1
    exact not_overlongSize hshort hlong
  | grid hform _ hsize _ hbad => exact hgrid hform _ _ hsize hbad
  | source _ hlong => exact not_overlongCell (hparts Form.pointsTo).1 hlong
  | target _ _ hlong =>
    have hshort := (hparts Form.pointsTo).2.of_part (Text.cut_parts Form.colon _).1
    exact not_overlongCell hshort hlong
  | arrow _ _ _ hcell =>
    rcases hcell with hcell | ⟨_, hcell⟩
    · exact hd.not_baffles _ hcell
    · exact hd.not_baffles _ hcell
  | tinted _ hlong => exact not_overlongCell (hparts Form.colon).1 hlong
  | tint _ _ hcell => exact hd.not_baffles _ hcell
  | assigned _ hlong => exact not_overlongCell (hparts Form.equals).1 hlong
  | assign _ _ hcell =>
    rcases hcell with hcell | ⟨_, hlong⟩
    · exact hd.not_baffles _ hcell
    · exact not_overlongNumber (hparts Form.equals).2 hlong

/-- **No command makes a legible drawing illegible.** A matrix that it defines has a size that was
read, and the others keep theirs. -/
theorem legible_execute {effect : Effect} (hd : d.Legible) (h : execute d line = .ok effect) :
    (effect.drawing.getD d).Legible := by
  have hdone := done_of_execute h
  generalize effect.drawing = found at hdone
  cases hdone with
  | define p _ hsize hvalues =>
    -- a definition puts a matrix of the size that it has read
    obtain ⟨hrows, hcols, _⟩ := Grid.of_make_sequential hvalues
    obtain ⟨hrow, hcol⟩ := size_lt hsize
    exact hd.put (Matrix.legible_sized hrows hcols hrow hcol _ p)
  | arrow => exact hd
  | untint r =>
    cases hc : d.clearTint r with
    | none => exact hd
    | some d' =>
      obtain ⟨i, rfl⟩ := Drawing.clearTint_eq_some hc
      exact hd
  | tint => exact hd
  | @value r m v hm =>
    -- a value is put in a matrix that was there, and that keeps its size
    obtain ⟨name, hmem, _⟩ := Keyed.mem_of_find? hm
    have hsame : (m.withValue r.row r.col (.num v)).Legible := by
      unfold Matrix.withValue
      split
      · exact hd _ hmem
      · exact hd _ hmem
    exact hd.put hsame

theorem Attempt.next_legible {a : Attempt} (h : a.drawing.Legible) : a.next.Legible := by
  unfold Attempt.next
  cases ho : a.outcome with
  | ok effect => exact legible_execute h ho
  | error fault => exact h

/-- All attempts are made at the commands, and on legible drawings if the first one is. -/
theorem attempts_legible {d : Drawing} {commands : List (Nat × List Char)} (hd : d.Legible) :
    ∀ a ∈ attempts d commands, a.drawing.Legible ∧ (a.number, a.line) ∈ commands := by
  induction commands generalizing d with
  | nil =>
    intro a ha
    exact nomatch ha
  | cons c rest ih =>
    intro a ha
    rcases List.mem_cons.mp ha with rfl | ha
    · exact ⟨hd, List.mem_cons_self⟩
    · obtain ⟨hlegible, hmem⟩ := ih (Attempt.next_legible hd) a ha
      exact ⟨hlegible, List.mem_cons_of_mem _ hmem⟩

theorem part_of_mem_commandsIn {text : String} {c : Nat × List Char} (h : c ∈ commandsIn text) :
    c.2 <:+: text.toList := by
  obtain ⟨l, hl, rfl⟩ := List.mem_map.mp (List.mem_filter.mp h).1
  have hmem : l.1 ∈ Text.lines text.toList := List.fst_mem_of_mem_zipIdx hl
  exact (Text.trim_part l.1).trans (Text.lines_part.2 l.1 hmem)

/-! ### The first drawing -/

theorem legible_initial : Scene.initial.Legible := by
  have hthree : 3 < Nat.pow 10 Text.digitLimit :=
    Nat.lt_of_lt_of_le (by decide : 3 < Nat.pow 10 1) (Text.pow_le (by decide))
  have hsized : ∀ p, (Matrix.sized 3 3 (Grid.ofInts (Grid.filled .sequential 3 3)) p).Legible :=
    fun p => Matrix.legible_sized (by decide) (by decide) hthree hthree _ p
  intro e he
  rcases Keyed.mem_put he with he | ⟨hb, _⟩
  · rcases Keyed.mem_put he with he | ⟨ha, _⟩
    · exact nomatch he
    · rw [ha]
      exact hsized _
  · rw [hb]
    exact hsized _

theorem asksForGrid_of_not_mem (h : '@' ∉ line) : AsksForGrid line := by
  intro hform
  have hmarks := List.find?_some hform
  simp [Form.matchedBy, Form.atSign, Text.contains_singleton, h] at hmarks

/-- **When a batch goes on to its end.** It does if none of its commands breaks it, and only then.
That is so for every text with short numerals whose definitions ask for no more than there is room
for, as long as the declared sizes of the matrices can be shown. Then every command has its result,
also those that fail, and those behind them are run. -/
theorem not_stopped_iff (d : Drawing) (text : String) :
    ((runBatch d text).stopped = none ↔
      ∀ a ∈ attempts d (commandsIn text), ¬ Breaks a.drawing a.line) ∧
    (d.Legible → Text.ShortRuns text.toList → (∀ c ∈ commandsIn text, AsksForGrid c.2) →
      (runBatch d text).stopped = none) ∧
    ((runBatch d text).stopped = none →
      (runBatch d text).results = (attempts d (commandsIn text)).map Attempt.result) := by
  have hiff : (runBatch d text).stopped = none ↔
      ∀ a ∈ attempts d (commandsIn text), ¬ Breaks a.drawing a.line := by
    refine stopped_eq_none_iff.trans (forall_congr' fun a => imp_congr_right fun _ => ?_)
    exact not_congr fatal_execute
  refine ⟨hiff, ?_, fun h => (runLines_eq h).2⟩
  intro hd hshort hgrids
  rw [hiff]
  intro a ha
  obtain ⟨hlegible, hmem⟩ := attempts_legible hd a ha
  exact not_breaks hlegible (hshort.of_part (part_of_mem_commandsIn hmem)) (hgrids _ hmem)

/-- A definition that is done, and a value that is no number. -/
def shortBatch : String :=
  "C := [2, 2] @ (0, 5)\nA[1][1] = x"

theorem commandsIn_shortBatch :
    commandsIn shortBatch = [(1, "C := [2, 2] @ (0, 5)".toList), (2, "A[1][1] = x".toList)] := by
  decide

theorem not_stopped_shortBatch :
    Scene.initial.Legible ∧ Text.ShortRuns shortBatch.toList ∧
      (∀ c ∈ commandsIn shortBatch, AsksForGrid c.2) ∧
      (runBatch Scene.initial shortBatch).stopped = none := by
  have hshort : Text.ShortRuns shortBatch.toList := Text.shortRuns_of_length_le (by decide)
  have hgrids : ∀ c ∈ commandsIn shortBatch, AsksForGrid c.2 := by
    rw [commandsIn_shortBatch]
    intro c hc
    rcases List.mem_cons.mp hc with rfl | hc
    · have hread : size (sizePart "C := [2, 2] @ (0, 5)".toList) = .ok (2, 2) := by rfl
      intro _ rows cols hsize
      obtain ⟨rfl, rfl⟩ := Prod.mk.inj (Except.ok.inj (hread.symm.trans hsize))
      rintro ⟨hrows, hcols, hnone⟩
      exact hnone _ (Grid.layOut_eq_whole hrows hcols (by decide))
    · obtain rfl := List.mem_singleton.mp hc
      exact asksForGrid_of_not_mem (by decide)
  exact ⟨legible_initial, hshort, hgrids,
    (not_stopped_iff Scene.initial shortBatch).2.1 legible_initial hshort hgrids⟩

/-! ### An integer that is too long -/

/-- One digit more than a numeral may have. -/
def tooManyOnes : List Char :=
  List.replicate (Text.digitLimit + 1) '1'

/-- The command that gives a cell of the first drawing the integer of these digits. -/
def longInteger : String :=
  "A[1][1]=" ++ String.ofList tooManyOnes

theorem mem_tooManyOnes {c : Char} (h : c ∈ tooManyOnes) : c = '1' :=
  List.eq_of_mem_replicate h

theorem literal?_tooManyOnes :
    literal? (Text.trim tooManyOnes) = some ⟨false, tooManyOnes, none⟩ := by
  have htrim : Text.trim tooManyOnes = tooManyOnes := by
    apply Text.trim_of_not_blank
    intro c hc
    rw [mem_tooManyOnes hc]
    decide
  have hspells : Literal.Spells ⟨false, tooManyOnes, none⟩ tooManyOnes := by
    have hnone : ∀ c ∈ ([] : List Char), Text.isDigit c = true := List.forall_mem_nil _
    refine ⟨?_, hnone, Or.inl (List.cons_ne_nil _ _), [], Or.inr ⟨rfl, List.mem_cons_self⟩, ?_⟩
    · intro c hc
      rw [mem_tooManyOnes hc]
      decide
    · rw [List.nil_append, Literal.pointed, List.append_nil]
  have hclosing : Text.isDigit ')' = false := by decide
  have hread : readLiteral (tooManyOnes ++ []) = some (⟨false, tooManyOnes, none⟩, []) :=
    (hspells.reads hclosing (by decide)).read [] (by simp)
  rw [List.append_nil] at hread
  rw [htrim, literal?, hread]

theorem toList_longInteger :
    longInteger.toList = "A[1][1]=".toList ++ (String.ofList tooManyOnes).toList :=
  String.toList_append

/-- What the command says. -/
theorem spelled_longInteger :
    Sentence.SpelledBy (.value middle (String.ofList tooManyOnes)) longInteger.toList := by
  have hhead : "A[1][1]=".toList = (cellTokens ['A'] ['1'] ['1'] ++ [['=']]).flatten := by decide
  have hcolon : ':' ∉ (String.ofList tooManyOnes).toList := by
    rw [String.toList_ofList]
    intro hmem
    exact absurd (mem_tooManyOnes hmem) (by decide)
  have hto : Text.contains ['-', '>'] (String.ofList tooManyOnes).toList = false := by
    rw [String.toList_ofList]
    apply Text.contains_of_not_mem
    intro hmem
    exact absurd (mem_tooManyOnes hmem) (by decide)
  rw [toList_longInteger, hhead]
  exact .value middle_spelled (Spaced.flatten _) hcolon hto

theorem commandsIn_longInteger : commandsIn longInteger = [(1, longInteger.toList)] := by
  have hhead : "A[1][1]=".toList.any Text.isBlank = false := by decide
  have hplain : ∀ c ∈ longInteger.toList, Text.isBlank c = false := by
    rw [toList_longInteger]
    intro c hc
    rcases List.mem_append.mp hc with hc | hc
    · exact Bool.eq_false_iff.mpr (List.any_eq_false.mp hhead c hc)
    · rw [String.toList_ofList] at hc
      rw [mem_tooManyOnes hc]
      decide
  have hfeed : '\n' ∉ longInteger.toList := fun hmem => absurd (hplain _ hmem) (by decide)
  have hcommand : isSkipped longInteger.toList = false := by
    rw [toList_longInteger]
    rfl
  rw [commandsIn, Text.lines_of_not_mem hfeed, commandLines_cons, Text.trim_of_not_blank hplain,
    hcommand, if_neg Bool.false_ne_true, commandLines_nil]

theorem fatal_longInteger : Fatal (execute Scene.initial longInteger.toList) := by
  have hlong : OverlongNumber (String.ofList tooManyOnes).toList := by
    rw [String.toList_ofList]
    refine ⟨_, literal?_tooManyOnes, rfl, ?_⟩
    rw [Overlong, tooManyOnes, List.length_replicate]
    exact Nat.lt_succ_self _
  rw [execute_spelled spelled_longInteger]
  exact (fatal_assign ⟨middle, rfl⟩).mpr (Or.inr ⟨hasCell_middle, hlong⟩)

theorem stopped_of_fatal {text : String} {line : List Char}
    (hcommands : commandsIn text = [(1, line)]) (h : Fatal (execute d line)) :
    (runBatch d text).stopped ≠ none := by
  intro hgoes
  have hall := stopped_eq_none_iff.mp hgoes
  have hattempts : attempts d (commandLines 1 (Text.lines text.toList)) = [⟨d, 1, line⟩] :=
    congrArg (attempts d) hcommands
  rw [hattempts] at hall
  exact hall _ List.mem_cons_self h

/-- A batch is stopped although its text defines nothing, on a drawing that is legible: the integer
that it gives to a cell is too long. -/
theorem stopped_by_long_integer :
    Scene.initial.Legible ∧ (∀ c ∈ commandsIn longInteger, AsksForGrid c.2) ∧
      (runBatch Scene.initial longInteger).stopped ≠ none := by
  refine ⟨legible_initial, ?_, stopped_of_fatal commandsIn_longInteger fatal_longInteger⟩
  rw [commandsIn_longInteger]
  intro c hc
  obtain rfl := List.mem_singleton.mp hc
  apply asksForGrid_of_not_mem
  dsimp only
  rw [toList_longInteger]
  intro hmem
  rcases List.mem_append.mp hmem with hmem | hmem
  · exact absurd hmem (by decide)
  · rw [String.toList_ofList] at hmem
    exact absurd (mem_tooManyOnes hmem) (by decide)

end Command

end GridSketch
