import GridSketch.Proofs.Session.Edit
import Mathlib.Data.List.Pairwise

/-!
# One tint on a cell

Whoever asks for the colour of a cell finds its first tint, and whoever takes a tint away takes the
first. That is right as long as a cell has one tint at most (`Drawing.OneTintPerCell`). Every edit
keeps it so (`Edit.oneTintPerCell`): a tint that is put takes the others of its cell away, whether
it is put last or in the place of another, and everything else leaves tints out or leaves them
alone. Documents keep it too, since their tints are put one after the other.

Giving a matrix a name that was taken does not. The tints of the renamed matrix come to lie on those
of the one it replaces, and where a cell of either had a tint there are two then
(`oneTintPerCell_rename_iff`). So the invariant of a session is that as long as no such renaming is
done; `oneTintPerCell_iff` says so for all runs, and `two_tints_after_rename` is the shortest one
that breaks it.
-/

set_option autoImplicit false

namespace GridSketch

namespace Drawing

/-! ## 1. Edits -/

/-- No two tints are on one cell. -/
def OneTintPerCell (d : Drawing) : Prop :=
  d.tints.Pairwise fun t u => (t.cell == u.cell) = false

variable {d d' : Drawing}

theorem OneTintPerCell.sublist {ts : List Tint} (h : d.OneTintPerCell)
    (hts : ts.Sublist d.tints) : OneTintPerCell { d with tints := ts } :=
  List.Pairwise.sublist hts h

theorem cell_ne_of_mem_tintsElsewhere {r : CellRef} {ts : List Tint} {t : Tint}
    (h : t ∈ tintsElsewhere r ts) : (t.cell == r) = false := by
  simpa using (List.mem_filter.mp h).2

/-- A tint may be put among any tints from which those of its cell are gone. -/
theorem pairwise_tintsElsewhere {t : Tint} {xs ys : List Tint}
    (h : (xs ++ ys).Pairwise fun t u => (t.cell == u.cell) = false) :
    (tintsElsewhere t.cell xs ++ t :: tintsElsewhere t.cell ys).Pairwise
      fun t u => (t.cell == u.cell) = false := by
  have hsymm : ∀ {x y : Tint}, (x.cell == y.cell) = false → (y.cell == x.cell) = false :=
    fun hxy => BEq.comm.trans hxy
  rw [List.pairwise_middle hsymm, List.pairwise_cons]
  constructor
  · intro u hu
    rw [BEq.comm]
    rcases List.mem_append.mp hu with hu | hu <;> exact cell_ne_of_mem_tintsElsewhere hu
  · exact h.sublist (List.filter_sublist.append List.filter_sublist)

theorem OneTintPerCell.putTint (h : d.OneTintPerCell) (t : Tint) :
    (d.putTint t).OneTintPerCell := by
  have hnil : (d.tints ++ []).Pairwise fun t u : Tint => (t.cell == u.cell) = false := by
    rwa [List.append_nil]
  exact pairwise_tintsElsewhere hnil

theorem Edit.oneTintPerCell (he : Edit d d') (h : d.OneTintPerCell) : d'.OneTintPerCell := by
  cases he with
  | putTint _ => exact h.putTint _
  | setTint i _ =>
    have hrest : (d.tints.take i ++ d.tints.drop (i + 1)).Sublist d.tints := by
      rw [← List.eraseIdx_eq_take_drop_succ]
      exact List.eraseIdx_sublist _ _
    exact pairwise_tintsElsewhere (List.Pairwise.sublist hrest h)
  | delete _ => exact List.Pairwise.sublist List.filter_sublist h
  | dropTints hts => exact h.sublist hts
  | define | move | copy | setValue | addArrow | setArrow | eraseArrow => exact h

/-! ## 2. Renaming -/

/-- A tint of one matrix and a tint of another are on cells in the same row and column, so that they
would be on one cell if the matrices had one name. -/
def Merges (d : Drawing) (old new : Json) : Prop :=
  ∃ t ∈ d.tints, ∃ u ∈ d.tints, t.cell.matrix.equals old ∧ (u.cell.matrix == new) ∧
    (t.cell.row == u.cell.row) ∧ (t.cell.col == u.cell.col)

theorem renamed_of_equals {old new : Json} {r : CellRef} (h : r.matrix.equals old) :
    r.renamed old new = { r with matrix := new } :=
  if_pos h

theorem renamed_of_not_equals {old new : Json} {r : CellRef} (h : ¬ r.matrix.equals old) :
    r.renamed old new = r :=
  if_neg h

/-- Cells that a renaming brings together were one before, or one of them had the old name and the
other the new. -/
theorem beq_of_renamed_beq {old new : Json} {r q : CellRef}
    (h : r.renamed old new == q.renamed old new) :
    (r == q) ∨
      (r.row == q.row) ∧ (r.col == q.col) ∧
        ((r.matrix.equals old ∧ q.matrix == new) ∨ (q.matrix.equals old ∧ r.matrix == new)) := by
  by_cases hr : r.matrix.equals old
  · by_cases hq : q.matrix.equals old
    · rw [renamed_of_equals hr, renamed_of_equals hq] at h
      obtain ⟨_, hrow, hcol⟩ := CellRef.beq_iff.mp h
      have hname : r.matrix == q.matrix :=
        BEq.trans (Json.beq_of_equals hr) (BEq.symm (Json.beq_of_equals hq))
      exact Or.inl (CellRef.beq_iff.mpr ⟨hname, hrow, hcol⟩)
    · rw [renamed_of_equals hr, renamed_of_not_equals hq] at h
      obtain ⟨hname, hrow, hcol⟩ := CellRef.beq_iff.mp h
      exact Or.inr ⟨hrow, hcol, Or.inl ⟨hr, BEq.symm hname⟩⟩
  · by_cases hq : q.matrix.equals old
    · rw [renamed_of_not_equals hr, renamed_of_equals hq] at h
      obtain ⟨hname, hrow, hcol⟩ := CellRef.beq_iff.mp h
      exact Or.inr ⟨hrow, hcol, Or.inr ⟨hq, hname⟩⟩
    · rw [renamed_of_not_equals hr, renamed_of_not_equals hq] at h
      exact Or.inl h

/-- **Renaming keeps one tint on a cell exactly where it does not merge two.** -/
theorem oneTintPerCell_rename_iff {old new : Json} (h : d.rename old new = .ok (some d'))
    (hd : d.OneTintPerCell) : d'.OneTintPerCell ↔ ¬ d.Merges old new := by
  obtain ⟨m, _, hne, rfl⟩ := rename_eq_some h
  simp only [OneTintPerCell, List.pairwise_map, Tint.renamed]
  constructor
  · -- two tints that are merged would be on one cell after the renaming
    rintro hp ⟨t, ht, u, hu, htm, hum, hrow, hcol⟩
    -- a name that is the same as the new one is not equal to the old one, so `t` and `u` are two
    have hum' : ¬ u.cell.matrix.equals old := by
      intro he
      rw [Json.equals_congr_left hum, Json.equals_comm, hne] at he
      exact nomatch he
    have htu : t ≠ u := fun e => hum' (e ▸ htm)
    have hsymm : Std.Symm fun t u : Tint =>
        (t.cell.renamed old new == u.cell.renamed old new) = false :=
      ⟨fun _ _ hs => BEq.comm.trans hs⟩
    have hcells := hp.forall ht hu htu
    have hsame : t.cell.renamed old new == u.cell.renamed old new := by
      rw [renamed_of_equals htm, renamed_of_not_equals hum']
      exact CellRef.beq_iff.mpr ⟨BEq.symm hum, hrow, hcol⟩
    rw [hsame] at hcells
    exact nomatch hcells
  · intro hm
    refine List.Pairwise.imp_of_mem ?_ hd
    intro t u ht hu htu
    rw [Bool.eq_false_iff]
    intro hsame
    rcases beq_of_renamed_beq hsame with hone | ⟨hrow, hcol, ⟨htm, hum⟩ | ⟨hum, htm⟩⟩
    · rw [hone] at htu
      exact nomatch htu
    · exact hm ⟨t, ht, u, hu, htm, hum, hrow, hcol⟩
    · exact hm ⟨u, hu, t, ht, hum, htm, BEq.symm hrow, BEq.symm hcol⟩

end Drawing

/-! ## 3. Documents -/

theorem Document.oneTintPerCell_readTints {records : List Json} {d d' : Drawing}
    (h : readTints d records = .ok d') (hd : d.OneTintPerCell) : d'.OneTintPerCell := by
  induction records generalizing d with
  | nil => exact Except.ok.inj h ▸ hd
  | cons record rest ih =>
    simp only [readTints, bind_eq_ok] at h
    obtain ⟨t, _, h⟩ := h
    exact ih h (hd.putTint t)

theorem Document.oneTintPerCell_read {data : Json} {d : Drawing} (h : read data = .ok d) :
    d.OneTintPerCell := by
  simp only [read] at h
  split at h
  · simp only [pure_bind, bind_eq_ok] at h
    obtain ⟨_, _, _, _, _, _, _, _, h⟩ := h
    exact oneTintPerCell_readTints h List.Pairwise.nil
  · exact nomatch h

/-! ## 4. Sessions -/

namespace Session

variable {K : Type}

/-- The operation gives a matrix a name that brings two tints onto one cell. -/
def Merges (s : Session K) (op : Op K) : Prop :=
  ∃ old field change name, op = .act (.rename old field) ∧
    Change.rename s.scene old field = .ok change ∧ change.scene.isSome ∧
    Name.clean field = .ok name ∧ s.scene.toDrawing.Merges old (.str name)

variable [Coordinate K]

theorem oneTintPerCell_step {s : Session K} {op : Op K} (hs : s.Keeps Drawing.OneTintPerCell)
    (hop : ¬ s.Merges op) : (s.step op).session.Keeps Drawing.OneTintPerCell := by
  refine keeps_step hs (brings_of_edits ?_ ?_ ?_ ?_ ?_ ?_)
  · exact fun h => h.keeps Drawing.Edit.oneTintPerCell hs.1
  · intro old field change new rfl h hnew
    obtain ⟨name, hname, hrename⟩ := Change.rename_eq_some h hnew
    refine (Drawing.oneTintPerCell_rename_iff hrename hs.1).mpr fun hm => hop ?_
    exact ⟨old, field, change, name, rfl, h, by rw [hnew]; rfl, hname, hm⟩
  · intro form noise change new _ _ h hnew
    obtain ⟨_, _, _, _, _, _, _, _, _, hscene⟩ := Change.define_eq_ok h
    obtain rfl := Option.some.inj (hscene.symm.trans hnew)
    exact hs.1
  · exact List.pairwise_singleton _ _
  · exact List.Pairwise.nil
  · exact fun _ h => Document.oneTintPerCell_read h

theorem two_tints_of_merges {s : Session K} {op : Op K} (hs : s.Keeps Drawing.OneTintPerCell)
    (hop : s.Merges op) : ¬ (s.step op).session.scene.OneTintPerCell := by
  obtain ⟨old, field, change, name, rfl, h, hsome, hname, hm⟩ := hop
  obtain ⟨new, hnew⟩ := Option.isSome_iff_exists.mp hsome
  obtain ⟨name', hname', hrename⟩ := Change.rename_eq_some h hnew
  obtain rfl := Except.ok.inj (hname.symm.trans hname')
  have hev : (s.event (.act (.rename old field)) : Event) = .commit new.toDrawing change.label := by
    simp [event, actEvent, Action.apply, h, hnew]
  have hdrawing := congrArg Prod.fst (step_event s (.act (.rename old field)))
  rw [hev] at hdrawing
  rw [show (s.step _).session.scene.toDrawing = new.toDrawing from hdrawing]
  exact fun hone => (Drawing.oneTintPerCell_rename_iff hrename hs.1).mp hone hm

/-- **In all states of a run a cell has one tint at most, exactly as long as no matrix is given a
name that merges two tints.** -/
theorem oneTintPerCell_iff (ops : List (Op K)) :
    (∀ s ∈ (opening : Session K).states ops, s.scene.OneTintPerCell) ↔
      ∀ e ∈ (opening : Session K).turns ops, ¬ e.1.Merges e.2 := by
  -- the invariant is about the history too, since undoing brings its drawings back
  refine states_iff (I := fun s => s.Keeps Drawing.OneTintPerCell) (Q := fun _ => True)
    ?_ ?_ ?_ ?_ ?_
  · intro s hs
    exact hs.1
  · intro s op _ hs hop
    exact oneTintPerCell_step hs hop
  · intro s op hs hop
    exact two_tints_of_merges hs hop
  · exact keeps_start (List.pairwise_singleton _ _)
  · intro _ _
    trivial

/-! ### The shortest run that merges two tints -/

/-- The form that tints, in the second matrix of the first drawing, the cell that has a tint in the
first matrix. -/
def facingCell : RangeForm :=
  let place : Json := .arr [.num (.int 1), .num (.int 1)]
  { matrix := .str "B", start := place, stop := place, colour := .str "red" }

/-- Tints that cell, and gives the first matrix the name of the second. -/
def mergingRun : List (Op K) :=
  [.act (.tintRange facingCell), .act (.rename (.str "A") (.str "B"))]

/-- The first drawing with the two cells tinted. -/
def twiceTinted : Drawing :=
  Scene.initial.putTint ⟨.ofText "B" 1 1, .str "red"⟩

theorem tints_twiceTinted : twiceTinted.tints =
    [⟨.ofText "A" 1 1, .str "lightblue"⟩, ⟨.ofText "B" 1 1, .str "red"⟩] := by
  have hne : (CellRef.ofText "A" 1 1 == CellRef.ofText "B" 1 1) = false := by
    rw [Bool.eq_false_iff, ne_eq, CellRef.ofText_beq_ofText]
    decide
  simp [twiceTinted, Drawing.putTint, Drawing.tintsElsewhere, Scene.initial, hne]

theorem scene_of_facingCell :
    ((opening : Session K).step (.act (.tintRange facingCell))).session.scene =
      (Scene.fresh Scene.initial .light).withDrawing twiceTinted := by
  have hfind : Scene.initial.matrices.find? (.str "B") = some
      (.sized 3 3 (Grid.ofInts (Grid.filled .sequential 3 3)) ⟨5.0, 0.0⟩) := by
    simp [Scene.initial]
  have hcorner : ∀ role, Change.corner (Scene.fresh Scene.initial .light) facingCell.matrix
      facingCell.start role = .ok (1, 1) := by
    intro role
    simp [facingCell, Change.corner, Scene.fresh, Json.item, Drawing.requireCell, Drawing.matrix,
      Drawing.find?, hfind, Matrix.contains_sized, bind, Except.bind, pure, Except.pure]
  have hcells : (Change.Range.between (1, 1) (1, 1)).cells facingCell.matrix =
      [.ofText "B" 1 1] := rfl
  have hstop : facingCell.stop = facingCell.start := rfl
  have htyped : facingCell.colour.typed = .ok "red" := rfl
  have htrim : Text.trimmed "red" = "red" := rfl
  have hred : Tint.isNone "red" = false := rfl
  simp [step, act, opening, start, Action.apply, Change.tintRange, hcorner, hcells, hstop, htyped,
    htrim, hred, bind, Except.bind, pure, Except.pure, commit]
  rfl

omit [Coordinate K] in
theorem merges_of_twiceTinted {s : Session K}
    (hs : s.scene = (Scene.fresh Scene.initial .light).withDrawing twiceTinted) :
    s.Merges (.act (.rename (.str "A") (.str "B"))) := by
  have hclean : Name.clean (.str "B") = .ok "B" := rfl
  have hfree : Name.checkReserved (.str "B") = .ok () := rfl
  obtain ⟨m, hm⟩ : ∃ m, twiceTinted.matrices.find? (.str "A") = some m := by
    simp [twiceTinted, Drawing.putTint, Scene.initial]
  obtain ⟨change, hchange, hsome⟩ : ∃ change,
      Change.rename s.scene (.str "A") (.str "B") = .ok change ∧ change.scene.isSome := by
    simp [hs, Change.rename, Scene.rename, Drawing.rename, Drawing.matrix, Drawing.find?, hclean,
      hfree, hm, bind, Except.bind, pure, Except.pure]
  refine ⟨_, _, change, "B", rfl, hchange, hsome, hclean, ?_⟩
  rw [hs]
  refine ⟨⟨.ofText "A" 1 1, .str "lightblue"⟩, ?_, ⟨.ofText "B" 1 1, .str "red"⟩, ?_, ?_⟩
  · simp [tints_twiceTinted]
  · simp [tints_twiceTinted]
  · simp [CellRef.ofText]

/-- A run of two actions after which a cell has two tints. -/
theorem two_tints_after_rename :
    ¬ ∀ s ∈ (opening : Session Rat).states mergingRun, s.scene.OneTintPerCell := by
  intro h
  have hkeeps : ((opening : Session Rat).step
      (.act (.tintRange facingCell))).session.Keeps Drawing.OneTintPerCell := by
    refine oneTintPerCell_step (keeps_start (List.pairwise_singleton _ _)) ?_
    rintro ⟨_, _, _, _, hop, _⟩
    exact nomatch hop
  refine two_tints_of_merges hkeeps (merges_of_twiceTinted scene_of_facingCell) (h _ ?_)
  simp [mergingRun, states]

end Session

end GridSketch
