import GridSketch.Command.Line
import GridSketch.Proofs.Scene.Success

/-!
# What a command does

A command that is done changes a drawing in one of five ways (`Command.Done`): it defines a matrix,
adds an arrow, takes a tint away, puts one, or sets a value. Each comes with what has been checked by
then. The chains of checks are opened here and nowhere else, and `done_of_execute` is what to cite:
whatever a command keeps is shown by five cases.
-/

set_option autoImplicit false

namespace GridSketch.Command

/-- What a command makes of a drawing; without a new drawing the old one is left. -/
inductive Done (d : Drawing) : Option Drawing → Prop where
  | define {name : String} {part : List Char} {rows cols : Nat} {values : List (List Int)}
      (p : Point Float) (hname : Name.WellFormed name) (hsize : size part = .ok (rows, cols))
      (hvalues : Grid.make .sequential rows cols = .ok values) :
      Done d (some
        { d with
          matrices := d.matrices.put (.str name) (.sized rows cols (Grid.ofInts values) p) })
  | arrow {source target : CellRef} (colour : List Char) (hsource : d.HasCell source)
      (htarget : d.HasCell target) : Done d (some (d.addArrow (plainArrow source target colour)))
  | untint (r : CellRef) : Done d (d.clearTint r)
  | tint {r : CellRef} (colour : String) (hcell : d.HasCell r) :
      Done d (some (d.putTint ⟨r, .str colour⟩))
  | value {r : CellRef} {m : Matrix} (v : Number) (hm : d.matrices.find? r.matrix = some m) :
      Done d (some { d with matrices := d.matrices.put r.matrix (m.withValue r.row r.col (.num v)) })

variable {d : Drawing} {cs : List Char} {effect : Effect}

/-- A line that colours a cell puts a tint on the cell that it names, or takes the tint away. -/
theorem colourCell_eq_ok (h : colourCell d cs = .ok effect) :
    ∃ r, cell (Text.cut Form.colon cs).1 "Cell" = .ok r ∧ d.HasCell r ∧
      (effect.drawing = d.clearTint r ∨
        ∃ colour, effect.drawing = some (d.putTint ⟨r, .str colour⟩)) := by
  simp only [colourCell, Command.tint, bind_eq_ok] at h
  obtain ⟨r, hr, m, hm, h⟩ := h
  refine ⟨r, hr, Drawing.hasCell_of_requireCell hm, ?_⟩
  split at h
  · exact absurd h throw_ne_ok
  · split at h
    · obtain rfl := pure_eq_ok.mp h
      exact Or.inl rfl
    · obtain rfl := pure_eq_ok.mp h
      exact Or.inr ⟨_, rfl⟩

/-- **A command that is done does one of five things.** -/
theorem done_of_execute (h : execute d cs = .ok effect) : Done d effect.drawing := by
  unfold execute at h
  split at h
  · exact nomatch h
  · simp only [Command.define, create, bind_eq_ok, pure_eq_ok] at h
    obtain ⟨name, hname, size, hsize, p, _, values, hvalues, d', hd, rfl⟩ := h
    rw [Drawing.putMatrix_eq_ok hd]
    exact Done.define p (Name.validate_trim hname).2 hsize hvalues
  · simp only [addArrow, join, bind_eq_ok, pure_eq_ok] at h
    obtain ⟨source, _, target, _, _, hsource, _, htarget, rfl⟩ := h
    exact Done.arrow _ (Drawing.hasCell_of_requireCell hsource)
      (Drawing.hasCell_of_requireCell htarget)
  · obtain ⟨r, _, hcell, hdrawing | ⟨colour, hdrawing⟩⟩ := colourCell_eq_ok h
    · rw [hdrawing]
      exact Done.untint r
    · rw [hdrawing]
      exact Done.tint colour hcell
  · simp only [setValue, assign, bind_eq_ok, pure_eq_ok] at h
    obtain ⟨r, _, m, hm, v, _, d', hd, rfl⟩ := h
    rw [Drawing.putMatrix_eq_ok hd]
    exact Done.value v (Drawing.requireCell_eq_ok hm).1

/-- No line of another form changes a tint. -/
theorem tints_execute (h : execute d cs = .ok effect) (hform : classify cs ≠ some .cellColour) :
    (effect.drawing.getD d).tints = d.tints := by
  unfold execute at h
  split at h
  · exact nomatch h
  · simp only [Command.define, create, bind_eq_ok, pure_eq_ok] at h
    obtain ⟨_, _, _, _, _, _, _, _, d', hd, rfl⟩ := h
    rw [Drawing.putMatrix_eq_ok hd]
    rfl
  · simp only [addArrow, join, bind_eq_ok, pure_eq_ok] at h
    obtain ⟨_, _, _, _, _, _, _, _, rfl⟩ := h
    rfl
  · rename_i hcolour
    exact absurd hcolour hform
  · simp only [setValue, assign, bind_eq_ok, pure_eq_ok] at h
    obtain ⟨_, _, _, _, _, _, d', hd, rfl⟩ := h
    rw [Drawing.putMatrix_eq_ok hd]
    rfl

end GridSketch.Command
