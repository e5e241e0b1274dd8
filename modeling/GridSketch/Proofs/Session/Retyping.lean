import GridSketch.Proofs.Command.Shown
import GridSketch.Proofs.Session.CellWrites

/-!
# A value that is shown and typed again

A cell shows its value, and whoever types what it shows into the form of the cell, or into a command
that sets it, expects the cell to stay as it is. For integers that is so, and for doubles as long as
they are shown without an exponent. Numbers are typed as plain decimals, and `1e+16` is none, though
`10000000000000000.0` is typed and shown so (`Command.shown_with_exponent`).

`Command.number_retyped` says of every number which of the two it is. That a cell stays as it is
comes from two facts: a plain number is read back (`Command.number_text`), and setting a value where
it was set before changes nothing (`Drawing.putMatrix_again`).
-/

set_option autoImplicit false

namespace GridSketch

/-! ## 1. A value that is set twice -/

theorem Keyed.put_put {κ α : Type} [BEq κ] [ReflBEq κ] (k : κ) (a b : α) (es : List (κ × α)) :
    put k b (put k a es) = put k b es := by
  induction es with
  | nil => simp [put]
  | cons e es ih =>
    cases hk : e.1 == k with
    | true => simp [put, hk]
    | false => simp [put, hk, ih]

theorem Roster.put_put {κ α : Type} [BEq κ] [ReflBEq κ] (es : Roster κ α) (k : κ) (a b : α) :
    (es.put k a).put k b = es.put k b :=
  Roster.ext (Keyed.put_put k a b es.entries)

theorem Grid.set_set (g : Grid) (row col : Int) (v w : Json) :
    (g.set row col v).set row col w = g.set row col w := by
  unfold set
  split
  · rw [List.modify_modify_eq]
    congr 1
    funext r
    exact List.set_set ..
  · rfl

theorem Matrix.withValue_withValue (m : Matrix) (row col v w : Json) :
    (m.withValue row col v).withValue row col w = m.withValue row col w := by
  cases hrow : row.whole? with
  | none => simp [withValue, hrow]
  | some i =>
    cases hcol : col.whole? with
    | none => simp [withValue, hrow, hcol]
    | some j => simp [withValue, hrow, hcol, Grid.set_set]

/-- Where a value was set in a cell it can be set again, and nothing changes. -/
theorem Drawing.putMatrix_again {d d' d'' : Drawing} {r : CellRef} {role : String} {m : Matrix}
    {v : Json} (hm : d.requireCell r role = .ok m)
    (hd : d.putMatrix r.matrix (m.withValue r.row r.col v) = .ok d')
    (hsame : d''.matrices = d'.matrices) :
    d''.requireCell r role = .ok (m.withValue r.row r.col v) ∧
      d''.putMatrix r.matrix ((m.withValue r.row r.col v).withValue r.row r.col v) = .ok d'' := by
  obtain ⟨_, hcell⟩ := requireCell_eq_ok hm
  rw [putMatrix_eq_ok hd] at hsame
  simp only [putMatrix, bind_eq_ok] at hd
  obtain ⟨_, hname, _⟩ := hd
  have hkey := hname
  simp only [Name.checkReserved, bind_eq_ok] at hkey
  obtain ⟨_, hkey, _⟩ := hkey
  constructor
  · apply requireCell_of_find? hkey
    · rw [hsame, Roster.find?_put, BEq.rfl, if_pos rfl]
    · rw [Matrix.contains_withValue, hcell]
  · have hput : d''.matrices.put r.matrix (m.withValue r.row r.col v) = d''.matrices := by
      rw [hsame, Roster.put_put]
    rw [putMatrix, hname, Matrix.withValue_withValue, hput]
    rfl

/-! ## 2. The command and the form -/

variable {v : Number}

/-- A command that has set a value sets it again from what is shown of it, with the same answer. -/
theorem Command.assign_again {d : Drawing} {r : CellRef} {cs : List Char} {effect : Effect}
    (h : assign d r cs = .ok effect) :
    ∃ v d', number cs = .ok v ∧ effect.drawing = some d' ∧
      (v.Plain → assign d' r v.text.toList = .ok effect) := by
  simp only [assign, bind_eq_ok, pure_eq_ok] at h
  obtain ⟨m, hm, v, hv, d', hd, rfl⟩ := h
  refine ⟨v, d', hv, rfl, ?_⟩
  intro hplain
  obtain ⟨hcell, hput⟩ := Drawing.putMatrix_again hm hd rfl
  simp only [assign, bind_eq_ok, pure_eq_ok]
  exact ⟨_, hcell, v, number_text hv hplain, d', hput, rfl⟩

theorem Change.editCell_of {s : Scene} {f : CellForm} {row col : Int} {r : CellRef} {m : Matrix}
    {d : Drawing} {text colour : String} (hrow : f.row.asInt = .ok row) (hcol : f.col.asInt = .ok col)
    (hr : r = ⟨f.matrix, .num (.int row), .num (.int col)⟩) (hm : s.requireCell r "Cell" = .ok m)
    (htext : f.value.typed = .ok text) (hv : Command.number text.toList = .ok v)
    (hd : s.putMatrix r.matrix (m.withValue r.row r.col (.num v)) = .ok d)
    (hcolour : f.colour.typed = .ok colour) (hshown : r.isPrintable = true) :
    editCell s f = .ok
      { scene := (s.withDrawing (tint d r (Text.trimmed colour))).select .tint .null
        label := "Edit cell " ++ r.text } := by
  subst hr
  simp only [editCell, bind_eq_ok, pure_eq_ok]
  exact ⟨row, hrow, col, hcol, m, hm, text, htext, v, hv, d, hd, colour, hcolour, _,
    CellRef.print_of_isPrintable hshown, rfl⟩

/-- A form that has set a value sets it again from what is shown of it. -/
theorem Change.editCell_again {s : Scene} {f : CellForm} {change : Change}
    (h : editCell s f = .ok change) :
    ∃ text v s', f.value.typed = .ok text ∧ Command.number text.toList = .ok v ∧
      change.scene = some s' ∧
      (v.Plain → ∃ change' s'', editCell s' { f with value := .str v.text } = .ok change' ∧
        change'.scene = some s'' ∧ s''.matrices = s'.matrices) := by
  obtain ⟨row, col, m, text, v, d, colour, hrow, hcol, hm, htext, hv, hd, hcolour, hshown,
    hscene⟩ := editCell_steps h
  refine ⟨text, v, _, htext, hv, hscene, ?_⟩
  intro hplain
  -- the tint is no matter of the matrices
  have hsame := d.matrices_tint ⟨f.matrix, .num (.int row), .num (.int col)⟩ (Text.trimmed colour)
  obtain ⟨hcell, hput⟩ := Drawing.putMatrix_again hm hd hsame
  generalize tint d _ (Text.trimmed colour) = d' at hcell hput ⊢
  have hagain := @editCell_of v ((s.withDrawing d').select .tint .null)
    { f with value := .str v.text } row col _ _ _ _ _ hrow hcol rfl hcell rfl
    (Command.number_text hv hplain) hput hcolour hshown
  exact ⟨_, _, hagain, rfl, Drawing.matrices_tint _ _ _⟩

/-! ## 3. Typed, shown and typed again -/

namespace Command

open Decimal (floatText)

/-- **A number that is typed and shown can be typed again exactly if it is plain**: an integer, or a
double that is zero or is from 0.0001 to below 10000000000000000, whatever its sign. Then it is the
same number, and setting it once more in the cell where a command or a form has set it is not
refused and changes no matrix. Every other number is shown by a text that is refused. -/
theorem number_retyped :
    (∀ cs v, number cs = .ok v →
      (v.Plain → number v.text.toList = .ok v) ∧
      (¬ v.Plain → number v.text.toList = .error (.invalidNumber v.text))) ∧
    (∀ d r cs effect, assign d r cs = .ok effect →
      ∃ v d', number cs = .ok v ∧ effect.drawing = some d' ∧
        (v.Plain → assign d' r v.text.toList = .ok effect)) ∧
    ∀ s form change, Change.editCell s form = .ok change →
      ∃ text v s', form.value.typed = .ok text ∧ number text.toList = .ok v ∧
        change.scene = some s' ∧
        (v.Plain → ∃ change' s'',
          Change.editCell s' { form with value := .str v.text } = .ok change' ∧
            change'.scene = some s'' ∧ s''.matrices = s'.matrices) :=
  ⟨fun _ _ h => ⟨number_text h, number_text_of_not_plain⟩, fun _ _ _ _ => assign_again,
    fun _ _ _ => Change.editCell_again⟩

/-! ### A double that is typed with a zero at its end -/

theorem plain_two_and_a_half : Number.Plain (.float 2.5) := by
  have hparts : Decimal.parts 2.5 = .finite false 5629499534213120 (-51) := by decide +kernel
  rw [plain_iff hparts]
  right
  constructor <;> norm_num

theorem number_two_and_a_half : number "2.50".toList = .ok (.float 2.5) := by
  have hread : number "2.50".toList = .ok (.float (Decimal.nearestSigned false 250 (-2))) := rfl
  have hvalue : Decimal.nearestSigned false 250 (-2) = 2.5 := by decide +kernel
  rw [hread, hvalue]

/-- It is shown without the zero, and is read back and set again by a command and by a form. -/
theorem number_retyped_two_and_a_half :
    number "2.50".toList = .ok (.float 2.5) ∧ Number.Plain (.float 2.5) ∧
    number (Number.text (.float 2.5)).toList = .ok (.float 2.5) ∧
    (∃ effect d', assign Scene.initial (.ofText "A" 0 0) "2.50".toList = .ok effect ∧
      effect.drawing = some d' ∧
      assign d' (.ofText "A" 0 0) (Number.text (.float 2.5)).toList = .ok effect) ∧
    ∃ change s' change' s'',
      Change.editCell (Scene.fresh Scene.initial .light)
        ⟨.str "A", .num (.int 0), .num (.int 0), .str "2.50", .null⟩ = .ok change ∧
      change.scene = some s' ∧
      Change.editCell s'
        ⟨.str "A", .num (.int 0), .num (.int 0), .str (Number.text (.float 2.5)), .null⟩ =
          .ok change' ∧
      change'.scene = some s'' ∧ s''.matrices = s'.matrices := by
  have hread := number_two_and_a_half
  have hplain := plain_two_and_a_half
  refine ⟨hread, hplain, (number_retyped.1 _ _ hread).1 hplain, ?_, ?_⟩
  · have hset : ∃ effect, assign Scene.initial (.ofText "A" 0 0) "2.50".toList = .ok effect :=
      ⟨_, rfl⟩
    obtain ⟨effect, hset⟩ := hset
    obtain ⟨v, d', hv, hd, hagain⟩ := number_retyped.2.1 _ _ _ _ hset
    obtain rfl := Except.ok.inj (hread.symm.trans hv)
    exact ⟨effect, d', hset, hd, hagain hplain⟩
  · have hset : ∃ change, Change.editCell (Scene.fresh Scene.initial .light)
        ⟨.str "A", .num (.int 0), .num (.int 0), .str "2.50", .null⟩ = .ok change := ⟨_, rfl⟩
    obtain ⟨change, hset⟩ := hset
    obtain ⟨text, v, s', htext, hv, hs, hagain⟩ := number_retyped.2.2 _ _ _ hset
    obtain rfl : "2.50" = text := Except.ok.inj htext
    obtain rfl := Except.ok.inj (hread.symm.trans hv)
    obtain ⟨change', s'', hdone, hs', hsame⟩ := hagain hplain
    exact ⟨change, s', change', s'', hset, hs, hdone, hs', hsame⟩

/-! ### A double that is shown with an exponent -/

/-- The least power of ten that is no longer plain is typed with a point, shown as `1e+16` and then
refused. -/
theorem shown_with_exponent :
    ¬ ∀ cs v, number cs = .ok v → number v.text.toList = .ok v := by
  intro h
  have hread : number "10000000000000000.0".toList =
      .ok (.float (Decimal.nearestSigned false 100000000000000000 (-1))) := rfl
  have hback := h _ _ hread
  have hparts : Decimal.parts (Decimal.nearestSigned false 100000000000000000 (-1)) =
      .finite false 5000000000000000 1 := by decide +kernel
  have htext : Number.text (.float (Decimal.nearestSigned false 100000000000000000 (-1))) =
      "1e+16" := by
    rw [Number.text, floatText, hparts]
    simp only [Decimal.magnitudeText, Decimal.shown_beyond.shortest]
    decide +kernel
  rw [htext] at hback
  have hrefused : number "1e+16".toList = .error (.invalidNumber "1e+16") := rfl
  rw [hrefused] at hback
  cases hback

end Command

end GridSketch
