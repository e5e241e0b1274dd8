import GridSketch.Proofs.Command.Grammar
import GridSketch.Proofs.Session.TintSelection
import GridSketch.Proofs.Session.WellFormed

/-!
# Colours that stand for none

A blank colour and the word `none` take a tint away where they are submitted: in the form for a cell,
in the form for a rectangle, and, as far as the word goes, on the console, which refuses a blank one.
Each of the three trims the colour, asks, and only then puts a tint; so what it puts is a colour
(`Tint.not_colourless`), and a drawing that has none but coloured tints keeps to them.

The form that changes a tint asks nothing. It puts whatever it is given in the place of the tint at
an index, and then the list has an entry that looks like no tint at all. Nothing else puts one:
`allColoured_iff` says so for every run that reads no document, and `colourless_after_update` submits
the form to the first session.
-/

set_option autoImplicit false

namespace GridSketch

/-! ## 1. Colours -/

namespace Text

theorem trim_trim (cs : List Char) : trim (trim cs) = trim cs := by
  obtain ⟨g, g', hg, hg', hcs⟩ := exists_trim cs
  calc trim (trim cs) = trim (g ++ (trim cs ++ g')) := by rw [trim_append hg, trim_append_blank hg']
    _ = trim cs := by rw [← hcs]

theorem ofList_trim (cs : List Char) : String.ofList (trim cs) = trimmed (String.ofList cs) := by
  rw [trimmed, String.toList_ofList]

theorem trimmed_trimmed (s : String) : trimmed (trimmed s) = trimmed s := by
  simp only [trimmed, String.toList_ofList, trim_trim]

end Text

namespace Tint

/-- The colour stands for none, as a form takes it. -/
def Colourless (t : Tint) : Prop :=
  ∃ text, t.colour.typed = .ok text ∧ isNone (Text.trimmed text) = true

/-- A colour that was trimmed and asked about is one. -/
theorem not_colourless {text : String} (h : ¬ isNone (Text.trimmed text) = true) (r : CellRef) :
    ¬ Colourless ⟨r, .str (Text.trimmed text)⟩ := by
  rintro ⟨typed, htyped, hnone⟩
  obtain rfl : Text.trimmed text = typed := Except.ok.inj htyped
  rw [Text.trimmed_trimmed] at hnone
  exact h hnone

end Tint

namespace Drawing

/-- Every tint has a colour. -/
def Coloured (d : Drawing) : Prop :=
  ∀ t ∈ d.tints, ¬ t.Colourless

variable {d d' : Drawing}

theorem Coloured.subset {ts : List Tint} (h : d.Coloured) (hts : ts ⊆ d.tints) :
    Coloured { d with tints := ts } :=
  fun t ht => h t (hts ht)

theorem Coloured.of_tints (h : d.Coloured) (hts : d'.tints = d.tints) : d'.Coloured :=
  fun t ht => h t (hts ▸ ht)

theorem Coloured.putTint {t : Tint} (h : d.Coloured) (ht : ¬ t.Colourless) :
    (d.putTint t).Coloured := by
  intro u hu
  rcases List.mem_append.mp hu with hu | hu
  · exact h u (mem_of_mem_tintsElsewhere hu)
  · obtain rfl := List.mem_singleton.mp hu
    exact ht

theorem Coloured.putTints {colour : Json} (h : d.Coloured)
    (hcolour : ∀ r, ¬ Tint.Colourless ⟨r, colour⟩) (rs : List CellRef) :
    (rs.foldl (fun d r => d.putTint ⟨r, colour⟩) d).Coloured := by
  induction rs generalizing d with
  | nil => exact h
  | cons r rs ih => exact ih (h.putTint (hcolour r))

theorem Coloured.clearTint (h : d.Coloured) (r : CellRef) :
    ((d.clearTint r).getD d).Coloured := by
  rw [clearTint_getD]
  exact h.subset List.eraseP_subset

/-- A renaming changes the cells of tints and no colours. -/
theorem Coloured.renamed {old new : Json} (h : d.Coloured)
    (hts : d'.tints = d.tints.map (Tint.renamed old new)) : d'.Coloured := by
  intro t ht
  rw [hts] at ht
  obtain ⟨u, hu, rfl⟩ := List.mem_map.mp ht
  exact h u hu

theorem Coloured.updateTint {index : Json} {t : Tint} (h : d.Coloured)
    (hd : d.updateTint index t = .ok d') (ht : index.whole?.isSome → ¬ t.Colourless) :
    d'.Coloured := by
  rcases updateTint_eq_ok hd with ⟨i, hi, _, rfl⟩ | ⟨_, rfl⟩
  · intro u hu
    rcases List.mem_append.mp hu with hu | hu
    · exact h u (List.mem_of_mem_take (mem_of_mem_tintsElsewhere hu))
    · rcases List.mem_cons.mp hu with rfl | hu
      · exact ht (by rw [hi]; rfl)
      · exact h u (List.mem_of_mem_drop (mem_of_mem_tintsElsewhere hu))
  · exact h.subset (List.filter_sublist.subset)

/-- What is put in the place of a tint is there. -/
theorem mem_updateTint {index : Json} {t : Tint} (hd : d.updateTint index t = .ok d')
    (hindex : index.whole?.isSome) : t ∈ d'.tints := by
  rcases updateTint_eq_ok hd with ⟨i, _, _, rfl⟩ | ⟨hnone, rfl⟩
  · exact List.mem_append_right _ List.mem_cons_self
  · rw [hnone] at hindex
    exact nomatch hindex

end Drawing

/-! ## 2. Actions -/

namespace Change

variable {s : Scene} {change : Change}

theorem coloured_tint {d : Drawing} (h : d.Coloured) (r : CellRef) (text : String) :
    (tint d r (Text.trimmed text)).Coloured := by
  unfold tint
  split
  · exact h.clearTint r
  · rename_i hnone
    exact h.putTint (Tint.not_colourless hnone r)

theorem editCell_coloured {f : CellForm} (h : editCell s f = .ok change)
    (hs : s.toDrawing.Coloured) : (change.scene.getD s).Coloured := by
  obtain ⟨row, col, m, _, v, d, text, _, _, _, _, _, hd, _, _, hscene⟩ := editCell_steps h
  rw [hscene]
  simp only [Option.getD_some, Scene.toDrawing_select, Scene.toDrawing_withDrawing]
  refine coloured_tint (hs.of_tints ?_) _ text
  rw [Drawing.putMatrix_eq_ok hd]

theorem tintRange_coloured {f : RangeForm} (h : tintRange s f = .ok change)
    (hs : s.toDrawing.Coloured) : (change.scene.getD s).Coloured := by
  obtain ⟨start, stop, text, _, _, _, hscene⟩ := tintRange_scene h
  rw [hscene, Command.toDrawing_getD]
  split
  · rw [untintRange_getD]
    exact hs.subset (List.filter_sublist.subset)
  · rename_i hnone
    exact hs.putTints (Tint.not_colourless hnone) _

theorem updateTint_coloured {index : Json} {t : Tint} (h : updateTint s index t = .ok change)
    (hs : s.toDrawing.Coloured) (ht : index.whole?.isSome → ¬ t.Colourless) :
    (change.scene.getD s).Coloured := by
  obtain ⟨d, _, hd, hscene⟩ := updateTint_eq_ok h
  have hcoloured := hs.updateTint hd ht
  rw [hscene]
  split
  · exact hcoloured
  · exact hcoloured

theorem mem_updateTint {index : Json} {t : Tint} (h : updateTint s index t = .ok change)
    (hindex : index.whole?.isSome) : t ∈ (change.scene.getD s).tints := by
  obtain ⟨d, _, hd, hscene⟩ := updateTint_eq_ok h
  have hmem := Drawing.mem_updateTint hd hindex
  rw [hscene]
  split
  · exact hmem
  · exact hmem

end Change

/-- The action puts a colour that stands for none in the place of a tint. -/
def Action.StoresColourless (s : Scene) (a : Action) : Prop :=
  ∃ index t change, a = .updateTint index t ∧ Change.updateTint s index t = .ok change ∧
    index.whole?.isSome ∧ t.Colourless

/-- **Whatever an action puts has a colour**, unless it changes a tint into one without. -/
theorem Action.coloured_of_apply {s : Scene} {a : Action} {change : Change}
    (h : a.apply s = .ok change) (hs : s.toDrawing.Coloured) (ha : ¬ a.StoresColourless s) :
    (change.scene.getD s).toDrawing.Coloured := by
  cases a with
  | define form noise => exact hs.of_tints (Change.define_sameTints h).tints
  | move name x y => exact hs.of_tints (Change.move_sameTints h).tints
  | rename old field =>
    obtain ⟨name, _, htints, _⟩ := Change.rename_tints h
    exact hs.renamed htints
  | delete name =>
    obtain ⟨found, hfound, hdrawing, _⟩ := Change.delete_eq_ok h
    rw [hdrawing, Drawing.delete_eq_ok hfound]
    split
    · exact hs.subset (List.filter_sublist.subset)
    · exact hs
  | duplicate name => exact hs.of_tints (Change.duplicate_sameTints h).tints
  | editCell form => exact Change.editCell_coloured h hs
  | tintRange form => exact Change.tintRange_coloured h hs
  | saveArrow form => exact hs.of_tints (Change.saveArrow_sameTints h).tints
  | updateArrow index form => exact hs.of_tints (Change.updateArrow_sameTints h).tints
  | deleteArrow index => exact hs.of_tints (Change.deleteArrow_sameTints h).tints
  | updateTint index t =>
    exact Change.updateTint_coloured h hs fun hindex hcolour =>
      ha ⟨index, t, change, rfl, h, hindex, hcolour⟩
  | deleteTint index =>
    obtain ⟨i, hscene⟩ := Change.deleteTint_eq_ok h
    rw [hscene]
    exact hs.subset List.eraseIdx_subset

/-! ## 3. Commands -/

namespace Command

variable {d : Drawing} {cs : List Char} {effect : Effect}

theorem coloured_colourCell (h : colourCell d cs = .ok effect) (hd : d.Coloured) :
    (effect.drawing.getD d).Coloured := by
  simp only [colourCell, Command.tint, bind_eq_ok] at h
  obtain ⟨r, _, m, _, h⟩ := h
  split at h
  · exact absurd h throw_ne_ok
  · split at h
    · obtain rfl := pure_eq_ok.mp h
      exact hd.clearTint r
    · rename_i hnone
      obtain rfl := pure_eq_ok.mp h
      rw [Text.ofList_trim] at hnone ⊢
      exact hd.putTint (Tint.not_colourless hnone r)

theorem coloured_execute (h : execute d cs = .ok effect) (hd : d.Coloured) :
    (effect.drawing.getD d).Coloured := by
  by_cases hform : classify cs = some .cellColour
  · have hcolour : colourCell d cs = .ok effect := by simpa only [execute, hform] using h
    exact coloured_colourCell hcolour hd
  · exact hd.of_tints (tints_execute h hform)

theorem coloured_runBatch (hd : d.Coloured) (text : String) : (runBatch d text).drawing.Coloured :=
  runLines_relates (R := fun d d' => d.Coloured → d'.Coloured) (fun _ => id)
    (fun h h' => h' ∘ h) coloured_execute d 1 _ hd

end Command

/-! ## 4. Sessions -/

namespace Session

variable {K : Type}

/-- The operation puts a colour that stands for none in the place of a tint. -/
def StoresColourless (s : Session K) (op : Op K) : Prop :=
  ∃ a, op = .act a ∧ a.StoresColourless s.scene

theorem coloured_initial : Scene.initial.Coloured := by
  intro t ht
  obtain rfl := List.mem_singleton.mp ht
  rintro ⟨text, htext, hnone⟩
  obtain rfl : "lightblue" = text := Except.ok.inj htext
  exact absurd hnone (by decide)

variable [Coordinate K]

theorem coloured_step {s : Session K} {op : Op K} (hread : op.reads = false)
    (hs : s.Keeps Drawing.Coloured) (hop : ¬ s.StoresColourless op) :
    (s.step op).session.Keeps Drawing.Coloured := by
  refine keeps_step hs (brings_of_sources ?_ ?_ coloured_initial (List.forall_mem_nil _) ?_)
  · intro a change new hact ha hnew
    have hcoloured := Action.coloured_of_apply ha hs.1 fun h => hop ⟨a, hact, h⟩
    rwa [hnew] at hcoloured
  · exact Command.coloured_runBatch hs.1
  · intro data d hyes _
    rw [hread] at hyes
    exact nomatch hyes

theorem colourless_of_stores {s : Session K} {op : Op K} (hop : s.StoresColourless op) :
    ¬ (s.step op).session.scene.Coloured := by
  obtain ⟨_, rfl, index, t, change, rfl, h, hindex, hcolour⟩ := hop
  have hscene : (s.step (.act (.updateTint index t))).session.scene = change.scene.getD s.scene := by
    simp only [step, act, Action.apply, h]
    exact scene_commit _ _ _ _
  rw [hscene]
  exact fun hcoloured => hcoloured t (Change.mem_updateTint h hindex) hcolour

/-- **As long as no document is read, every tint has a colour, exactly as long as no tint is changed
into one without.** -/
theorem allColoured_iff (ops : List (Op K)) (hread : ∀ op ∈ ops, op.reads = false) :
    (∀ s ∈ (opening : Session K).states ops, s.scene.Coloured) ↔
      ∀ e ∈ (opening : Session K).turns ops, ¬ e.1.StoresColourless e.2 := by
  -- the invariant is about the history too, since undoing brings its drawings back
  refine states_iff (I := fun s => s.Keeps Drawing.Coloured) ?_ ?_ ?_
    (keeps_start coloured_initial) hread
  · intro s hs
    exact hs.1
  · intro s op hop hs hkept
    exact coloured_step hop hs hkept
  · intro s op _ hop
    exact colourless_of_stores hop

/-- Changes the first tint, as the form for tints does. -/
def recolouring (colour : String) : List (Op K) :=
  [.act (.updateTint (.num (.int 0)) ⟨.ofText "A" 1 1, .str colour⟩)]

theorem allColoured_recolouring :
    (∀ op ∈ (recolouring "red" : List (Op Rat)), op.reads = false) ∧
      ∀ s ∈ (opening : Session Rat).states (recolouring "red"), s.scene.Coloured := by
  have hread : ∀ op ∈ (recolouring "red" : List (Op Rat)), op.reads = false := by
    simp [recolouring, Op.reads]
  refine ⟨hread, (allColoured_iff _ hread).mpr ?_⟩
  intro e he
  obtain rfl := List.mem_singleton.mp he
  rintro ⟨_, ha, index, t, change, rfl, _, _, text, htext, hnone⟩
  obtain ⟨rfl, rfl⟩ := Action.updateTint.inj (Op.act.inj ha)
  obtain rfl : "red" = text := Except.ok.inj htext
  exact absurd hnone (by decide)

/-- After one form of the first session a tint has the colour `none`. -/
theorem colourless_after_update :
    ¬ ∀ s ∈ (opening : Session Rat).states (recolouring "none"), s.scene.Coloured := by
  intro h
  obtain ⟨change, hchange⟩ : ∃ change, Change.updateTint (opening : Session Rat).scene
      (.num (.int 0)) ⟨.ofText "A" 1 1, .str "none"⟩ = .ok change := ⟨_, rfl⟩
  refine colourless_of_stores ⟨_, rfl, _, _, change, rfl, hchange, rfl, "none", rfl, by decide⟩
    (h _ ?_)
  simp [recolouring, states]

end Session

end GridSketch
