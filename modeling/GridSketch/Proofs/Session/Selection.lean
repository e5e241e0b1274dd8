import GridSketch.Proofs.Session.Edit

/-!
# The selected arrow

An arrow is selected by its index, and the index outlives what it stood for. The list of arrows is
added to, renamed through, set at an index and cut, and the index is only right as long as nothing
in front of it goes. An action on an index that is cut out of the list takes the selection away with
it, and so does saving an arrow (`Action.rearranges_of_apply`, which says of every action what it
does to the list and to the selection); the console adds arrows at the end of the list
(`Command.arrows_execute`). So after an action or a batch the selected arrow is the one that was
selected before.

Deleting a matrix is the exception. The arrows that it takes away may be in front of the selected
one, or the selected one itself, and the selection stays. `Session.selection_kept_iff` says so in
both directions: the selection comes to stand for another arrow exactly where a matrix is deleted
and another arrow slides to the index (`Session.Slides`).
-/

set_option autoImplicit false

namespace GridSketch

/-! ## 1. Indices -/

namespace Json

/-- A truth value is an index where the number that it counts as is one. -/
theorem indexBelow_bool (use : Indexing) (count : Nat) (b : Bool) :
    indexBelow use count (.bool b) = indexBelow use count (.num (.int b.toNat)) := by
  rfl

/-- What is an index is in range, and is an integer or counts as one. -/
theorem indexBelow_eq_some {use : Indexing} {count i : Nat} {j : Json} :
    j.indexBelow use count = .ok (some i) ↔
      i < count ∧ (j = .num (.int i) ∨ ∃ b, j = .bool b ∧ b.toNat = i) := by
  have hint : ∀ k : Int, indexBelow use count (.num (.int k)) = .ok (some i) ↔
      i < count ∧ k = i := by
    intro k
    rw [indexBelow_int, Except.ok.injEq]
    by_cases hk : 0 ≤ k ∧ k < count
    · rw [if_pos hk, Option.some.injEq]
      omega
    · rw [if_neg hk]
      exact iff_of_false nofun fun h => hk (by omega)
  cases j with
  | num n =>
    cases n with
    | int k =>
      rw [hint]
      simp
    | float x =>
      refine iff_of_false ?_ (by simp)
      simp only [indexBelow, bind_eq_ok]
      rintro ⟨b, _, h⟩
      cases b with
      | true => cases h
      | false => cases h
  | bool b =>
    rw [indexBelow_bool, hint, Int.natCast_inj]
    simp
  | null | str | arr | obj =>
    refine iff_of_false ?_ (by simp)
    simp only [indexBelow, bind_eq_ok]
    rintro ⟨b, _, h⟩
    cases b with
    | true => cases h
    | false => cases h

/-- The value is an index in range, and `x` is the entry there. -/
def Picks {α : Type} (j : Json) (xs : List α) (i : Nat) (x : α) : Prop :=
  j.indexBelow .lookUp xs.length = .ok (some i) ∧ xs[i]? = some x

section

variable {α β : Type} {j : Json} {xs : List α} {ys : List β} {i k : Nat} {x : α} {y : β}

/-- One value is one index, as long as it is in range. -/
theorem Picks.index_eq (h : j.Picks xs i x) (h' : j.Picks ys k y) : k = i := by
  have hi := (indexBelow_eq_some.mp h.1).2
  have hk := (indexBelow_eq_some.mp h'.1).2
  rcases hi with hi | ⟨b, hb, hi⟩
  · rcases hk with hk | ⟨b, hb, _⟩
    · exact Int.natCast_inj.mp (by simpa using hk.symm.trans hi)
    · exact nomatch hb.symm.trans hi
  · rcases hk with hk | ⟨b', hb', hk⟩
    · exact nomatch hk.symm.trans hb
    · have hbb : b' = b := by simpa using hb'.symm.trans hb
      rw [← hi, ← hk, hbb]

theorem Picks.of_getElem? (h : j.Picks xs i x) (hy : ys[i]? = some y) : j.Picks ys i y := by
  have hi := (indexBelow_eq_some.mp h.1).2
  exact ⟨indexBelow_eq_some.mpr ⟨(List.getElem?_eq_some_iff.mp hy).1, hi⟩, hy⟩

/-- What can be said of the entry that a value picks out of another list is what can be said of the
one at the index. -/
theorem Picks.forall_iff {P : β → Prop} (h : j.Picks xs i x) :
    (∀ k y, j.Picks ys k y → k = i ∧ P y) ↔ ∀ y, ys[i]? = some y → P y := by
  constructor
  · intro hall y hy
    exact (hall i y (h.of_getElem? hy)).2
  · intro hall k y hy
    have hk := h.index_eq hy
    exact ⟨hk, hall y (hk ▸ hy.2)⟩

theorem not_picks_null (xs : List α) (i : Nat) (x : α) : ¬ null.Picks xs i x := by
  rintro ⟨hindex, _⟩
  rw [indexBelow_eq_some] at hindex
  simp at hindex

end

end Json

/-! ### The entries up to an index -/

section

variable {α : Type} {xs ys : List α} {i : Nat} {x : α}

theorem forall_mem_take {P : α → Prop} (h : ∀ k x, k ≤ i → xs[k]? = some x → P x) :
    ∀ x ∈ xs.take (i + 1), P x := by
  intro x hx
  obtain ⟨k, hk, rfl⟩ := List.mem_take_iff_getElem.mp hx
  exact h k _ (by omega) (List.getElem?_eq_getElem _)

/-- Where the entries up to an index are those that another list starts with, the one at the index
is there as well. -/
theorem getElem?_of_prefix_take (hx : xs[i]? = some x) (h : xs.take (i + 1) <+: ys) :
    ys[i]? = some x := by
  obtain ⟨rest, rfl⟩ := h
  have hlength : i < (xs.take (i + 1)).length := by
    have hlt := (List.getElem?_eq_some_iff.mp hx).1
    rw [List.length_take]
    omega
  rw [List.getElem?_append_left hlength, List.getElem?_take_of_lt (Nat.lt_succ_self i), hx]

theorem prefix_filter_of_forall {p : α → Bool} (h : xs <+: ys) (hp : ∀ x ∈ xs, p x = true) :
    xs <+: ys.filter p := by
  obtain ⟨rest, rfl⟩ := h
  rw [List.filter_append, List.filter_eq_self.mpr hp]
  exact List.prefix_append _ _

end

/-! ## 2. Selecting an arrow -/

namespace Scene

/-- The arrow selection is an index in range, and the arrow there is `a`. -/
def Selects (s : Scene) (i : Nat) (a : Arrow) : Prop :=
  s.selection.arrow.indexBelow .lookUp s.arrows.length = .ok (some i) ∧ s.arrows[i]? = some a

theorem selects_iff {s : Scene} {i : Nat} {a : Arrow} :
    s.Selects i a ↔ s.selection.arrow.Picks s.arrows i a :=
  Iff.rfl

/-- Where the selection stays what it was, what can be said of the arrow that is selected afterwards
is what can be said of the one that is at the index. -/
theorem Selects.forall_iff {s s' : Scene} {i : Nat} {a : Arrow} {P : Arrow → Prop}
    (h : s.Selects i a) (hsame : s'.selection.arrow = s.selection.arrow) :
    (∀ j b, s'.Selects j b → j = i ∧ P b) ↔ ∀ b, s'.arrows[i]? = some b → P b := by
  simp only [selects_iff] at h ⊢
  rw [hsame]
  exact h.forall_iff

theorem not_selects_of_null {s : Scene} (h : s.selection.arrow = .null) (i : Nat) (a : Arrow) :
    ¬ s.Selects i a := by
  rw [selects_iff, h]
  exact Json.not_picks_null _ _ _

/-- Neither the arrows nor the selection of one has changed. -/
structure SameArrows (s s' : Scene) : Prop where
  arrows : s'.arrows = s.arrows
  selection : s'.selection.arrow = s.selection.arrow

end Scene

/-! ## 3. Actions -/

/-- A name that is changed into an equal one is not changed. -/
theorem CellRef.renamed_self {old : Json} {name : String} (h : old.equals (.str name) = true)
    (r : CellRef) : r.renamed old (.str name) = r := by
  unfold renamed
  split
  · rename_i hr
    have hname : r.matrix = .str name :=
      Json.eq_str_of_beq (BEq.trans (Json.beq_of_equals hr) (Json.beq_of_equals h))
    rw [← hname]
  · rfl

theorem Arrow.renamed_self {old : Json} {name : String} (h : old.equals (.str name) = true)
    (a : Arrow) : a.renamed old (.str name) = a := by
  rw [renamed, CellRef.renamed_self h, CellRef.renamed_self h]

theorem Drawing.arrows_clearTint (d : Drawing) (r : CellRef) :
    ((d.clearTint r).getD d).arrows = d.arrows := by
  cases h : d.clearTint r with
  | none => rfl
  | some d' =>
    obtain ⟨i, rfl⟩ := clearTint_eq_some h
    rfl

theorem Drawing.arrows_putTints (colour : Json) (rs : List CellRef) (d : Drawing) :
    (rs.foldl (fun d r => d.putTint ⟨r, colour⟩) d).arrows = d.arrows := by
  induction rs generalizing d with
  | nil => rfl
  | cons r rest ih => exact ih (d.putTint ⟨r, colour⟩)

namespace Change

variable {s : Scene} {change : Change}

theorem define_sameArrows {f : MatrixForm} {noise : Noise} (h : define s f noise = .ok change) :
    s.SameArrows (change.scene.getD s) := by
  obtain ⟨_, _, _, _, _, _, _, _, _, hscene⟩ := define_eq_ok h
  rw [hscene]
  exact ⟨rfl, rfl⟩

theorem move_sameArrows {name x y : Json} (h : move s name x y = .ok change) :
    s.SameArrows (change.scene.getD s) := by
  obtain ⟨_, _, _, hscene⟩ := move_eq_ok h
  rw [hscene]
  exact ⟨rfl, rfl⟩

theorem duplicate_sameArrows {name : Json} (h : duplicate s name = .ok change) :
    s.SameArrows (change.scene.getD s) := by
  obtain ⟨_, _, _, hscene⟩ := duplicate_eq_ok h
  rw [hscene]
  exact ⟨rfl, rfl⟩

theorem arrows_tint (d : Drawing) (r : CellRef) (colour : String) :
    (tint d r colour).arrows = d.arrows := by
  unfold tint
  split
  · exact d.arrows_clearTint r
  · rfl

theorem editCell_sameArrows {f : CellForm} (h : editCell s f = .ok change) :
    s.SameArrows (change.scene.getD s) := by
  obtain ⟨_, _, _, _, _, hscene⟩ := editCell_eq_ok h
  rw [hscene]
  exact ⟨arrows_tint _ _ _, rfl⟩

theorem tintRange_sameArrows {f : RangeForm} (h : tintRange s f = .ok change) :
    s.SameArrows (change.scene.getD s) := by
  rcases tintRange_eq_ok h with hscene | ⟨_, _, hscene⟩ | ⟨_, _, _, _, hscene⟩
  · rw [hscene]
    exact ⟨rfl, rfl⟩
  · rw [hscene]
    exact ⟨rfl, rfl⟩
  · rw [hscene]
    exact ⟨Drawing.arrows_putTints _ _ _, rfl⟩

theorem updateTint_sameArrows {index : Json} {t : Tint} (h : updateTint s index t = .ok change) :
    s.SameArrows (change.scene.getD s) := by
  obtain ⟨d, _, hd, hscene⟩ := updateTint_eq_ok h
  have harrows : d.arrows = s.arrows := by
    rcases Drawing.updateTint_eq_ok hd with ⟨i, _, _, rfl⟩ | ⟨_, rfl⟩
    · rfl
    · rfl
  rw [hscene]
  split
  · exact ⟨harrows, rfl⟩
  · exact ⟨harrows, rfl⟩

theorem deleteTint_sameArrows {index : Json} (h : deleteTint s index = .ok change) :
    s.SameArrows (change.scene.getD s) := by
  obtain ⟨_, hscene⟩ := deleteTint_eq_ok h
  rw [hscene]
  exact ⟨rfl, rfl⟩

theorem rename_arrows {old field : Json} (h : rename s old field = .ok change) :
    ∃ name, Name.clean field = .ok name ∧
      (change.scene.getD s).arrows = s.arrows.map (Arrow.renamed old (.str name)) ∧
      (change.scene.getD s).selection.arrow = s.selection.arrow := by
  obtain ⟨name, found, hname, hfound, hscene⟩ := rename_eq_ok h
  refine ⟨name, hname, ?_⟩
  rw [hscene]
  cases found with
  | none =>
    -- the matrix has that name already, and so have the arrows
    have hsame := Drawing.rename_eq_none hfound
    have hid : Arrow.renamed old (.str name) = id := funext (Arrow.renamed_self hsame)
    refine ⟨?_, rfl⟩
    rw [hid, List.map_id]
    rfl
  | some d =>
    obtain ⟨m, _, _, rfl⟩ := Drawing.rename_eq_some hfound
    refine ⟨rfl, ?_⟩
    simp only [Option.map_some, Option.getD_some]
    split
    · rfl
    · rfl

theorem delete_arrows {name : Json} (h : delete s name = .ok change) :
    (change.scene.getD s).arrows =
        (if s.matrices.has name then s.arrows.filter fun a => !a.touches name else s.arrows) ∧
      (change.scene.getD s).selection.arrow = s.selection.arrow := by
  obtain ⟨found, hfound, hdrawing, hselection, _⟩ := delete_eq_ok h
  refine ⟨?_, hselection⟩
  rw [hdrawing, Drawing.delete_eq_ok hfound]
  split
  · rfl
  · rfl

theorem updateArrow_arrows {index : Json} {f : ArrowForm}
    (h : updateArrow s index f = .ok change) : ∃ k b,
      index.indexBelow .replace s.arrows.length = .ok (some k) ∧
      arrowOf s.toDrawing f = .ok b ∧ (change.scene.getD s).arrows = s.arrows.set k b ∧
      (change.scene.getD s).selection.arrow = s.selection.arrow := by
  obtain ⟨k, b, hindex, hform, hscene⟩ := updateArrow_eq_ok h
  rw [hscene]
  exact ⟨k, b, hindex, hform, rfl, rfl⟩

theorem saveArrow_selection {f : ArrowForm} (h : saveArrow s f = .ok change) :
    (change.scene.getD s).selection.arrow = .null := by
  obtain ⟨_, _, _, _, hscene⟩ := saveArrow_eq_ok h
  rw [hscene]
  rfl

theorem deleteArrow_selection {index : Json} (h : deleteArrow s index = .ok change) :
    (change.scene.getD s).selection.arrow = .null := by
  obtain ⟨_, hscene⟩ := deleteArrow_eq_ok h
  rw [hscene]
  rfl

end Change

namespace Action

/-- What an action does to the arrows and to the selection of one, `s'` being the scene that it
makes. -/
def Rearranges (s s' : Scene) : Action → Prop
  | .rename old field => ∃ name, Name.clean field = .ok name ∧
      s'.arrows = s.arrows.map (Arrow.renamed old (.str name)) ∧
      s'.selection.arrow = s.selection.arrow
  | .delete name =>
      s'.arrows = (if s.matrices.has name then s.arrows.filter fun a => !a.touches name
        else s.arrows) ∧
      s'.selection.arrow = s.selection.arrow
  | .updateArrow index form => ∃ k b,
      index.indexBelow .replace s.arrows.length = .ok (some k) ∧
      Change.arrowOf s.toDrawing form = .ok b ∧ s'.arrows = s.arrows.set k b ∧
      s'.selection.arrow = s.selection.arrow
  | .saveArrow _ | .deleteArrow _ => s'.selection.arrow = .null
  | _ => s.SameArrows s'

theorem rearranges_of_apply {s : Scene} {a : Action} {change : Change}
    (h : a.apply s = .ok change) : a.Rearranges s (change.scene.getD s) := by
  cases a with
  | define form noise => exact Change.define_sameArrows h
  | move name x y => exact Change.move_sameArrows h
  | rename old field => exact Change.rename_arrows h
  | delete name => exact Change.delete_arrows h
  | duplicate name => exact Change.duplicate_sameArrows h
  | editCell form => exact Change.editCell_sameArrows h
  | tintRange form => exact Change.tintRange_sameArrows h
  | saveArrow form => exact Change.saveArrow_selection h
  | updateArrow index form => exact Change.updateArrow_arrows h
  | deleteArrow index => exact Change.deleteArrow_selection h
  | updateTint index t => exact Change.updateTint_sameArrows h
  | deleteTint index => exact Change.deleteTint_sameArrows h

end Action

/-! ## 4. Commands -/

namespace Command

variable {d : Drawing} {cs : List Char} {effect : Effect}

/-- A command adds an arrow at most, behind those that are there. -/
theorem arrows_execute (h : execute d cs = .ok effect) :
    d.arrows <+: (effect.drawing.getD d).arrows := by
  have hdone := done_of_execute h
  generalize effect.drawing = found at hdone
  cases hdone with
  | arrow => exact List.prefix_append _ _
  | untint r => simp only [Drawing.arrows_clearTint, List.prefix_rfl]
  | define | tint | value => exact List.prefix_rfl

theorem arrows_runBatch (d : Drawing) (text : String) :
    d.arrows <+: (runBatch d text).drawing.arrows :=
  runLines_relates (R := fun d d' => d.arrows <+: d'.arrows) (fun _ => List.prefix_rfl)
    List.IsPrefix.trans arrows_execute d 1 _

end Command

/-! ## 5. Sessions -/

namespace Session

variable {K : Type}

/-- What becomes of the arrow `a` at the index `i`, if it is not another arrow that comes there: the
renaming of a matrix renames the ends of the arrow, and a form for that index replaces it. -/
def Becomes (s : Session K) (i : Nat) (a b : Arrow) : Op K → Prop
  | .act (.rename old field) => ∃ name, Name.clean field = .ok name ∧ b = a.renamed old (.str name)
  | .act (.updateArrow index form) =>
      (index.indexBelow .replace s.scene.arrows.length = .ok (some i) ∧
        Change.arrowOf s.scene.toDrawing form = .ok b) ∨
      (index.indexBelow .replace s.scene.arrows.length ≠ .ok (some i) ∧ b = a)
  | _ => b = a

/-- The operation deletes a matrix, and with its arrows gone another arrow is at the index. -/
def Slides (s : Session K) (i : Nat) (a : Arrow) : Op K → Prop
  | .act (.delete name) => s.scene.matrices.has name ∧
      ∃ b, (s.scene.arrows.filter fun a => !a.touches name)[i]? = some b ∧ b ≠ a
  | _ => False

/-- An operation on the drawing itself: an action or a batch of commands. -/
inductive Op.IsEdit : Op K → Prop
  | act (a : Action) : IsEdit (.act a)
  | run (source : Json) : IsEdit (.run source)

variable {s : Session K} {i : Nat} {a : Arrow}

/-- What slides to an index comes from behind it, where an arrow at the index or in front of it has
an end in the matrix that is deleted. -/
theorem exists_touches_of_slides {name : Json} (hsel : s.scene.Selects i a)
    (h : s.Slides i a (.act (.delete name))) :
    ∃ k c, k ≤ i ∧ s.scene.arrows[k]? = some c ∧ c.touches name = true := by
  obtain ⟨_, b, hb, hne⟩ := h
  refine Classical.byContradiction fun hnone => hne ?_
  have hfirst : ∀ c ∈ s.scene.arrows.take (i + 1), (!c.touches name) = true := by
    refine forall_mem_take ?_
    intro k c hk hc
    rw [Bool.not_eq_true', Bool.eq_false_iff]
    exact fun htouches => hnone ⟨k, c, hk, hc, htouches⟩
  -- with none of these gone, the list is the same up to the index
  have hkept := prefix_filter_of_forall (List.take_prefix (i + 1) s.scene.arrows) hfirst
  rw [getElem?_of_prefix_take hsel.2 hkept] at hb
  exact (Option.some.inj hb).symm

/-- A form for an index replaces the arrow there, and leaves the arrow at every other index. -/
theorem becomes_updateArrow {index : Json} {form : ArrowForm} {k : Nat} {b c : Arrow}
    (hsel : s.scene.Selects i a)
    (hindex : index.indexBelow .replace s.scene.arrows.length = .ok (some k))
    (hform : Change.arrowOf s.scene.toDrawing form = .ok c)
    (hb : (s.scene.arrows.set k c)[i]? = some b) :
    s.Becomes i a b (.act (.updateArrow index form)) := by
  by_cases hk : k = i
  · rw [hk, List.getElem?_set_self (List.getElem?_eq_some_iff.mp hsel.2).1] at hb
    rw [hk] at hindex
    exact Or.inl ⟨hindex, Option.some.inj hb ▸ hform⟩
  · rw [List.getElem?_set_ne hk, hsel.2] at hb
    refine Or.inr ⟨?_, (Option.some.inj hb).symm⟩
    rw [hindex]
    simpa using hk

/-- Deleting a matrix leaves the arrow at the index, or none, unless another slides there. -/
theorem not_slides_delete_iff {name : Json} (hsel : s.scene.Selects i a) :
    ¬ s.Slides i a (.act (.delete name)) ↔
      ∀ b, (if s.scene.matrices.has name then s.scene.arrows.filter fun a => !a.touches name
        else s.scene.arrows)[i]? = some b → b = a := by
  by_cases hhas : s.scene.matrices.has name
  · rw [if_pos hhas]
    constructor
    · intro hslides b hb
      exact Classical.byContradiction fun hne => hslides ⟨hhas, b, hb, hne⟩
    · rintro hall ⟨_, b, hb, hne⟩
      exact hne (hall b hb)
  · rw [if_neg hhas, hsel.2]
    exact iff_of_true (fun h => hhas h.1) fun b hb => (Option.some.inj hb).symm

variable [Coordinate K]

/-- The console adds arrows behind those that are there, and leaves the selection alone. -/
theorem scene_run (s : Session K) (source : Json) :
    s.scene.arrows <+: (s.step (.run source)).session.scene.arrows ∧
      (s.step (.run source)).session.scene.selection = s.scene.selection := by
  simp only [step, run]
  cases source.typedLines with
  | error f => exact ⟨List.prefix_rfl, rfl⟩
  | ok text =>
    have harrows := Command.arrows_runBatch s.scene.toDrawing text
    simp only [runText]
    split
    · exact ⟨List.prefix_rfl, rfl⟩
    · split
      · rw [scene_commit]
        split
        · exact ⟨harrows, rfl⟩
        · exact ⟨List.prefix_rfl, rfl⟩
      · exact ⟨List.prefix_rfl, rfl⟩

/-- **The selected arrow after an operation on the drawing is the arrow that was selected before,
renamed or replaced as it may be, unless a matrix is deleted and another arrow slides to the
index.** -/
theorem selection_kept_iff {op : Op K} {answer : Answer K} (hsel : s.scene.Selects i a)
    (hop : op.IsEdit) (hok : (s.step op).answer = .ok answer) :
    (∀ j b, (s.step op).session.scene.Selects j b → j = i ∧ s.Becomes i a b op) ↔
      ¬ s.Slides i a op := by
  cases hop with
  | run source =>
    obtain ⟨⟨added, hadded⟩, hselection⟩ := s.scene_run source
    rw [hsel.forall_iff (congrArg Selection.arrow hselection)]
    refine iff_of_true ?_ id
    intro b hb
    rw [← hadded, List.getElem?_append_left (List.getElem?_eq_some_iff.mp hsel.2).1, hsel.2] at hb
    exact (Option.some.inj hb).symm
  | act action =>
    obtain ⟨change, happly, hscene⟩ := scene_act hok
    rw [hscene]
    have hmoves := Action.rearranges_of_apply happly
    generalize change.scene.getD s.scene = s' at hmoves
    cases action with
    | saveArrow | deleteArrow =>
      exact iff_of_true (fun j b hb => absurd hb (Scene.not_selects_of_null hmoves j b)) id
    | rename old field =>
      obtain ⟨name, hname, harrows, hselection⟩ := hmoves
      rw [hsel.forall_iff hselection]
      refine iff_of_true ?_ id
      intro b hb
      rw [harrows, List.getElem?_map, hsel.2] at hb
      exact ⟨name, hname, (Option.some.inj hb).symm⟩
    | updateArrow index form =>
      obtain ⟨k, c, hindex, hform, harrows, hselection⟩ := hmoves
      rw [hsel.forall_iff hselection, harrows]
      exact iff_of_true (fun b hb => becomes_updateArrow hsel hindex hform hb) id
    | delete name =>
      obtain ⟨harrows, hselection⟩ := hmoves
      rw [hsel.forall_iff hselection, harrows]
      exact (not_slides_delete_iff hsel).symm
    | define | move | duplicate | editCell | tintRange | updateTint | deleteTint =>
      rw [hsel.forall_iff hmoves.selection, hmoves.arrows, hsel.2]
      exact iff_of_true (fun b hb => (Option.some.inj hb).symm) id

/-! ### Deleting a matrix in front of the selection -/

/-- The form for an arrow within the second matrix of the first drawing. -/
def inward : ArrowForm where
  source := .ofText "B" 0 0
  target := .ofText "B" 1 1

/-- Adds that arrow behind the first, and selects the first. -/
def selectingRun : List (Op K) :=
  [.act (.saveArrow inward), .selectArrow (.num (.int 0))]

/-- The arrow of the first drawing, and the one that is added. -/
def firstArrow : Arrow where
  source := .ofText "A" 0 0
  target := .ofText "B" 0 0
  colour := .str Arrow.defaultColour
  style := .str Arrow.defaultStyle
  width := .num (.float Arrow.defaultWidth)
  label := .str "example"

def secondArrow : Arrow where
  source := inward.source
  target := inward.target
  colour := .str Arrow.defaultColour
  style := .str Arrow.defaultStyle
  width := .num (.float Arrow.defaultWidth)
  label := .null

theorem selects_firstArrow :
    ((opening : Session Rat).after selectingRun).scene.Selects 0 firstArrow :=
  ⟨rfl, rfl⟩

/-- With the first matrix the first arrow goes, and its place is taken. -/
theorem selects_secondArrow :
    (((opening : Session Rat).after selectingRun).step
      (.act (.delete (.str "A")))).session.scene.Selects 0 secondArrow :=
  ⟨rfl, rfl⟩

/-- Giving the first matrix another name leaves the arrow selected, under the other name. -/
theorem selection_kept_rename :
    ((opening : Session Rat).after selectingRun).scene.Selects 0 firstArrow ∧
      ∀ j b, (((opening : Session Rat).after selectingRun).step
          (.act (.rename (.str "A") (.str "C")))).session.scene.Selects j b →
        j = 0 ∧ ((opening : Session Rat).after selectingRun).Becomes 0 firstArrow b
          (.act (.rename (.str "A") (.str "C"))) := by
  have hok : (((opening : Session Rat).after selectingRun).step
      (.act (.rename (.str "A") (.str "C")))).answer = .ok (.name .null) := rfl
  exact ⟨selects_firstArrow, (selection_kept_iff selects_firstArrow (.act _) hok).mpr id⟩

/-- The arrow selection slides onto another arrow. -/
theorem selection_slides : ¬ ∀ (ops : List (Op Rat)) (op : Op Rat) (i : Nat) (a : Arrow)
    (answer : Answer Rat), (opening.after ops).scene.Selects i a → op.IsEdit →
    ((opening.after ops).step op).answer = .ok answer →
    ∀ j b, ((opening.after ops).step op).session.scene.Selects j b →
      j = i ∧ (opening.after ops).Becomes i a b op := by
  intro h
  obtain ⟨_, hsame⟩ := h selectingRun (.act (.delete (.str "A"))) 0 firstArrow (.name .null)
    selects_firstArrow (.act _) rfl 0 secondArrow selects_secondArrow
  have hlabel : Json.null = .str "example" := congrArg Arrow.label hsame
  exact nomatch hlabel

end Session

end GridSketch
