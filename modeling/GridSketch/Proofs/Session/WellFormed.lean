import GridSketch.Proofs.Session.Edit

/-!
# Well-formed drawings

What a drawing is built from is kept as it was given, and what speaks of a matrix does so by name.
So little is true of all drawings. A drawing is *well-formed* if its matrices have names that are
names, with as many rows and columns of numbers as they declare (`Matrix.Full`), and if no arrow and
no tint speaks of a matrix that is not there. Then every name under which something is found is a
text (`WellFormed.of_find?`), and every cell in range has a value.

Every edit keeps a drawing so (`Edit.wellFormed`), and so does giving a matrix another name, whether
it is free or taken. A hollow form does not: it defines a matrix without rows. So as long as no
document is read, a session and its history hold well-formed drawings exactly as long as no hollow
form is submitted (`wellFormed_iff`), and `ill_formed_after_hollow` submits one.
-/

set_option autoImplicit false

namespace GridSketch

/-! ## 1. Full matrices -/

/-- A matrix of at least one row and one column, with as many rows of as many numbers as it
declares; so the cells that are in range have values. -/
structure Matrix.Full (m : Matrix) : Prop where
  shape : ∃ rows cols : Nat, 0 < rows ∧ 0 < cols ∧ m.rows = .num (.int rows) ∧
    m.cols = .num (.int cols) ∧ Grid.Fits rows cols m.values
  numbers : ∀ r ∈ m.values, ∀ v ∈ r, ∃ n, v = .num n
  present : ∀ i j : Int, m.contains (.num (.int i)) (.num (.int j)) = .ok true →
    ∃ n, m.value? (.num (.int i)) (.num (.int j)) = .ok (some (.num n))

namespace Grid

theorem exists_of_fits {α : Type} {rows cols : Nat} {g : List (List α)} (h : Fits rows cols g)
    {i j : Int} (hi : 0 ≤ i ∧ i < rows) (hj : 0 ≤ j ∧ j < cols) :
    ∃ r ∈ g, ∃ v ∈ r, fromEitherEnd? g i = some r ∧ fromEitherEnd? r j = some v := by
  obtain ⟨i, rfl⟩ := Int.eq_ofNat_of_zero_le hi.1
  obtain ⟨j, rfl⟩ := Int.eq_ofNat_of_zero_le hj.1
  have hrow : i < g.length := by
    rw [h.1]
    omega
  have hcol : j < g[i].length := by
    rw [h.2 _ (List.getElem_mem hrow)]
    omega
  refine ⟨g[i], List.getElem_mem hrow, g[i][j], List.getElem_mem hcol, ?_, ?_⟩
  · rw [fromEitherEnd?_ofNat, List.getElem?_eq_getElem hrow]
  · rw [fromEitherEnd?_ofNat, List.getElem?_eq_getElem hcol]

theorem fits_ofInts {rows cols : Nat} {values : List (List Int)} (h : Fits rows cols values) :
    Fits rows cols (ofInts values) := by
  refine ⟨(List.length_map _).trans h.1, ?_⟩
  intro r hr
  obtain ⟨r', hr', rfl⟩ := List.mem_map.mp hr
  exact (List.length_map _).trans (h.2 r' hr')

theorem mem_ofInts {values : List (List Int)} {r : List Json} (hr : r ∈ ofInts values) :
    ∀ v ∈ r, ∃ n, v = .num n := by
  intro v hv
  obtain ⟨r', _, rfl⟩ := List.mem_map.mp hr
  obtain ⟨n, _, rfl⟩ := List.mem_map.mp hv
  exact ⟨.int n, rfl⟩

/-- A row of a grid with one cell changed is a row of the grid, or one of them with one item
changed. -/
theorem mem_set {g : Grid} {i j : Int} {v : Json} {r : List Json} (h : r ∈ g.set i j v) :
    r ∈ g ∨ ∃ r' ∈ g, r = r'.set j.toNat v := by
  unfold set at h
  split at h
  · obtain ⟨k, hk, rfl⟩ := List.mem_iff_getElem.mp h
    rw [List.length_modify] at hk
    rw [List.getElem_modify]
    split
    · exact Or.inr ⟨g[k], List.getElem_mem hk, rfl⟩
    · exact Or.inl (List.getElem_mem hk)
  · exact Or.inl h

theorem fits_set {rows cols : Nat} {g : Grid} (h : Fits rows cols g) (i j : Int) (v : Json) :
    Fits rows cols (g.set i j v) := by
  constructor
  · unfold set
    split
    · rw [List.length_modify, h.1]
    · exact h.1
  · intro r hr
    rcases mem_set hr with hr | ⟨r', hr', rfl⟩
    · exact h.2 r hr
    · rw [List.length_set, h.2 r' hr']

end Grid

namespace Matrix

variable {m : Matrix}

theorem full_of_fits {rows cols : Nat} (hr : 0 < rows) (hc : 0 < cols)
    (hrows : m.rows = .num (.int rows)) (hcols : m.cols = .num (.int cols))
    (hfits : Grid.Fits rows cols m.values) (hnum : ∀ r ∈ m.values, ∀ v ∈ r, ∃ n, v = .num n) :
    m.Full where
  shape := ⟨rows, cols, hr, hc, hrows, hcols, hfits⟩
  numbers := hnum
  present := by
    intro i j hcell
    obtain ⟨_, _, values, position⟩ := m
    subst hrows hcols
    rw [← sized, contains_sized] at hcell
    simp only [Except.ok.injEq, Bool.and_eq_true, decide_eq_true_eq] at hcell
    obtain ⟨r, hr, v, hv, hrow, hcol⟩ := Grid.exists_of_fits hfits hcell.1 hcell.2
    obtain ⟨n, rfl⟩ := hnum r hr v hv
    refine ⟨n, ?_⟩
    simp [value?, Json.asIndex, hrow, hcol, bind, Except.bind, pure, Except.pure]

theorem full_sized {rows cols : Int} {values : List (List Int)} (p : Point Float) (hr : 0 < rows)
    (hc : 0 < cols) (hfits : Grid.Fits rows.toNat cols.toNat values) :
    (sized rows cols (Grid.ofInts values) p).Full := by
  have hrows : ((rows.toNat : Nat) : Int) = rows := Int.toNat_of_nonneg (Int.le_of_lt hr)
  have hcols : ((cols.toNat : Nat) : Int) = cols := Int.toNat_of_nonneg (Int.le_of_lt hc)
  have hr' : 0 < rows.toNat := by omega
  have hc' : 0 < cols.toNat := by omega
  exact full_of_fits hr' hc' (by rw [hrows]; rfl) (by rw [hcols]; rfl) (Grid.fits_ofInts hfits)
    fun _ => Grid.mem_ofInts

theorem Full.withPosition (h : m.Full) (p : Point Float) : (m.withPosition p).Full :=
  ⟨h.shape, h.numbers, h.present⟩

theorem Full.withValue (h : m.Full) (row col : Json) (v : Number) :
    (m.withValue row col (.num v)).Full := by
  unfold Matrix.withValue
  split
  · rename_i i j _ _
    obtain ⟨rows, cols, hr, hc, hrows, hcols, hfits⟩ := h.shape
    refine full_of_fits hr hc hrows hcols (Grid.fits_set hfits i j _) ?_
    intro r hmem x hx
    rcases Grid.mem_set hmem with hmem | ⟨r', hmem', rfl⟩
    · exact h.numbers r hmem x hx
    · rcases List.mem_or_eq_of_mem_set hx with hx | rfl
      · exact h.numbers r' hmem' x hx
      · exact ⟨v, rfl⟩
  · exact h

end Matrix

/-! ## 2. Well-formed drawings -/

theorem Name.isNameChar_of_isDigit {c : Char} (h : c.isDigit) : Name.isNameChar c := by
  simp only [Char.isDigit, Bool.and_eq_true, decide_eq_true_eq] at h
  have hdigit : '0' ≤ c ∧ c ≤ '9' := h
  simp [Name.isNameChar, hdigit.1, hdigit.2]

theorem Change.toList_copyName (name : String) (k : Nat) :
    ∃ cs, (copyName name k).toList = name.toList ++ ("_copy".toList ++ cs) ∧
      ∀ c ∈ cs, c.isDigit := by
  unfold copyName
  split
  · exact ⟨[], by simp, by simp⟩
  · refine ⟨(toString (k + 1)).toList, by simp, ?_⟩
    intro c hc
    rw [Nat.toString_eq_repr, Nat.toList_repr] at hc
    exact Nat.isDigit_of_mem_toDigits (by decide) (by decide) hc

/-- No reserved word has an underscore, and the name of a copy has one. -/
theorem Change.copyName_free (name : String) (k : Nat) : copyName name k ∉ Name.reserved := by
  intro hmem
  have hreserved : ∀ s ∈ Name.reserved, '_' ∉ s.toList := by simp [Name.reserved]
  obtain ⟨cs, hcs, _⟩ := toList_copyName name k
  exact hreserved _ hmem (by simp [hcs])

/-- The name that a copy is given is well-formed if the name of the original is. -/
theorem Name.WellFormed.copyName {name : String} (h : Name.WellFormed name) (k : Nat) :
    Name.WellFormed (Change.copyName name k) := by
  obtain ⟨cs, hcs, hdigits⟩ := Change.toList_copyName name k
  refine ⟨by simp [hcs], ?_, Change.copyName_free name k⟩
  intro c hc
  rw [hcs] at hc
  rcases List.mem_append.mp hc with hc | hc
  · exact h.chars c hc
  · rcases List.mem_append.mp hc with hc | hc
    · have hcopy : ∀ c ∈ "_copy".toList, Name.isNameChar c := by simp [Name.isNameChar]
      exact hcopy c hc
    · exact Name.isNameChar_of_isDigit (hdigits c hc)

namespace Drawing

/-- A drawing all of whose matrices have well-formed names and are full, and that speaks of no
others. -/
structure WellFormed (d : Drawing) : Prop where
  names : ∀ e ∈ d.matrices.entries, ∃ name, e.1 = .str name ∧ Name.WellFormed name
  full : ∀ e ∈ d.matrices.entries, e.2.Full
  arrows : ∀ a ∈ d.arrows, d.matrices.has a.source.matrix ∧ d.matrices.has a.target.matrix
  tints : ∀ t ∈ d.tints, d.matrices.has t.cell.matrix

theorem wellFormed_empty : WellFormed {} :=
  ⟨List.forall_mem_nil _, List.forall_mem_nil _, List.forall_mem_nil _, List.forall_mem_nil _⟩

variable {d d' : Drawing}

/-- The names that are not equal to a text are still taken when it is gone. -/
theorem has_others {s : String} {name : Json} (hn : d.matrices.has name)
    (hne : name.equals (.str s) = false) : (d.others (.str s)).has name := by
  rw [Json.equals_str, BEq.comm] at hne
  rw [others_str, Roster.has_erase, hn, hne]
  rfl

/-- What speaks of a matrix that was there speaks of one after a renaming. -/
theorem has_of_renamed {old : String} {new : Json} {m : Matrix} {r : CellRef}
    (hr : d.matrices.has r.matrix) :
    ((d.others (.str old)).put new m).has (r.renamed (.str old) new).matrix := by
  rw [Roster.has_put, CellRef.renamed]
  split
  · simp
  · rename_i hne
    rw [has_others hr (by simpa using hne), Bool.or_true]

theorem mem_of_mem_tintsElsewhere {r : CellRef} {ts : List Tint} {t : Tint}
    (h : t ∈ tintsElsewhere r ts) : t ∈ ts :=
  (List.mem_filter.mp h).1

namespace WellFormed

/-- What a matrix is found under is its name. -/
theorem of_find? (h : d.WellFormed) {name : Json} {m : Matrix}
    (hm : d.matrices.find? name = some m) :
    m.Full ∧ ∃ s, name = .str s ∧ Name.WellFormed s := by
  obtain ⟨key, hmem, hkey⟩ := Keyed.mem_of_find? hm
  obtain ⟨s, rfl, hs⟩ := h.names _ hmem
  exact ⟨h.full _ hmem, s, Json.eq_str_of_beq (BEq.symm hkey), hs⟩

theorem of_has (h : d.WellFormed) {name : Json} (hn : d.matrices.has name) :
    ∃ s, name = .str s ∧ Name.WellFormed s :=
  (h.of_find? (Option.isSome_iff_exists.mp hn).choose_spec).2

theorem put (h : d.WellFormed) {name : String} {m : Matrix} (hname : Name.WellFormed name)
    (hm : m.Full) : WellFormed { d with matrices := d.matrices.put (.str name) m } where
  names := by
    intro e he
    rcases Keyed.mem_put he with he | ⟨_, hkey | hkey⟩
    · exact h.names e he
    · exact ⟨name, hkey, hname⟩
    · obtain ⟨e', he', hkey⟩ := List.mem_map.mp hkey
      exact hkey ▸ h.names e' he'
  full := by
    intro e he
    rcases Keyed.mem_put he with he | ⟨hm', _⟩
    · exact h.full e he
    · exact hm' ▸ hm
  arrows := by
    intro a ha
    simp only [Roster.has_put, Bool.or_eq_true]
    exact ⟨Or.inr (h.arrows a ha).1, Or.inr (h.arrows a ha).2⟩
  tints := by
    intro t ht
    simp only [Roster.has_put, Bool.or_eq_true]
    exact Or.inr (h.tints t ht)

theorem replace (h : d.WellFormed) {name : Json} {m m' : Matrix}
    (hm : d.matrices.find? name = some m) (hm' : m.Full → m'.Full) :
    WellFormed { d with matrices := d.matrices.put name m' } := by
  obtain ⟨hfull, s, rfl, hs⟩ := h.of_find? hm
  exact h.put hs (hm' hfull)

theorem withArrows (h : d.WellFormed) {as : List Arrow}
    (has : ∀ a ∈ as, a ∈ d.arrows ∨ d.HasCell a.source ∧ d.HasCell a.target) :
    WellFormed { d with arrows := as } where
  names := h.names
  full := h.full
  arrows := by
    intro a ha
    rcases has a ha with hold | ⟨hsource, htarget⟩
    · exact h.arrows a hold
    · exact ⟨hsource.has, htarget.has⟩
  tints := h.tints

theorem withTints (h : d.WellFormed) {ts : List Tint}
    (hts : ∀ t ∈ ts, t ∈ d.tints ∨ d.matrices.has t.cell.matrix) :
    WellFormed { d with tints := ts } where
  names := h.names
  full := h.full
  arrows := h.arrows
  tints := fun t ht => (hts t ht).elim (h.tints t) id

theorem delete (h : d.WellFormed) {name : Json} (hn : d.matrices.has name) :
    WellFormed
      { matrices := d.others name
        arrows := d.arrows.filter fun a => !a.touches name
        tints := d.tints.filter fun t => !t.cell.matrix.equals name } := by
  -- the name is a text, and so the matrices that stay are those of the other names
  obtain ⟨s, rfl, _⟩ := h.of_has hn
  have hsub : ∀ e ∈ (d.others (.str s)).entries, e ∈ d.matrices.entries := by
    intro e he
    rw [others_str] at he
    exact (List.mem_filter.mp he).1
  refine ⟨fun e he => h.names e (hsub e he), fun e he => h.full e (hsub e he), ?_, ?_⟩
  · intro a ha
    obtain ⟨ha, htouch⟩ := List.mem_filter.mp ha
    simp only [Arrow.touches, Bool.not_eq_true', Bool.or_eq_false_iff] at htouch
    exact ⟨has_others (h.arrows a ha).1 htouch.1, has_others (h.arrows a ha).2 htouch.2⟩
  · intro t ht
    obtain ⟨ht, hcell⟩ := List.mem_filter.mp ht
    exact has_others (h.tints t ht) (by simpa using hcell)

end WellFormed

/-- **Every edit keeps a drawing well-formed.** -/
theorem Edit.wellFormed (he : Edit d d') (h : d.WellFormed) : d'.WellFormed := by
  cases he with
  | define p hname hr hc hfits => exact h.put hname (Matrix.full_sized p hr hc hfits)
  | move p hm => exact h.replace hm fun hfull => hfull.withPosition p
  | copy p hm hnew =>
    obtain ⟨hfull, s, rfl, hs⟩ := h.of_find? hm
    rcases hnew with rfl | ⟨k, rfl⟩
    · exact h.put hs (hfull.withPosition p)
    · exact h.put (hs.copyName k) (hfull.withPosition p)
  | setValue v hm => exact h.replace hm fun hfull => hfull.withValue _ _ v
  | delete hn => exact h.delete hn
  | addArrow hsource htarget =>
    apply h.withArrows
    intro a ha
    rcases List.mem_append.mp ha with ha | ha
    · exact Or.inl ha
    · obtain rfl := List.mem_singleton.mp ha
      exact Or.inr ⟨hsource, htarget⟩
  | setArrow i hsource htarget =>
    apply h.withArrows
    intro a ha
    rcases List.mem_or_eq_of_mem_set ha with ha | rfl
    · exact Or.inl ha
    · exact Or.inr ⟨hsource, htarget⟩
  | eraseArrow i => exact h.withArrows fun a ha => Or.inl (List.mem_of_mem_eraseIdx ha)
  | putTint hcell =>
    apply h.withTints
    intro t ht
    rcases List.mem_append.mp ht with ht | ht
    · exact Or.inl (mem_of_mem_tintsElsewhere ht)
    · obtain rfl := List.mem_singleton.mp ht
      exact Or.inr hcell
  | setTint i hcell =>
    apply h.withTints
    intro t ht
    rcases List.mem_append.mp ht with ht | ht
    · exact Or.inl (List.mem_of_mem_take (mem_of_mem_tintsElsewhere ht))
    · rcases List.mem_cons.mp ht with rfl | ht
      · exact Or.inr hcell.has
      · exact Or.inl (List.mem_of_mem_drop (mem_of_mem_tintsElsewhere ht))
  | dropTints hts => exact h.withTints fun t ht => Or.inl (hts.mem ht)

/-- **Giving a matrix another name keeps a drawing well-formed**, whether the name was free or
taken. -/
theorem wellFormed_rename {old : Json} {new : String} (h : d.WellFormed)
    (hnew : Name.WellFormed new) (hr : d.rename old (.str new) = .ok (some d')) :
    d'.WellFormed := by
  obtain ⟨m, hm, _, rfl⟩ := rename_eq_some hr
  obtain ⟨hfull, s, rfl, _⟩ := h.of_find? hm
  -- the matrices are those of the drawing without the old name, with the matrix put under the new
  have hrest : WellFormed { matrices := d.others (.str s) } :=
    ⟨(h.delete (has_of_find? hm)).names, (h.delete (has_of_find? hm)).full,
      List.forall_mem_nil _, List.forall_mem_nil _⟩
  have hput := hrest.put hnew hfull
  refine ⟨hput.names, hput.full, ?_, ?_⟩
  · intro a ha
    obtain ⟨a', ha', rfl⟩ := List.mem_map.mp ha
    exact ⟨has_of_renamed (h.arrows a' ha').1, has_of_renamed (h.arrows a' ha').2⟩
  · intro t ht
    obtain ⟨t', ht', rfl⟩ := List.mem_map.mp ht
    exact has_of_renamed (h.tints t' ht')

/-- A drawing is not well-formed once a matrix without rows is put. -/
theorem not_wellFormed_put {name : Json} {rows cols : Int} {p : Point Float} :
    ¬ WellFormed { d with matrices := d.matrices.put name (.sized rows cols [] p) } := by
  intro h
  have hfind : (d.matrices.put name (.sized rows cols [] p)).find? name =
      some (.sized rows cols [] p) := by simp
  obtain ⟨r, _, hr, _, _, _, hlen, _⟩ := (h.of_find? hfind).1.shape
  exact Nat.ne_of_lt hr hlen

end Drawing

/-! ## 3. Sessions -/

theorem Scene.wellFormed_initial : Scene.initial.WellFormed := by
  obtain ⟨hA, hB⟩ := Name.wellFormed_initial
  have hfits : Grid.Fits 3 3 (Grid.filled .sequential 3 3) := Grid.fits_filled _ _ _
  have hfull : ∀ p, (Matrix.sized 3 3 (Grid.ofInts (Grid.filled .sequential 3 3)) p).Full :=
    fun p => Matrix.full_sized p (by decide) (by decide) hfits
  have hmatrices := (Drawing.wellFormed_empty.put hA (hfull ⟨0.0, 0.0⟩)).put hB (hfull ⟨5.0, 0.0⟩)
  exact ⟨hmatrices.names, hmatrices.full,
    by simp [initial, CellRef.ofText, Roster.has_put],
    by simp [initial, CellRef.ofText, Roster.has_put]⟩

namespace Session

variable {K : Type}

/-- The operation submits a hollow form, and it is let through. -/
def Hollows (s : Session K) (op : Op K) : Prop :=
  ∃ form noise change, op = .act (.define form noise) ∧ form.Hollow ∧
    Change.define s.scene form noise = .ok change

variable [Coordinate K]

theorem wellFormed_step {s : Session K} {op : Op K} (hread : op.reads = false)
    (hs : s.Keeps Drawing.WellFormed) (hop : ¬ s.Hollows op) :
    (s.step op).session.Keeps Drawing.WellFormed := by
  refine keeps_step hs (brings_of_edits ?_ ?_ ?_ ?_ ?_ ?_)
  · exact fun h => h.keeps Drawing.Edit.wellFormed hs.1
  · intro old field change new _ h hnew
    obtain ⟨name, hname, hrename⟩ := Change.rename_eq_some h hnew
    exact Drawing.wellFormed_rename hs.1 (Name.clean_wellFormed hname) hrename
  · intro form noise change new hdef hollow h _
    exact absurd ⟨form, noise, change, hdef, hollow, h⟩ hop
  · exact Scene.wellFormed_initial
  · exact Drawing.wellFormed_empty
  · intro data d hyes _
    rw [hread] at hyes
    exact nomatch hyes

theorem ill_formed_of_hollows {s : Session K} {op : Op K} (hop : s.Hollows op) :
    ¬ (s.step op).session.Keeps Drawing.WellFormed := by
  obtain ⟨form, noise, change, rfl, hollow, h⟩ := hop
  obtain ⟨name, values, rows, cols, p, _, hvalues, _, _, hscene⟩ := Change.define_eq_ok h
  rw [hollow.newValues_eq] at hvalues
  obtain rfl := Except.ok.inj hvalues
  -- the drawing that the step commits has the matrix without rows in it
  intro hkeeps
  have hdrawing := hkeeps.1
  rw [step_event] at hdrawing
  simp only [event, actEvent, Action.apply, h, hscene, Event.effect] at hdrawing
  exact Drawing.not_wellFormed_put hdrawing

/-- **As long as no document is read, every drawing of a session and of its history is well-formed,
exactly as long as no hollow form is submitted.** -/
theorem wellFormed_iff (ops : List (Op K)) (hread : ∀ op ∈ ops, op.reads = false) :
    (∀ s ∈ (opening : Session K).states ops, s.Keeps Drawing.WellFormed) ↔
      ∀ e ∈ (opening : Session K).turns ops, ¬ e.1.Hollows e.2 := by
  refine states_iff (I := fun s => s.Keeps Drawing.WellFormed) ?_ ?_ ?_
    (keeps_start Scene.wellFormed_initial) hread
  · intro s hs
    exact hs
  · intro s op hop hs hkept
    exact wellFormed_step hop hs hkept
  · intro s op _ hop
    exact ill_formed_of_hollows hop

/-- Gives a matrix a name that is taken, and takes that back. -/
def renameAndBack : List (Op K) :=
  [.act (.rename (.str "A") (.str "B")), .undo]

theorem wellFormed_renameAndBack :
    (∀ op ∈ (renameAndBack : List (Op Rat)), op.reads = false) ∧
      ∀ s ∈ (opening : Session Rat).states renameAndBack, s.Keeps Drawing.WellFormed := by
  have hread : ∀ op ∈ (renameAndBack : List (Op Rat)), op.reads = false := by
    simp [renameAndBack, Op.reads]
  refine ⟨hread, (wellFormed_iff renameAndBack hread).mpr ?_⟩
  simp [renameAndBack, turns, Hollows]

/-- A form for a diagonal as large as the greatest word. -/
def hollowForm : MatrixForm where
  name := .str "D"
  rows := .num (.int 9223372036854775807)
  cols := .num (.int 9223372036854775807)
  kind := .str "diagonal"

/-- A hollow form is let through as soon as its name and its place are. -/
theorem exists_define_of_hollow {s : Scene} {form : MatrixForm} {name : String} {x y : Float}
    (hollow : form.Hollow) (hname : Name.clean form.name = .ok name)
    (hx : form.x.asFloat = .ok x) (hy : form.y.asFloat = .ok y) (noise : Noise) :
    ∃ change, Change.define s form noise = .ok change := by
  have hfree := (Name.clean_wellFormed hname).checkReserved
  have hvalues := hollow.newValues_eq noise
  obtain ⟨_, n, hrows, hcols, _⟩ := hollow
  simp [Change.define, hname, hvalues, hrows, hcols, hx, hy, Drawing.putMatrix, hfree,
    bind, Except.bind, pure, Except.pure]

/-- After one action of the first session its drawing declares a matrix without rows. -/
theorem ill_formed_after_hollow :
    ¬ ∀ s ∈ (opening : Session Rat).states [.act (.define hollowForm fun _ _ => 0)],
      s.Keeps Drawing.WellFormed := by
  intro h
  have hmax : Grid.maxWord = 9223372036854775807 := rfl
  have hollow : hollowForm.Hollow := ⟨rfl, 9223372036854775807, rfl, rfl, by omega, by omega⟩
  have hclean : Name.clean hollowForm.name = .ok "D" := rfl
  obtain ⟨change, hchange⟩ := exists_define_of_hollow (s := (opening : Session Rat).scene) hollow
    hclean rfl rfl fun _ _ => 0
  exact ill_formed_of_hollows ⟨_, _, change, rfl, hollow, hchange⟩ (h _ (by simp [states]))

end Session

end GridSketch
