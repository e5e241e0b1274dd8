import GridSketch.Document.Reader
import GridSketch.Document.Writer
import GridSketch.Proofs.Decimal.Shortest
import GridSketch.Proofs.Session.Tints

/-!
# Saving and reopening

What is written is read back: the matrices in their order with their declared sizes, values and
places, the arrows in their order, and the tints in theirs. That is so for every drawing made of
what documents can say (`Drawing.Storable`), whatever its arrows point at and however long the rows
of its grids are, with one exception. A declared size of zero is written as zero, and a zero in a
document is no size: the reader counts the values instead. So a drawing comes back with its sizes
counted anew where they were zero (`read_write`), and comes back as it was where none of them was
zero (`read_write_of_declared`).

The reader itself can give such a size. A text or a fraction that stands for zero is a member that
is there, and it is taken for the number zero only after that is settled. Everything else that it
gives is storable (`storable_read`), so `reopened_iff` says exactly which documents come back
otherwise than they were opened, and that they do so no more than once.
-/

set_option autoImplicit false

namespace GridSketch

/-! ## 1. What documents can say -/

namespace Roster

variable {κ α : Type} [BEq κ]

/-- The entries under the same keys, each changed. -/
def map {β : Type} (f : α → β) (r : Roster κ α) : Roster κ β :=
  ⟨r.entries.map fun e => (e.1, f e.2), by
    rw [Keyed.keys, List.map_map]
    exact r.distinct⟩

theorem map_eq_self_iff {f : α → α} {r : Roster κ α} :
    r.map f = r ↔ ∀ e ∈ r.entries, f e.2 = e.2 := by
  have hentry : ∀ e : κ × α, (e.1, f e.2) = id e ↔ f e.2 = e.2 :=
    fun e => ⟨fun heq => congrArg Prod.snd heq, fun heq => Prod.ext rfl heq⟩
  rw [Roster.ext_iff, map]
  nth_rewrite 2 [← List.map_id r.entries]
  rw [List.map_inj_left]
  exact forall₂_congr fun e _ => hentry e

end Roster

/-- A text that is not empty. -/
def Json.IsWord (j : Json) : Prop :=
  ∃ s, s ≠ "" ∧ j = .str s

/-- A cell by a text and two integers, of a matrix that may or may not be there. -/
def CellRef.Storable (r : CellRef) : Prop :=
  ∃ name row col, r = .ofText name row col

structure Arrow.Storable (a : Arrow) : Prop where
  source : a.source.Storable
  target : a.target.Storable
  colour : a.colour.IsWord
  style : a.style.IsWord
  width : ∃ x, a.width = .num (.float x)
  label : a.label = .null ∨ a.label.IsWord

structure Tint.Storable (t : Tint) : Prop where
  cell : t.cell.Storable
  colour : ∃ s, t.colour = .str s

/-- The declared size is a pair of integers, of any sign. -/
def Matrix.Storable (m : Matrix) : Prop :=
  ∃ rows cols, m = .sized rows cols m.values m.position

/-- Made of what documents can say. -/
structure Drawing.Storable (d : Drawing) : Prop where
  names : ∀ e ∈ d.matrices.entries, e.1.IsWord
  matrices : ∀ e ∈ d.matrices.entries, e.2.Storable
  arrows : ∀ a ∈ d.arrows, a.Storable
  tints : ∀ t ∈ d.tints, t.Storable
  apart : d.OneTintPerCell

/-! ### Sizes that are counted anew -/

namespace Matrix

/-- A size that is counted where it is zero. -/
def recount (size : Int) (count : Nat) : Int :=
  if size = 0 then count else size

theorem recount_recount (size : Int) (count : Nat) :
    recount (recount size count) count = recount size count := by
  unfold recount
  by_cases hsize : size = 0
  · simp [hsize]
  · simp [hsize]

theorem recount_eq_self_iff {size : Int} {count : Nat} :
    recount size count = size ↔ (size = 0 → count = 0) := by
  unfold recount
  by_cases hsize : size = 0
  · simp [hsize]
  · simp [hsize]

/-- The matrix with its values counted where its declared size is bare. -/
def recounted (m : Matrix) : Matrix :=
  { m with
    rows := if m.rows.isBare then .num (.int m.values.length) else m.rows
    cols := if m.cols.isBare then .num (.int (m.values.head?.getD []).length) else m.cols }

/-- A size of zero is declared only where there is nothing. -/
structure Counted (m : Matrix) : Prop where
  rows : m.rows = .num (.int 0) → m.values.length = 0
  cols : m.cols = .num (.int 0) → (m.values.head?.getD []).length = 0

theorem recounted_sized (rows cols : Int) (g : Grid) (p : Point Float) :
    (sized rows cols g p).recounted =
      sized (recount rows g.length) (recount cols (g.head?.getD []).length) g p := by
  simp only [recounted, recount, sized, Json.isBare, Number.isZero, beq_iff_eq,
    ← apply_ite Number.int, ← apply_ite Json.num]

theorem counted_sized (rows cols : Int) (g : Grid) (p : Point Float) :
    (sized rows cols g p).Counted ↔
      (rows = 0 → g.length = 0) ∧ (cols = 0 → (g.head?.getD []).length = 0) := by
  constructor
  · intro h
    exact ⟨fun hrows => h.rows (by rw [hrows]; rfl), fun hcols => h.cols (by rw [hcols]; rfl)⟩
  · rintro ⟨hrows, hcols⟩
    constructor
    · intro hzero
      simp only [sized, Json.num.injEq, Number.int.injEq] at hzero
      exact hrows hzero
    · intro hzero
      simp only [sized, Json.num.injEq, Number.int.injEq] at hzero
      exact hcols hzero

theorem Storable.recounted {m : Matrix} (h : m.Storable) : m.recounted.Storable := by
  obtain ⟨rows, cols, hm⟩ := h
  rw [hm, recounted_sized]
  exact ⟨_, _, rfl⟩

theorem recounted_recounted {m : Matrix} (h : m.Storable) : m.recounted.recounted = m.recounted := by
  obtain ⟨rows, cols, hm⟩ := h
  rw [hm, recounted_sized, recounted_sized, recount_recount, recount_recount]

theorem recounted_eq_iff {m : Matrix} (h : m.Storable) : m.recounted = m ↔ m.Counted := by
  obtain ⟨rows, cols, hm⟩ := h
  rw [hm, recounted_sized, counted_sized, ← recount_eq_self_iff, ← recount_eq_self_iff]
  simp [sized]

end Matrix

namespace Drawing

/-- The drawing with the size of each matrix counted where it is bare. -/
def recounted (d : Drawing) : Drawing :=
  { d with matrices := d.matrices.map Matrix.recounted }

theorem Storable.recounted {d : Drawing} (h : d.Storable) : d.recounted.Storable where
  names := by
    intro e he
    obtain ⟨e', he', rfl⟩ := List.mem_map.mp he
    exact h.names e' he'
  matrices := by
    intro e he
    obtain ⟨e', he', rfl⟩ := List.mem_map.mp he
    exact (h.matrices e' he').recounted
  arrows := h.arrows
  tints := h.tints
  apart := h.apart

theorem recounted_eq_iff {d : Drawing} (h : d.Storable) :
    d.recounted = d ↔ ∀ e ∈ d.matrices.entries, e.2.Counted := by
  have hmatrices : d.recounted = d ↔ d.matrices.map Matrix.recounted = d.matrices :=
    ⟨fun heq => congrArg matrices heq, fun heq => by rw [recounted, heq]⟩
  rw [hmatrices, Roster.map_eq_self_iff]
  exact forall₂_congr fun e he => Matrix.recounted_eq_iff (h.matrices e he)

theorem recounted_recounted {d : Drawing} (h : d.Storable) :
    d.recounted.recounted = d.recounted := by
  have hmatrices : d.recounted.matrices.map Matrix.recounted = d.recounted.matrices := by
    rw [Roster.map_eq_self_iff]
    intro e he
    obtain ⟨e', he', rfl⟩ := List.mem_map.mp he
    exact Matrix.recounted_recounted (h.matrices e' he')
  rw [recounted, hmatrices]

end Drawing

/-! ## 2. What is written is read -/

namespace Document

theorem readReference_of_member {record : Json} {key : String} {r : CellRef} (what : String)
    (h : record.member? key = some (writeReference r)) (hr : r.Storable) :
    readReference record key what = .ok r := by
  obtain ⟨name, row, col, rfl⟩ := hr
  simp only [readReference, h, writeReference, CellRef.ofText, Option.bind_some, threeParts?]
  rfl

theorem given?_of_member {record j : Json} {key : String} (h : record.member? key = some j) :
    given? record key = if j.isBare then none else some j := by
  rw [given?, h, Option.filter_some]
  cases j.isBare <;> rfl

theorem isBare_word {s : String} (h : s ≠ "") : (Json.str s).isBare = false := by
  simpa [Json.isBare] using h

theorem textOr_of_word {record j : Json} {key : String} (default : String)
    (h : record.member? key = some j) (hj : j.IsWord) : textOr record key default = j := by
  obtain ⟨s, hs, rfl⟩ := hj
  rw [textOr, given?_of_member h, isBare_word hs]
  rfl

theorem member?_writeArrow {a : Arrow} :
    (writeArrow a).member? "source" = some (writeReference a.source) ∧
      (writeArrow a).member? "target" = some (writeReference a.target) ∧
      (writeArrow a).member? "color" = some a.colour ∧
      (writeArrow a).member? "style" = some a.style ∧
      (writeArrow a).member? "width" = some a.width ∧
      (writeArrow a).member? "label" = if a.label.isBare then none else some a.label := by
  cases h : a.label.isBare <;> simp [writeArrow, writeLabel, Json.member?, Keyed.find?, h]

theorem readArrow_write {a : Arrow} (h : a.Storable) : readArrow (writeArrow a) = .ok a := by
  obtain ⟨hsource, htarget, hcolour, hstyle, hwidth, hlabel⟩ := @member?_writeArrow a
  obtain ⟨x, hx⟩ := h.width
  have hreadWidth : readWidth (writeArrow a) = .ok x := by
    rw [readWidth, hwidth, hx]
    rfl
  have hreadLabel : ((given? (writeArrow a) "label").map fun j => Json.str j.shown).getD .null =
      a.label := by
    rcases h.label with hnone | ⟨s, hs, hword⟩
    · rw [given?, hlabel, hnone]
      rfl
    · rw [hword, isBare_word hs] at hlabel
      rw [given?_of_member hlabel, hword, isBare_word hs]
      rfl
  obtain ⟨members, hmembers⟩ : ∃ members, writeArrow a = .obj members := ⟨_, rfl⟩
  rw [hmembers] at hsource htarget hcolour hstyle hreadWidth hreadLabel ⊢
  simp only [readArrow, hreadWidth, readReference_of_member _ hsource h.source,
    readReference_of_member _ htarget h.target, textOr_of_word _ hcolour h.colour,
    textOr_of_word _ hstyle h.style, hreadLabel, bind, Except.bind, pure, Except.pure]
  rw [← hx]

theorem readArrows_write {arrows : List Arrow} (h : ∀ a ∈ arrows, a.Storable) :
    (arrows.map writeArrow).mapM readArrow = .ok arrows := by
  induction arrows with
  | nil => rfl
  | cons a rest ih =>
    rw [List.forall_mem_cons] at h
    simp only [List.map_cons, List.mapM_cons, readArrow_write h.1, ih h.2]
    rfl

theorem readTint_write {t : Tint} (h : t.Storable) : readTint (writeTint t) = .ok t := by
  obtain ⟨name, row, col, hcell⟩ := h.cell
  obtain ⟨s, hcolour⟩ := h.colour
  have ht : t = ⟨.ofText name row col, .str s⟩ := by rw [← hcell, ← hcolour]
  rw [ht]
  simp [readTint, writeTint, CellRef.ofText, Json.member?, Keyed.find?, demand, blame, Json.shown,
    bind, Except.bind, pure, Except.pure]

/-- A tint on a cell that has none is put last. -/
theorem putTint_of_apart {d : Drawing} {t : Tint} (h : ∀ u ∈ d.tints, (u.cell == t.cell) = false) :
    d.putTint t = { d with tints := d.tints ++ [t] } := by
  have hall : Drawing.tintsElsewhere t.cell d.tints = d.tints := by
    rw [Drawing.tintsElsewhere, List.filter_eq_self]
    intro u hu
    rw [h u hu]
    rfl
  rw [Drawing.putTint, hall]

/-- Tints are read one after the other, each onto a cell that has none yet. -/
theorem readTints_write {ts : List Tint} {d : Drawing} (h : ∀ t ∈ ts, t.Storable)
    (hapart : (d.tints ++ ts).Pairwise fun t u => (t.cell == u.cell) = false) :
    readTints d (ts.map writeTint) = .ok { d with tints := d.tints ++ ts } := by
  induction ts generalizing d with
  | nil => simp [readTints]
  | cons t rest ih =>
    rw [List.forall_mem_cons] at h
    have hfree : ∀ u ∈ d.tints, (u.cell == t.cell) = false := by
      intro u hu
      exact (List.pairwise_append.mp hapart).2.2 u hu t List.mem_cons_self
    rw [List.append_cons] at hapart ⊢
    rw [List.map_cons, readTints, readTint_write h.1]
    change readTints (d.putTint t) (rest.map writeTint) = _
    rw [putTint_of_apart hfree, ih h.2 hapart]

/-! ### Matrices -/

theorem rows?_write (g : Grid) : rows? (.arr (g.map .arr)) = some g := by
  rw [rows?]
  induction g with
  | nil => rfl
  | cons row rest ih => simp [ih]

theorem readCount_of_member {record : Json} {key : String} {n : Int} (flaw : DocumentFlaw)
    (default : Nat) (h : record.member? key = some (.num (.int n))) :
    readCount flaw record key default = .ok (Matrix.recount n default) := by
  rw [readCount, given?_of_member h, Json.isBare, Number.isZero, Matrix.recount]
  by_cases hn : n = 0
  · simp [hn]
  · simp [hn, blame]

theorem readCoordinate_of_item {position : Json} {i : Nat} {x : Float} (flaw : DocumentFlaw)
    (h : position.item i = .ok (.num (.float x))) : readCoordinate flaw position i = .ok x := by
  rw [readCoordinate, h]
  rfl

theorem readMatrix_write {m : Matrix} (name : Json) (h : m.Storable) :
    readMatrix (writeMatrix name m) (.arr (m.values.map .arr)) = .ok m.recounted := by
  obtain ⟨rows, cols, hm⟩ := h
  have hrows : (writeMatrix name m).member? "rows" = some (.num (.int rows)) := by
    rw [hm]
    simp [writeMatrix, Json.member?, Keyed.find?, Matrix.sized]
  have hcols : (writeMatrix name m).member? "cols" = some (.num (.int cols)) := by
    rw [hm]
    simp [writeMatrix, Json.member?, Keyed.find?, Matrix.sized]
  have hposition : given? (writeMatrix name m) "position" =
      some (.arr [.num (.float m.position.x), .num (.float m.position.y)]) := rfl
  have hx : ∀ flaw, readCoordinate flaw (.arr [.num (.float m.position.x),
      .num (.float m.position.y)]) 0 = .ok m.position.x :=
    fun flaw => readCoordinate_of_item flaw rfl
  have hy : ∀ flaw, readCoordinate flaw (.arr [.num (.float m.position.x),
      .num (.float m.position.y)]) 1 = .ok m.position.y :=
    fun flaw => readCoordinate_of_item flaw rfl
  rw [hm, Matrix.recounted_sized, ← hm]
  simp only [readMatrix, rows?_write, readCount_of_member _ _ hrows, readCount_of_member _ _ hcols,
    hposition, Option.getD_some, hx, hy, demand, bind, Except.bind, pure, Except.pure]

theorem nameAndValues?_write {name : String} (m : Matrix) (h : name ≠ "") :
    nameAndValues? (writeMatrix (.str name) m) = some (name, .arr (m.values.map .arr)) := by
  have hname : given? (writeMatrix (.str name) m) "name" = some (.str name) := by
    rw [given?_of_member (j := .str name) rfl, isBare_word h]
    rfl
  rw [nameAndValues?, hname]
  rfl

/-- Matrices are read one after the other, each under a name that is new. -/
theorem readMatrices_write {es : List (Json × Matrix)} {ms : Roster Json Matrix}
    (hnames : ∀ e ∈ es, e.1.IsWord) (hmatrices : ∀ e ∈ es, e.2.Storable)
    (hdistinct : Keyed.Distinct (ms.names ++ Keyed.keys es)) :
    ∃ ms', readMatrices ms (es.map fun e => writeMatrix e.1 e.2) = .ok ms' ∧
      ms'.entries = ms.entries ++ es.map fun e => (e.1, e.2.recounted) := by
  induction es generalizing ms with
  | nil => exact ⟨ms, rfl, (List.append_nil _).symm⟩
  | cons e rest ih =>
    rw [List.forall_mem_cons] at hnames hmatrices
    obtain ⟨⟨name, hname, hword⟩, hnames⟩ := hnames
    have hfree : ∀ x ∈ Keyed.keys ms.entries, (x == e.1) = false := by
      intro x hx
      exact (List.pairwise_append.mp hdistinct).2.2 x hx e.1 List.mem_cons_self
    have hput : (ms.put e.1 e.2.recounted).entries = ms.entries ++ [(e.1, e.2.recounted)] :=
      Keyed.put_of_new hfree
    have hnext : Keyed.Distinct ((ms.put e.1 e.2.recounted).names ++ Keyed.keys rest) := by
      rw [Roster.names, hput, Keyed.keys, List.map_append, List.append_assoc]
      exact hdistinct
    obtain ⟨ms', hread, hentries⟩ := ih hnames hmatrices.2 hnext
    refine ⟨ms', ?_, ?_⟩
    · rw [List.map_cons, readMatrices, hword, nameAndValues?_write e.2 hname]
      change (readMatrix _ _ >>= _) = _
      rw [readMatrix_write _ hmatrices.1, ← hword]
      exact hread
    · rw [hentries, hput, List.append_assoc]
      rfl

/-! ### Drawings -/

/-- **What is written is read back, with the sizes counted that were zero.** -/
theorem read_write {d : Drawing} (h : d.Storable) : read (write d) = .ok d.recounted := by
  obtain ⟨ms, hread, hentries⟩ := @readMatrices_write d.matrices.entries .empty h.names h.matrices
    d.matrices.distinct
  have hms : ms = d.matrices.map Matrix.recounted := Roster.ext hentries
  have harrows : readList (write d) "arrows" = .ok (d.arrows.map writeArrow) := rfl
  have htints : readList (write d) "coloredCells" = .ok (d.tints.map writeTint) := rfl
  have hrecords : (write d).member? "matrices" =
      some (.arr (d.matrices.entries.map fun e => writeMatrix e.1 e.2)) := rfl
  rw [read, hrecords, harrows, htints]
  change (readMatrices _ _ >>= _) = _
  rw [hread]
  change ((d.arrows.map writeArrow).mapM readArrow >>= _) = _
  rw [readArrows_write h.arrows]
  change readTints _ (d.tints.map writeTint) = _
  rw [@readTints_write d.tints { matrices := ms, arrows := d.arrows } h.tints h.apart, hms]
  rfl

/-- **A drawing of which no matrix is declared with a size of zero is read back as it was.** -/
theorem read_write_of_declared {d : Drawing} (h : d.Storable)
    (hsizes : ∀ e ∈ d.matrices.entries, e.2.rows ≠ .num (.int 0) ∧ e.2.cols ≠ .num (.int 0)) :
    read (write d) = .ok d := by
  have hcounted : ∀ e ∈ d.matrices.entries, e.2.Counted := fun e he =>
    ⟨fun hrows => absurd hrows (hsizes e he).1, fun hcols => absurd hcols (hsizes e he).2⟩
  rw [read_write h, (Drawing.recounted_eq_iff h).mpr hcounted]

/-- Rows of several lengths under a declared size that fits none of them, an arrow to a matrix that
is not there, and two tints outside of every grid. -/
def ragged : Drawing where
  matrices := Roster.empty.put (.str "B") (.sized (-2) 7
    [[.num (.int 1), .num (.float 1.0)], [], [.str "x", .null, .bool false]] ⟨0.5, -3.0⟩)
  arrows :=
    [ { source := .ofText "B" 0 0, target := .ofText "" (-1) 99, colour := .str "red"
        style := .str "-", width := .num (.float 1.5), label := .null } ]
  tints := [⟨.ofText "B" 9 9, .str "blue"⟩, ⟨.ofText "B" (-9) 9, .str ""⟩]

theorem storable_ragged : ragged.Storable where
  names := by
    intro e he
    obtain rfl := List.mem_singleton.mp he
    exact ⟨"B", by decide, rfl⟩
  matrices := by
    intro e he
    obtain rfl := List.mem_singleton.mp he
    exact ⟨-2, 7, rfl⟩
  arrows := by
    intro a ha
    obtain rfl := List.mem_singleton.mp ha
    exact ⟨⟨_, _, _, rfl⟩, ⟨_, _, _, rfl⟩, ⟨"red", by decide, rfl⟩, ⟨"-", by decide, rfl⟩, ⟨1.5, rfl⟩,
      Or.inl rfl⟩
  tints := by
    intro t ht
    simp only [ragged, List.mem_cons, List.not_mem_nil, or_false] at ht
    rcases ht with rfl | rfl
    · exact ⟨⟨"B", 9, 9, rfl⟩, ⟨"blue", rfl⟩⟩
    · exact ⟨⟨"B", -9, 9, rfl⟩, ⟨"", rfl⟩⟩
  apart := by
    have hne : (CellRef.ofText "B" 9 9 == CellRef.ofText "B" (-9) 9) = false := by
      rw [Bool.eq_false_iff, ne_eq, CellRef.ofText_beq_ofText]
      decide
    simp [Drawing.OneTintPerCell, ragged, hne]

theorem read_write_ragged : read (write ragged) = .ok ragged := by
  refine read_write_of_declared storable_ragged ?_
  intro e he
  obtain rfl := List.mem_singleton.mp he
  simp [Matrix.sized]

end Document

/-! ## 3. What is read can be written -/

/-- Of a value that is not bare there is something to show. -/
theorem Json.shown_ne_empty {j : Json} (h : j.isBare = false) : j.shown ≠ "" := by
  cases j with
  | null => exact nomatch h
  | bool b =>
    cases b with
    | false => exact nomatch h
    | true => decide
  | num n =>
    cases n with
    | int n =>
      cases n with
      | ofNat k =>
        intro hnil
        exact absurd (congrArg String.length hnil) (Nat.ne_of_gt Nat.length_repr_pos)
      | negSucc k => simp [shown, quoted, Number.text, toString, Int.repr]
    | float x => exact Decimal.floatText_ne_empty x
  | str s => simpa [isBare, shown] using h
  | arr xs => simp [shown, quoted]
  | obj ms => simp [shown, quoted]

namespace Document

theorem given?_eq_some {record j : Json} {key : String} (h : given? record key = some j) :
    j.isBare = false := by
  simpa using (Option.filter_eq_some_iff.mp h).2

theorem isWord_textOr (record : Json) (key : String) {default : String} (h : default ≠ "") :
    (textOr record key default).IsWord := by
  rw [textOr]
  cases hgiven : given? record key with
  | none => exact ⟨default, h, rfl⟩
  | some j => exact ⟨j.shown, Json.shown_ne_empty (given?_eq_some hgiven), rfl⟩

theorem storable_readReference {record : Json} {key what : String} {r : CellRef}
    (h : readReference record key what = .ok r) : r.Storable := by
  simp only [readReference, bind_eq_ok, pure_eq_ok] at h
  obtain ⟨⟨name, _, _⟩, _, row, _, col, _, rfl⟩ := h
  exact ⟨name.shown, row, col, rfl⟩

theorem storable_readArrow {record : Json} {a : Arrow} (h : readArrow record = .ok a) :
    a.Storable := by
  unfold readArrow at h
  split at h
  · rename_i members
    simp only [bind_eq_ok, pure_eq_ok] at h
    obtain ⟨width, _, source, hsource, target, htarget, rfl⟩ := h
    refine ⟨storable_readReference hsource, storable_readReference htarget,
      isWord_textOr _ _ (by decide), isWord_textOr _ _ (by decide), ⟨width, rfl⟩, ?_⟩
    cases hlabel : given? (.obj members) "label" with
    | none => exact Or.inl (by simp)
    | some j =>
      exact Or.inr ⟨j.shown, Json.shown_ne_empty (given?_eq_some hlabel), by simp⟩
  · exact nomatch h

theorem storable_readArrows {records : List Json} {arrows : List Arrow}
    (h : records.mapM readArrow = .ok arrows) : ∀ a ∈ arrows, a.Storable := by
  induction records generalizing arrows with
  | nil =>
    obtain rfl := pure_eq_ok.mp h
    exact List.forall_mem_nil _
  | cons record rest ih =>
    simp only [List.mapM_cons, bind_eq_ok, pure_eq_ok] at h
    obtain ⟨a, ha, as, has, rfl⟩ := h
    exact List.forall_mem_cons.mpr ⟨storable_readArrow ha, ih has⟩

theorem storable_readTint {record : Json} {t : Tint} (h : readTint record = .ok t) :
    t.Storable := by
  simp only [readTint, bind_eq_ok, pure_eq_ok] at h
  obtain ⟨name, _, _, _, row, _, _, _, col, _, colour, _, rfl⟩ := h
  exact ⟨⟨name.shown, row, col, rfl⟩, ⟨colour.shown, rfl⟩⟩

theorem tints_readTints {records : List Json} {d d' : Drawing} (h : readTints d records = .ok d')
    (hd : ∀ t ∈ d.tints, t.Storable) :
    (∀ t ∈ d'.tints, t.Storable) ∧ d'.matrices = d.matrices ∧ d'.arrows = d.arrows := by
  induction records generalizing d with
  | nil =>
    obtain rfl := Except.ok.inj h
    exact ⟨hd, rfl, rfl⟩
  | cons record rest ih =>
    simp only [readTints, bind_eq_ok] at h
    obtain ⟨t, ht, h⟩ := h
    refine @ih (d.putTint t) h ?_
    intro u hu
    rcases List.mem_append.mp hu with hu | hu
    · exact hd u (List.mem_of_mem_filter hu)
    · rw [List.mem_singleton.mp hu]
      exact storable_readTint ht

theorem storable_readMatrix {record values : Json} {m : Matrix}
    (h : readMatrix record values = .ok m) : m.Storable := by
  simp only [readMatrix, bind_eq_ok, pure_eq_ok] at h
  obtain ⟨grid, _, rows, _, cols, _, x, _, y, _, rfl⟩ := h
  exact ⟨rows, cols, rfl⟩

/-- A size that is read is that of the values, or it is there as a value that is not bare. -/
theorem readCount_eq_ok {flaw : DocumentFlaw} {record : Json} {key : String} {default : Nat}
    {n : Int} (h : readCount flaw record key default = .ok n) :
    n = default ∨ ∃ j, given? record key = some j ∧ j.toInt = .ok n := by
  unfold readCount at h
  split at h
  · rename_i j hj
    refine Or.inr ⟨j, hj, ?_⟩
    cases hn : j.toInt with
    | ok k =>
      rw [hn] at h
      exact congrArg _ (Except.ok.inj h)
    | error m =>
      rw [hn, blame] at h
      split at h
      · exact nomatch h
      · exact nomatch h
  · exact Or.inl (Except.ok.inj h).symm

/-- A matrix comes back with another size only where its record has a value for a size that is not
bare and stands for zero all the same, as a text or a fraction may. -/
theorem exists_zero_of_not_counted {record values : Json} {m : Matrix}
    (h : readMatrix record values = .ok m) (hm : ¬ m.Counted) :
    ∃ key j, (key = "rows" ∨ key = "cols") ∧ given? record key = some j ∧ j.toInt = .ok 0 := by
  simp only [readMatrix, bind_eq_ok, pure_eq_ok] at h
  obtain ⟨grid, _, rows, hrows, cols, hcols, x, _, y, _, rfl⟩ := h
  refine Classical.byContradiction fun hnone => hm ((Matrix.counted_sized _ _ _ _).mpr ⟨?_, ?_⟩)
  · rintro rfl
    rcases readCount_eq_ok hrows with hcount | ⟨j, hj, hzero⟩
    · exact Int.natCast_eq_zero.mp hcount.symm
    · exact absurd ⟨"rows", j, Or.inl rfl, hj, hzero⟩ hnone
  · rintro rfl
    rcases readCount_eq_ok hcols with hcount | ⟨j, hj, hzero⟩
    · exact Int.natCast_eq_zero.mp hcount.symm
    · exact absurd ⟨"cols", j, Or.inr rfl, hj, hzero⟩ hnone

theorem nameAndValues?_eq_some {record values : Json} {name : String}
    (h : nameAndValues? record = some (name, values)) : name ≠ "" := by
  simp only [nameAndValues?, Option.bind_eq_bind, Option.bind_eq_some_iff] at h
  obtain ⟨j, hj, _, _, hpair⟩ := h
  obtain ⟨rfl, _⟩ := Prod.mk.inj (Option.some.inj hpair)
  exact Json.shown_ne_empty (given?_eq_some hj)

theorem storable_readMatrices {records : List Json} {ms ms' : Roster Json Matrix}
    (h : readMatrices ms records = .ok ms')
    (hms : ∀ e ∈ ms.entries, e.1.IsWord ∧ e.2.Storable) :
    ∀ e ∈ ms'.entries, e.1.IsWord ∧ e.2.Storable := by
  induction records generalizing ms with
  | nil =>
    obtain rfl := Except.ok.inj h
    exact hms
  | cons record rest ih =>
    rw [readMatrices] at h
    split at h
    · exact ih h hms
    · rename_i name values hrecord
      simp only [bind_eq_ok] at h
      obtain ⟨m, hm, h⟩ := h
      refine ih h ?_
      intro e he
      rcases Keyed.mem_put he with he | ⟨hvalue, hkey⟩
      · exact hms e he
      · refine ⟨?_, hvalue ▸ storable_readMatrix hm⟩
        rcases hkey with hkey | hkey
        · exact ⟨name, nameAndValues?_eq_some hrecord, hkey⟩
        · obtain ⟨e', he', hkey⟩ := List.mem_map.mp hkey
          exact hkey ▸ (hms e' he').1

/-- What a document says can be said in a document. -/
theorem storable_read {data : Json} {d : Drawing} (h : read data = .ok d) : d.Storable := by
  have hapart := oneTintPerCell_read h
  simp only [read] at h
  split at h
  · simp only [pure_bind, bind_eq_ok] at h
    obtain ⟨ms, hms, records, _, arrows, harrows, _, _, h⟩ := h
    have hmatrices := storable_readMatrices hms (List.forall_mem_nil _)
    obtain ⟨htints, hsame, hsame'⟩ := tints_readTints h (List.forall_mem_nil _)
    refine ⟨?_, ?_, ?_, htints, hapart⟩
    · rw [hsame]
      exact fun e he => (hmatrices e he).1
    · rw [hsame]
      exact fun e he => (hmatrices e he).2
    · rw [hsame']
      exact storable_readArrows harrows
  · cases h

/-- **A document that was opened and saved comes back as it was opened, except that sizes declared
as zero for a grid that has values are counted; and it comes back so from then on.** -/
theorem reopened_iff {data : Json} {d : Drawing} (h : read data = .ok d) :
    read (write d) = .ok d.recounted ∧ read (write d.recounted) = .ok d.recounted ∧
      (read (write d) = .ok d ↔ ∀ e ∈ d.matrices.entries, e.2.Counted) := by
  have hd := storable_read h
  have hagain : read (write d.recounted) = .ok d.recounted := by
    rw [read_write hd.recounted, Drawing.recounted_recounted hd]
  refine ⟨read_write hd, hagain, ?_⟩
  rw [read_write hd, Except.ok.injEq]
  exact Drawing.recounted_eq_iff hd

/-- A document of one matrix, with a value, that gives the number of its rows as a text for
zero. -/
def rowless : Json :=
  .obj
    [ ("matrices", .arr
        [ .obj
            [ ("name", .str "A"),
              ("rows", .str "0"),
              ("cols", .num (.int 1)),
              ("position", .arr [.num (.float 0.0), .num (.float 0.0)]),
              ("values", .arr [.arr [.num (.int 1)]]) ] ]) ]

/-- What that document says. -/
def rowlessDrawing : Drawing where
  matrices := Roster.empty.put (.str "A") (.sized 0 1 [[.num (.int 1)]] ⟨0.0, 0.0⟩)

theorem read_rowless : read rowless = .ok rowlessDrawing := by
  rfl

/-- Saved and opened again, the matrix has a row. -/
theorem reopened_rowless : read (write rowlessDrawing) = .ok rowlessDrawing.recounted ∧
    rowlessDrawing.recounted.matrices.find? (.str "A") =
      some (.sized 1 1 [[.num (.int 1)]] ⟨0.0, 0.0⟩) :=
  ⟨(reopened_iff read_rowless).1, rfl⟩

/-- What is accepted is not always what is given back. -/
theorem reopened_otherwise : ¬ ∀ data d, read data = .ok d → read (write d) = .ok d := by
  intro h
  have hd := storable_read read_rowless
  have hsame := (read_write hd).symm.trans (h rowless rowlessDrawing read_rowless)
  have hcounted := (Drawing.recounted_eq_iff hd).mp (Except.ok.inj hsame) _ List.mem_cons_self
  exact absurd (hcounted.rows rfl) (by decide)

end Document

end GridSketch
