import GridSketch.Proofs.Document.RoundTrip
import GridSketch.Proofs.Session.Entries
import GridSketch.Proofs.Session.WellFormed

/-!
# Reserved names

No matrix should be stored under a reserved word. What is typed is checked for that
(`Name.clean`), and whatever is put into a drawing is checked once more (`Drawing.putMatrix`,
`Drawing.rename`). A document is read without either check. So a matrix gets a reserved name in
one way, and `Session.unreserved_iff` says so in both directions: the states of a run are all free
of such matrices exactly as long as no document that is accepted has one.

The check in `putMatrix` is also what makes such a matrix a nuisance. It is drawn and can be pointed
at, but when it is moved, or one of its cells edited, it is to be put back, and that is refused for
its name (`move_of_reserved`, `editCell_of_reserved`). Where there is none, neither of the two is
ever refused for a name (`sparesName_move`, `sparesName_editCell`).
-/

set_option autoImplicit false

namespace GridSketch

/-! ## 1. Documents -/

namespace Document

/-- The names in a list of records. A record without a name or without values has none. -/
def namesIn (records : List Json) : List String :=
  records.filterMap fun record => (nameAndValues? record).map Prod.fst

def names (data : Json) : List String :=
  match data.member? "matrices" with
  | some (.arr records) => namesIn records
  | _ => []

theorem has_readMatrices {records : List Json} {ms ms' : Roster Json Matrix}
    (h : readMatrices ms records = .ok ms') (name : String) :
    ms'.has (.str name) ↔ ms.has (.str name) ∨ name ∈ namesIn records := by
  induction records generalizing ms with
  | nil =>
    obtain rfl := Except.ok.inj h
    simp [namesIn]
  | cons record rest ih =>
    rw [readMatrices] at h
    cases hrecord : nameAndValues? record with
    | none =>
      rw [hrecord] at h
      simpa [namesIn, hrecord] using ih h
    | some found =>
      obtain ⟨name', values⟩ := found
      rw [hrecord] at h
      obtain ⟨m, _, hrest⟩ := bind_eq_ok.mp h
      rw [ih hrest, Roster.has_put]
      simp only [namesIn, List.filterMap_cons, hrecord, Option.map_some, List.mem_cons,
        Bool.or_eq_true, Json.str_beq_str, beq_iff_eq, eq_comm (a := name), or_assoc,
        or_left_comm]

/-- The matrices of a document are stored under the names that it has for them. -/
theorem has_read {data : Json} {d : Drawing} (h : read data = .ok d) (name : String) :
    d.matrices.has (.str name) ↔ name ∈ names data := by
  simp only [read] at h
  split at h
  · rename_i records hrecords
    have hnames : names data = namesIn records := by
      simp only [names, hrecords]
    simp only [pure_bind, bind_eq_ok] at h
    obtain ⟨ms, hms, _, _, arrows, _, _, _, h⟩ := h
    obtain ⟨_, hsame, _⟩ := tints_readTints h (List.forall_mem_nil _)
    rw [hnames, hsame, has_readMatrices hms]
    simp [Roster.has, Roster.find?, Roster.empty, Keyed.find?]
  · cases h

end Document

/-! ## 2. Drawings -/

/-- That the name of a matrix is not reserved is up to the name alone. -/
theorem Matrix.robust_unreserved : Robust fun name _ => name ∉ Name.reserved where
  define := fun hname => hname.free
  move := id
  copy := fun _ => Change.copyName_free _ _
  setValue := id
  rename := fun hname _ => hname.free

namespace Drawing

/-- No matrix is stored under a reserved word. -/
def Unreserved (d : Drawing) : Prop :=
  ∀ word ∈ Name.reserved, d.matrices.has (.str word) = false

variable {d : Drawing}

theorem Entries.unreserved (h : d.Entries fun name _ => name ∉ Name.reserved) : d.Unreserved := by
  intro word hword
  rw [Bool.eq_false_iff]
  intro hhas
  obtain ⟨m, hm⟩ := Option.isSome_iff_exists.mp hhas
  obtain ⟨name, hname, hfree⟩ := h.of_find? hm
  exact hfree (Json.str.inj hname ▸ hword)

theorem Unreserved.entries_of_read {data : Json} (h : d.Unreserved)
    (hread : Document.read data = .ok d) : d.Entries fun name _ => name ∉ Name.reserved := by
  intro e he
  obtain ⟨name, _, hname⟩ := (Document.storable_read hread).names e he
  refine ⟨name, hname, ?_⟩
  intro hword
  have hfree := h name hword
  rw [Roster.has, ← hname, Roster.find?_of_mem he] at hfree
  cases hfree

end Drawing

/-! ## 3. What is not refused for a name -/

/-- The attempt may be refused, but not because a name is reserved. -/
def SparesName {α : Type} (x : Except Fault α) : Prop :=
  ∀ word, x ≠ .error (.reservedName word)

section

variable {α β : Type}

theorem sparesName_ok (a : α) : SparesName (.ok a) :=
  fun _ => nofun

theorem SparesName.bind {x : Except Fault α} {f : α → Except Fault β} (hx : SparesName x)
    (hf : ∀ a, x = .ok a → SparesName (f a)) : SparesName (x >>= f) := by
  cases x with
  | error fault => exact fun word h => hx word (congrArg _ (Except.error.inj h))
  | ok a => exact hf a rfl

theorem sparesName_misfit (x : Except Misfit α) : SparesName (x.mapError .misfit) := by
  cases x with
  | error m => exact fun _ => nofun
  | ok a => exact sparesName_ok a

end

namespace Json

theorem sparesName_asInt (j : Json) : SparesName j.asInt :=
  sparesName_misfit j.toInt

theorem sparesName_asFloat (j : Json) : SparesName j.asFloat :=
  sparesName_misfit j.toFloat

theorem sparesName_typed (j : Json) : SparesName j.typed := by
  unfold typed typedFor
  split
  · exact sparesName_ok _
  · split
    · exact sparesName_ok _
    · exact fun _ => nofun

theorem sparesName_print (j : Json) : SparesName j.print := by
  unfold print
  split
  · exact sparesName_ok _
  · exact fun _ => nofun

theorem sparesName_checkKey (j : Json) : SparesName j.checkKey := by
  cases j with
  | arr | obj => exact fun _ => nofun
  | null | bool | num | str => exact sparesName_ok _

theorem sparesName_isBelow (i : Int) (bound : Json) : SparesName (isBelow (.num (.int i)) bound) := by
  refine SparesName.bind (by rw [comparesTo_int]; exact sparesName_ok _) fun b _ => ?_
  cases b with
  | false => exact sparesName_ok _
  | true =>
    change SparesName (compareSimple .less (.num (.int i)) bound)
    cases bound with
    | num | bool => exact sparesName_ok _
    | null | str | arr | obj => exact fun _ => nofun

end Json

theorem CellRef.sparesName_print (r : CellRef) : SparesName r.print := by
  unfold print
  split
  · exact sparesName_ok _
  · exact fun _ => nofun

theorem Command.sparesName_number (cs : List Char) : SparesName (Command.number cs) := by
  unfold number
  dsimp only
  split
  · rename_i l _
    unfold Literal.value
    split
    · exact sparesName_ok _
    · refine SparesName.bind ?_ fun _ _ => sparesName_ok _
      unfold natural
      split
      · exact fun _ => nofun
      · exact sparesName_ok _
  · exact fun _ => nofun

/-- What is said of a cell out of range is not about its name. -/
theorem Fault.outOfRange_ne_reservedName (role : String) (rows cols : Json) (word : String) :
    outOfRange role rows cols ≠ .reservedName word := by
  have hlast : ∀ j, SparesName (lastIndex j) := by
    intro j
    cases j with
    | num n =>
      cases n with
      | int n => exact sparesName_ok _
      | float x => exact sparesName_ok _
    | bool b => exact sparesName_ok _
    | null | str | arr | obj => exact fun _ => nofun
  unfold outOfRange
  split
  · rename_i f _ hrows
    rintro rfl
    exact hlast rows word hrows
  · rename_i row f _ hcols
    split
    · rintro rfl
      exact hlast cols word hcols
    · exact nofun
  · split
    · exact nofun
    · exact nofun

namespace Drawing

variable {d : Drawing}

theorem sparesName_matrix (name : Json) : SparesName (d.matrix name) := by
  refine SparesName.bind (SparesName.bind name.sparesName_checkKey fun _ _ => sparesName_ok _) ?_
  intro found _
  cases found with
  | none =>
    intro word h
    have hfault : Fault.showing [name] (.unknownMatrix name.shown) = .reservedName word :=
      Except.error.inj h
    unfold Fault.showing at hfault
    split at hfault
    · cases hfault
    · cases hfault
  | some m => exact sparesName_ok m

theorem sparesName_requireCell (name : Json) (row col : Int) (role : String) :
    SparesName (d.requireCell ⟨name, .num (.int row), .num (.int col)⟩ role) := by
  refine SparesName.bind (sparesName_matrix name) fun m _ => SparesName.bind ?_ ?_
  · refine SparesName.bind (Json.sparesName_isBelow row m.rows) fun b _ => ?_
    cases b with
    | false => exact sparesName_ok _
    | true => exact Json.sparesName_isBelow col m.cols
  · intro b _
    cases b with
    | false => exact fun word h => Fault.outOfRange_ne_reservedName _ _ _ word (Except.error.inj h)
    | true => exact sparesName_ok m

/-- A matrix that is there is put back, if its name is not reserved. -/
theorem Unreserved.sparesName_putMatrix (h : d.Unreserved) {name : Json} {m : Matrix}
    (hm : d.matrices.find? name = some m) (m' : Matrix) : SparesName (d.putMatrix name m') := by
  refine SparesName.bind (SparesName.bind name.sparesName_checkKey ?_) fun _ _ => sparesName_ok _
  intro _ _
  split
  · split
    · rename_i hword
      exact absurd (has_of_find? hm) (by simp [h _ hword])
    · exact sparesName_ok _
  · exact sparesName_ok _

end Drawing

namespace Change

variable {s : Scene}

/-- **Moving a matrix is not refused for a name** where no matrix has a reserved one. -/
theorem sparesName_move (h : s.Unreserved) (name x y : Json) : SparesName (move s name x y) := by
  refine SparesName.bind (Drawing.sparesName_matrix name) fun m hm => ?_
  refine SparesName.bind name.sparesName_print fun shown _ => ?_
  refine SparesName.bind x.sparesName_asFloat fun x _ => ?_
  refine SparesName.bind y.sparesName_asFloat fun y _ => ?_
  refine SparesName.bind ?_ fun d _ => sparesName_ok _
  exact h.sparesName_putMatrix (Drawing.matrix_eq_ok hm) _

/-- **Editing a cell is not refused for a name** where no matrix has a reserved one. -/
theorem sparesName_editCell (h : s.Unreserved) (form : CellForm) :
    SparesName (editCell s form) := by
  refine SparesName.bind form.row.sparesName_asInt fun row _ => ?_
  refine SparesName.bind form.col.sparesName_asInt fun col _ => ?_
  refine SparesName.bind (Drawing.sparesName_requireCell _ row col _) fun m hm => ?_
  refine SparesName.bind form.value.sparesName_typed fun text _ => ?_
  refine SparesName.bind (Command.sparesName_number _) fun v _ => ?_
  refine SparesName.bind ?_ fun d _ => ?_
  · exact h.sparesName_putMatrix (Drawing.requireCell_eq_ok hm).1 _
  · refine SparesName.bind form.colour.sparesName_typed fun colour _ => ?_
    exact SparesName.bind (CellRef.sparesName_print _) fun _ _ => sparesName_ok _

variable {word : String} {m : Matrix}

/-- A matrix that is stored under a reserved word cannot be moved. -/
theorem move_of_reserved {x y : Json} {x' y' : Float} (hword : word ∈ Name.reserved)
    (hm : s.matrices.find? (.str word) = some m) (hx : x.asFloat = .ok x')
    (hy : y.asFloat = .ok y') : move s (.str word) x y = .error (.reservedName word) := by
  have hmatrix := Drawing.matrix_of_find? (Json.checkKey_str word) hm
  simp [move, hmatrix, hx, hy, Drawing.putMatrix, Name.checkReserved_str, hword, bind, Except.bind]

/-- None of its cells can be edited. -/
theorem editCell_of_reserved {form : CellForm} {row col : Int} {text : String} {v : Number}
    (hword : word ∈ Name.reserved) (hmatrix : form.matrix = .str word)
    (hm : s.matrices.find? (.str word) = some m) (hrow : form.row.asInt = .ok row)
    (hcol : form.col.asInt = .ok col)
    (hcell : m.contains (.num (.int row)) (.num (.int col)) = .ok true)
    (htext : form.value.typed = .ok text) (hv : Command.number text.toList = .ok v) :
    editCell s form = .error (.reservedName word) := by
  have hrequire := Drawing.requireCell_of_find? (r := ⟨.str word, .num (.int row), .num (.int col)⟩)
    (Json.checkKey_str word) hm hcell "Cell"
  simp [editCell, hmatrix, hrow, hcol, hrequire, htext, hv, Drawing.putMatrix,
    Name.checkReserved_str, hword, bind, Except.bind]

end Change

/-! ## 4. Sessions -/

namespace Session

variable {K : Type}

/-- The operation reads a document that is accepted, and that has a reserved word for the name of a
matrix. -/
def Op.BringsReserved (op : Op K) : Prop :=
  ∃ data d, op.document? = some data ∧ Document.read data = .ok d ∧
    ∃ word ∈ Name.reserved, word ∈ Document.names data

variable [Coordinate K]

/-- Whatever matrix is to be moved, and whatever cell is to be edited: it is not refused for a
name. -/
structure SparesNames (s : Session K) : Prop where
  move : ∀ name x y, SparesName (s.step (.act (.move name x y))).answer
  editCell : ∀ form, SparesName (s.step (.act (.editCell form))).answer

theorem sparesName_act {s : Session K} {a : Action} (h : SparesName (a.apply s.scene)) :
    SparesName (s.step (.act a)).answer := by
  intro word hanswer
  simp only [step, act] at hanswer
  cases happly : a.apply s.scene with
  | error f =>
    rw [happly] at hanswer
    exact h word (happly.trans (congrArg _ (Except.error.inj hanswer)))
  | ok change =>
    rw [happly] at hanswer
    cases hscene : change.scene with
    | none => simp [hscene, commit, quiet] at hanswer
    | some new => simp [hscene, commit] at hanswer

theorem sparesNames_of_unreserved {s : Session K} (h : s.scene.Unreserved) : s.SparesNames :=
  ⟨fun name x y => sparesName_act (Change.sparesName_move h name x y),
    fun form => sparesName_act (Change.sparesName_editCell h form)⟩

theorem unreserved_step {s : Session K} {op : Op K}
    (hs : s.Keeps (Drawing.Entries fun name _ => name ∉ Name.reserved))
    (hop : ¬ op.BringsReserved) :
    (s.step op).session.Keeps (Drawing.Entries fun name _ => name ∉ Name.reserved) := by
  refine entries_step Matrix.robust_unreserved hs ?_
  intro data d hdata hread
  refine Drawing.Unreserved.entries_of_read ?_ hread
  intro word hword
  rw [Bool.eq_false_iff, Ne, Document.has_read hread]
  exact fun hname => hop ⟨data, d, hdata, hread, word, hword, hname⟩

/-- A document that is accepted is the drawing from then on. -/
theorem reserved_of_brings {s : Session K} {op : Op K} (hop : op.BringsReserved) :
    ¬ (s.step op).session.scene.Unreserved := by
  obtain ⟨data, d, hdata, hread, word, hword, hname⟩ := hop
  have hrecord := step_event s op
  rw [event_of_document hdata, hread] at hrecord
  have hdrawing : (s.step op).session.scene.toDrawing = d := congrArg Prod.fst hrecord
  intro hfree
  have habsent := hfree word hword
  rw [hdrawing, Bool.eq_false_iff] at habsent
  exact habsent ((Document.has_read hread word).mpr hname)

/-- **As long as no document that is accepted has a reserved word for a name, and exactly as long,
no matrix of a session is stored under one, and neither moving a matrix nor editing a cell is ever
refused for a name.** -/
theorem unreserved_iff (ops : List (Op K)) :
    (∀ s ∈ (opening : Session K).states ops, s.scene.Unreserved ∧ s.SparesNames) ↔
      ∀ op ∈ ops, ¬ op.BringsReserved := by
  refine states_iff_ops
    (I := fun s => s.Keeps (Drawing.Entries fun name _ => name ∉ Name.reserved)) ?_ ?_ ?_ ?_
  · intro s hs
    exact ⟨hs.1.unreserved, sparesNames_of_unreserved hs.1.unreserved⟩
  · intro s op hs hop
    exact unreserved_step hs hop
  · intro s op _ hop h
    exact reserved_of_brings hop h.1
  · exact keeps_start (Scene.entries_initial Matrix.robust_unreserved)

/-! ### A document with a determinant -/

/-- A document with a matrix of one cell that is called like the determinant. -/
def determinant : Json :=
  .obj
    [("matrices",
      .arr
        [.obj [("name", .str "Det"), ("values", .arr [.arr [.num (.int 1)]])]])]

/-- The document is imported, and from then on there is a matrix that can be neither moved nor
edited. -/
theorem reserved_after_import :
    (¬ ∀ s ∈ (opening : Session Rat).states [.importDocument determinant],
        s.scene.Unreserved) ∧
      ¬ ∀ s ∈ (opening : Session Rat).states [.importDocument determinant], s.SparesNames := by
  have hlast : ((opening : Session Rat).step (.importDocument determinant)).session ∈
      (opening : Session Rat).states [.importDocument determinant] :=
    List.mem_cons_of_mem _ List.mem_cons_self
  have hword : "Det" ∈ Name.reserved := by simp [Name.reserved]
  have hhas : ((opening : Session Rat).step
      (.importDocument determinant)).session.scene.matrices.has (.str "Det") = true := rfl
  refine ⟨fun h => ?_, fun h => ?_⟩
  · exact absurd (h _ hlast "Det" hword) (by simp [hhas])
  · obtain ⟨m, hm⟩ := Option.isSome_iff_exists.mp hhas
    have hmove := Change.move_of_reserved hword hm (Json.asFloat_float 1.0) (Json.asFloat_float 1.0)
    refine (h _ hlast).move (.str "Det") (.num (.float 1.0)) (.num (.float 1.0)) "Det" ?_
    simp only [step, act, Action.apply] at hmove ⊢
    rw [hmove]
    rfl

end Session

end GridSketch
