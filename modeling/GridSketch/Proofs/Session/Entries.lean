import GridSketch.Proofs.Session.Edit

/-!
# What is true of every matrix in a session

Much of what is true of the matrices of a drawing is true of each of them by itself: of the text
that it is stored under and of the matrix (`Drawing.Entries`). Such a property is kept by everything
that is done to a drawing if a matrix that is defined has it, and if it lives through what is done
to one matrix after that: another place, another value, a copy, another name
(`Matrix.Robust`). The edits and the renaming are gone through once, here, and the operations of a
session with them (`entries_step`).

A document is the other way in, and what it brings is the caller's to say. Which document an
operation reads is said by `Op.document?`.
-/

set_option autoImplicit false

namespace GridSketch

/-- Since no key is there twice, each entry is found by its own. -/
theorem Roster.find?_of_mem {κ α : Type} [BEq κ] [ReflBEq κ] {r : Roster κ α} {e : κ × α}
    (he : e ∈ r.entries) : r.find? e.1 = some e.2 := by
  obtain ⟨entries, distinct⟩ := r
  simp only [find?]
  induction entries with
  | nil => exact nomatch he
  | cons e' rest ih =>
    rw [Keyed.keys_cons, Keyed.Distinct, List.pairwise_cons] at distinct
    rcases List.mem_cons.mp he with rfl | he
    · simp [Keyed.find?]
    · have hne : (e'.1 == e.1) = false := distinct.1 e.1 (List.mem_map_of_mem he)
      rw [Keyed.find?, hne]
      exact ih distinct.2 he

/-- A property of a matrix and its name that a matrix has when it is defined, and keeps. -/
structure Matrix.Robust (P : String → Matrix → Prop) : Prop where
  define : ∀ {name rows cols values p}, Name.WellFormed name → P name (.sized rows cols values p)
  move : ∀ {name m p}, P name m → P name (m.withPosition p)
  copy : ∀ {name m p k}, P name m → P (Change.copyName name k) (m.withPosition p)
  setValue : ∀ {name m row col} {v : Number}, P name m → P name (m.withValue row col (.num v))
  rename : ∀ {old new m}, Name.WellFormed new → P old m → P new m

namespace Drawing

/-! ## 1. Drawings -/

/-- Every matrix is stored under a text, and the two have a property. -/
def Entries (P : String → Matrix → Prop) (d : Drawing) : Prop :=
  ∀ e ∈ d.matrices.entries, ∃ name, e.1 = .str name ∧ P name e.2

variable {P : String → Matrix → Prop} {d d' : Drawing}

namespace Entries

theorem empty : Entries P {} :=
  List.forall_mem_nil _

/-- What a matrix is found under is the text that it is stored under. -/
theorem of_find? (h : d.Entries P) {name : Json} {m : Matrix}
    (hm : d.matrices.find? name = some m) : ∃ s, name = .str s ∧ P s m := by
  obtain ⟨key, hmem, hkey⟩ := Keyed.mem_of_find? hm
  obtain ⟨s, rfl, hs⟩ := h _ hmem
  exact ⟨s, Json.eq_str_of_beq (BEq.symm hkey), hs⟩

/-- A matrix that is put has the name that it is put under. -/
theorem put (h : d.Entries P) {name : String} {m : Matrix} (hm : P name m) :
    Entries P { d with matrices := d.matrices.put (.str name) m } := by
  intro e he
  have hfind : (d.matrices.put (.str name) m).find? e.1 = some e.2 :=
    Roster.find?_of_mem he
  rw [Roster.find?_put] at hfind
  split at hfind
  · rename_i hkey
    exact ⟨name, Json.eq_str_of_beq (BEq.symm hkey), Option.some.inj hfind ▸ hm⟩
  · exact h.of_find? hfind

theorem others (h : d.Entries P) {name : Json} {d' : Drawing}
    (hd' : d'.matrices = d.others name) : d'.Entries P := by
  intro e he
  rw [hd', Drawing.others] at he
  split at he
  · exact h e he
  · exact h e (List.mem_filter.mp he).1

end Entries

/-- **Every edit keeps a property of the matrices** that is robust. -/
theorem Edit.entries (hP : Matrix.Robust P) (he : Edit d d') (h : d.Entries P) : d'.Entries P := by
  cases he with
  | define p hname => exact h.put (hP.define hname)
  | move p hm =>
    obtain ⟨s, rfl, hs⟩ := h.of_find? hm
    exact h.put (hP.move hs)
  | copy p hm hnew =>
    obtain ⟨s, rfl, hs⟩ := h.of_find? hm
    rcases hnew with rfl | ⟨k, rfl⟩
    · exact h.put (hP.move hs)
    · exact h.put (hP.copy hs)
  | setValue v hm =>
    obtain ⟨s, hname, hs⟩ := h.of_find? hm
    rw [hname]
    exact h.put (hP.setValue hs)
  | delete => exact h.others rfl
  | addArrow | setArrow | eraseArrow | putTint | setTint | dropTints => exact h

theorem Entries.rename (hP : Matrix.Robust P) (h : d.Entries P) {old : Json} {new : String}
    (hnew : Name.WellFormed new) (hr : d.rename old (.str new) = .ok (some d')) :
    d'.Entries P := by
  obtain ⟨m, hm, _, rfl⟩ := rename_eq_some hr
  obtain ⟨s, _, hs⟩ := h.of_find? hm
  have hrest : Entries P { matrices := d.others old } := h.others rfl
  exact hrest.put (hP.rename hnew hs)

end Drawing

theorem Scene.entries_initial {P : String → Matrix → Prop} (hP : Matrix.Robust P) :
    Scene.initial.Entries P := by
  obtain ⟨hA, hB⟩ := Name.wellFormed_initial
  exact (Drawing.Entries.empty.put (hP.define hA)).put (hP.define hB)

/-! ## 2. Sessions -/

namespace Session

variable {K : Type}

/-- The document that an operation reads, if it comes to that: a file may not be there or be none. -/
def Op.document? : Op K → Option Json
  | .importDocument data => some data
  | .loadFile _ opened => opened.toOption.bind fun bytes => (Json.readBytes bytes).toOption
  | _ => none

theorem event_of_document {s : Session K} {op : Op K} {data : Json}
    (h : op.document? = some data) : s.event op = readEvent (Document.read data) := by
  cases op with
  | importDocument data' =>
    obtain rfl := Option.some.inj h
    rfl
  | loadFile path opened =>
    cases opened with
    | error f => cases h
    | ok bytes =>
      have hbytes : Json.readBytes bytes = .ok data := by
        cases hread : Json.readBytes bytes with
        | error flaw => simp [Op.document?, Except.toOption, hread] at h
        | ok data' => simpa [Op.document?, Except.toOption, hread] using h
      simp only [event, Except.bind, readFile, hbytes]
      rfl
  | _ => cases h

variable {P : Drawing → Prop} {s : Session K} {op : Op K}

/-- What an operation that reads brings in is what its document is read as. -/
theorem brings_of_document (hreads : op.reads = true)
    (h : ∀ data d, op.document? = some data → Document.read data = .ok d → P d) :
    (s.event op).Brings P := by
  cases op with
  | importDocument data => exact brings_readEvent fun d hd => h data d rfl hd
  | loadFile path opened =>
    apply brings_readEvent
    intro d hd
    obtain ⟨bytes, hopened, hbytes⟩ := bind_eq_ok.mp hd
    obtain ⟨data, hdata, hd⟩ := bind_eq_ok.mp hbytes
    refine h data d ?_ hd
    rw [mapError_eq_ok] at hdata
    rw [Op.document?, hopened]
    simp [Except.toOption, hdata]
  | _ => exact nomatch hreads

variable [Coordinate K] {Q : String → Matrix → Prop}

/-- **A robust property of every matrix of a session and of its history is kept by every operation**,
unless it is a document that brings in a matrix without it. -/
theorem entries_step (hQ : Matrix.Robust Q) (hs : s.Keeps (Drawing.Entries Q))
    (hread : ∀ data d, op.document? = some data → Document.read data = .ok d → d.Entries Q) :
    (s.step op).session.Keeps (Drawing.Entries Q) := by
  apply keeps_step hs
  cases hreads : op.reads with
  | true => exact brings_of_document hreads hread
  | false =>
    refine brings_of_edits ?_ ?_ ?_ (Scene.entries_initial hQ) .empty ?_
    · exact fun h => h.keeps (Drawing.Edit.entries hQ) hs.1
    · intro old field change new _ h hnew
      obtain ⟨name, hname, hrename⟩ := Change.rename_eq_some h hnew
      exact hs.1.rename hQ (Name.clean_wellFormed hname) hrename
    · intro form noise change new _ _ h hnew
      obtain ⟨name, _, _, _, _, hname, _, _, _, hscene⟩ := Change.define_eq_ok h
      obtain rfl := Option.some.inj (hscene.symm.trans hnew)
      exact hs.1.put (hQ.define (Name.clean_wellFormed hname))
    · intro data d hyes _
      rw [hreads] at hyes
      exact nomatch hyes

end Session

end GridSketch
