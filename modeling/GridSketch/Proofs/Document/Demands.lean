import GridSketch.Proofs.Scene.Success
import GridSketch.Session.Basic

/-!
# What the reader of documents asks for

A document is read by asking it for one thing after the other: for a list, for a member of a record,
for an integer or a double. `demands` lists what is asked for, in the order of asking, and says
nothing of faults; a reader follows its list if it succeeds when all of it is met, and otherwise
fails for the first demand that is not (`Follows`). Each reader has one lemma that says which list
it follows, and `follows_bind` puts them together.

What can be said of a failure is then said of a single demand. Most fail as a flaw of the document
and are reported as one. But a number that is there can be beyond the arithmetic: infinity has no
integer, and a great integer no double. A failure of that kind is none of the document's flaws, and
`imports_iff` says that it is what comes of a document exactly where such a demand is the first one
that is not met.
-/

set_option autoImplicit false

namespace GridSketch

/-! ## 1. Demands -/

/-- Something that a document is asked for. -/
inductive Demand where
  /-- What is asked for is not there, or has another shape. -/
  | missing
  | number (wanted : Wanted) (j : Json)

namespace Demand

/-- What is asked for can be had. -/
def Met : Demand → Prop
  | .missing => False
  | .number .integer j => ∃ n, j.toInt = .ok n
  | .number .double j => ∃ x, j.toFloat = .ok x

/-- An infinite double where an integer is wanted, or an integer beyond the doubles where a double
is wanted. -/
def Beyond : Demand → Prop
  | .missing => False
  | .number .integer j => ∃ x negative, j = .num (.float x) ∧ Decimal.parts x = .infinite negative
  | .number .double j => ∃ n, j = .num (.int n) ∧ Decimal.ofInt? n = none

/-- A demand for something that may not be there. -/
def there {α : Type} : Option α → List Demand
  | none => [.missing]
  | some _ => []

/-- A demand for a number that is made only where there is something. -/
def whereGiven (wanted : Wanted) : Option Json → List Demand
  | none => []
  | some j => [.number wanted j]

/-- A demand for a number that may not be there. -/
def numberOf (wanted : Wanted) : Option Json → List Demand
  | none => [.missing]
  | some j => [.number wanted j]

end Demand

namespace Document

/-- The first of the demands that is not met is beyond the arithmetic. -/
def Exceeds (qs : List Demand) : Prop :=
  ∃ before q after, qs = before ++ q :: after ∧ (∀ p ∈ before, p.Met) ∧ q.Beyond

def matrixDemands (record : Json) : List Demand :=
  match nameAndValues? record with
  | none => []
  | some (_, values) =>
    let position := (given? record "position").getD (.arr [.num (.int 0), .num (.int 0)])
    Demand.there (rows? values) ++
      (Demand.whereGiven .integer (given? record "rows") ++
        (Demand.whereGiven .integer (given? record "cols") ++
          (Demand.numberOf .double (position.item 0).toOption ++
            Demand.numberOf .double (position.item 1).toOption)))

def referenceDemands (record : Json) (key : String) : List Demand :=
  match (record.member? key).bind threeParts? with
  | none => [.missing]
  | some (_, row, col) => [.number .integer row, .number .integer col]

def arrowDemands (record : Json) : List Demand :=
  match record with
  | .obj _ =>
    Demand.whereGiven .double (record.member? "width") ++
      (referenceDemands record "source" ++ referenceDemands record "target")
  | _ => [.missing]

def tintDemands (record : Json) : List Demand :=
  Demand.there (record.member? "matrix") ++
    (Demand.numberOf .integer (record.member? "row") ++
      (Demand.numberOf .integer (record.member? "col") ++
        Demand.there (record.member? "color")))

/-- The demands of the records in a list that may be missing, but may not be anything else. -/
def listDemands (data : Json) (key : String) (each : Json → List Demand) : List Demand :=
  match present? data key with
  | none => []
  | some (.arr items) => items.flatMap each
  | some _ => [.missing]

/-- What a document is asked for, from the first to the last. -/
def demands (data : Json) : List Demand :=
  match data.member? "matrices" with
  | some (.arr records) =>
    records.flatMap matrixDemands ++
      (listDemands data "arrows" arrowDemands ++ listDemands data "coloredCells" tintDemands)
  | _ => [.missing]

end Document

/-! ## 2. Failures -/

theorem Misfit.faultKind_of_isLimit {m : Misfit} (h : m.isLimit = true) :
    m.faultKind = .overflow := by
  cases m with
  | infinite | tooLarge => rfl
  | kind | text | item | tooManyDigits | notANumber => exact nomatch h

namespace Demand

theorem not_limit_integer {s : String} {m : Misfit} (h : Numeral.integer s = .error m) :
    m.isLimit = false := by
  simp only [Numeral.integer] at h
  split at h
  · rw [← Except.error.inj h]
    rfl
  · split at h
    · rw [← Except.error.inj h]
      rfl
    · split at h
      · exact nomatch h
      · rw [← Except.error.inj h]
        rfl

theorem not_limit_double {s : String} {m : Misfit} (h : Numeral.double s = .error m) :
    m.isLimit = false := by
  simp only [Numeral.double] at h
  split at h
  · exact nomatch h
  · split at h
    · rw [← Except.error.inj h]
      rfl
    · split at h
      · rw [← Except.error.inj h]
        rfl
      · exact nomatch h

/-- Of the values that stand for no integer, infinity alone is beyond the arithmetic. -/
theorem isLimit_toInt {j : Json} {m : Misfit} (h : j.toInt = .error m) :
    m.isLimit = true ↔ (number .integer j).Beyond := by
  have hother : (∀ x, j ≠ .num (.float x)) → ¬ (number .integer j).Beyond :=
    fun hne ⟨x, _, hj, _⟩ => hne x hj
  cases j with
  | bool b => exact nomatch h
  | num n =>
    cases n with
    | int n => exact nomatch h
    | float x =>
      simp only [Json.toInt] at h
      cases hparts : Decimal.parts x with
      | finite negative m e =>
        rw [hparts] at h
        exact nomatch h
      | infinite negative =>
        rw [hparts] at h
        rw [← Except.error.inj h]
        exact iff_of_true rfl ⟨x, negative, rfl, hparts⟩
      | nan =>
        rw [hparts] at h
        rw [← Except.error.inj h]
        refine iff_of_false Bool.false_ne_true ?_
        rintro ⟨y, negative, hy, hinfinite⟩
        injection hy with hy
        injection hy with hy
        rw [← hy, hparts] at hinfinite
        exact nomatch hinfinite
  | str s =>
    rw [Json.toInt] at h
    exact iff_of_false (Bool.eq_false_iff.mp (not_limit_integer h)) (hother nofun)
  | null | arr | obj =>
    rw [← Except.error.inj h]
    exact iff_of_false Bool.false_ne_true (hother nofun)

/-- Of the values that stand for no double, an integer alone is beyond the arithmetic. -/
theorem isLimit_toFloat {j : Json} {m : Misfit} (h : j.toFloat = .error m) :
    m.isLimit = true ↔ (number .double j).Beyond := by
  have hother : (∀ n, j ≠ .num (.int n)) → ¬ (number .double j).Beyond :=
    fun hne ⟨n, hj, _⟩ => hne n hj
  cases j with
  | bool b => exact nomatch h
  | num n =>
    cases n with
    | int n =>
      simp only [Json.toFloat, Json.floatOfInt] at h
      split at h
      · exact nomatch h
      · rename_i hnone
        rw [← Except.error.inj h]
        exact iff_of_true rfl ⟨n, rfl, hnone⟩
    | float x => exact nomatch h
  | str s =>
    rw [Json.toFloat] at h
    exact iff_of_false (Bool.eq_false_iff.mp (not_limit_double h)) (hother nofun)
  | null | arr | obj =>
    rw [← Except.error.inj h]
    exact iff_of_false Bool.false_ne_true (hother nofun)

theorem not_met_of_beyond {q : Demand} (h : q.Beyond) : ¬ q.Met := by
  cases q with
  | missing => exact h.elim
  | number wanted j =>
    cases wanted with
    | integer =>
      obtain ⟨x, negative, rfl, hparts⟩ := h
      rintro ⟨n, hn⟩
      simp only [Json.toInt, hparts] at hn
      exact nomatch hn
    | double =>
      obtain ⟨n, rfl, hnone⟩ := h
      rintro ⟨x, hx⟩
      simp only [Json.toFloat, Json.floatOfInt, hnone] at hx
      exact nomatch hx

/-- A fault is what comes of a demand that is not met. -/
structure Refuses (q : Demand) (f : Fault) : Prop where
  not_met : ¬ q.Met
  kind : (q.Beyond ∧ f.kind = .overflow) ∨ (¬ q.Beyond ∧ f.kind = .importFormat)

end Demand

namespace Document

/-- A reader succeeds where all of its demands are met, and fails for the first that is not. -/
def Follows {α : Type} (qs : List Demand) : Except Fault α → Prop
  | .ok _ => ∀ q ∈ qs, q.Met
  | .error f => ∃ before q after, qs = before ++ q :: after ∧ (∀ p ∈ before, p.Met) ∧ q.Refuses f

variable {α β : Type} {qs qs' : List Demand}

theorem follows_pure (a : α) : Follows [] (pure a : Except Fault α) :=
  List.forall_mem_nil _

theorem follows_error {q : Demand} {f : Fault} (h : q.Refuses f) :
    Follows [q] (.error f : Except Fault α) :=
  ⟨[], q, [], rfl, List.forall_mem_nil _, h⟩

theorem follows_missing (flaw : DocumentFlaw) :
    Follows [.missing] (.error (.document flaw) : Except Fault α) :=
  follows_error ⟨id, Or.inr ⟨id, rfl⟩⟩

/-- **Readers one after the other follow their demands one after the other.** -/
theorem follows_bind {x : Except Fault α} {f : α → Except Fault β} (hx : Follows qs x)
    (hf : ∀ a, x = .ok a → Follows qs' (f a)) : Follows (qs ++ qs') (x >>= f) := by
  cases x with
  | error fault =>
    obtain ⟨before, q, after, hqs, hbefore, hq⟩ := hx
    refine ⟨before, q, after ++ qs', ?_, hbefore, hq⟩
    rw [hqs, List.append_assoc]
    rfl
  | ok a =>
    have hnext := hf a rfl
    change Follows (qs ++ qs') (f a)
    cases hfa : f a with
    | error fault =>
      rw [hfa] at hnext
      obtain ⟨before, q, after, hqs, hbefore, hq⟩ := hnext
      refine ⟨qs ++ before, q, after, ?_, List.forall_mem_append.mpr ⟨hx, hbefore⟩, hq⟩
      rw [hqs, List.append_assoc]
    | ok b =>
      rw [hfa] at hnext
      exact List.forall_mem_append.mpr ⟨hx, hnext⟩

/-- What is done last with the results of a reader makes no demands. -/
theorem follows_map {x : Except Fault α} {f : α → β} (hx : Follows qs x) :
    Follows qs (x >>= fun a => pure (f a)) := by
  have h := follows_bind (f := fun a => pure (f a)) hx fun a _ => follows_pure (f a)
  rwa [List.append_nil] at h

theorem follows_demand (flaw : DocumentFlaw) (a? : Option α) :
    Follows (Demand.there a?) (demand flaw a?) := by
  cases a? with
  | none => exact follows_missing flaw
  | some a => exact follows_pure a

theorem follows_misfit {wanted : Wanted} {j : Json} {m : Misfit} (flaw : DocumentFlaw)
    (hmet : ¬ (Demand.number wanted j).Met)
    (hlimit : m.isLimit = true ↔ (Demand.number wanted j).Beyond) :
    Follows [.number wanted j] (blame flaw (.error m) : Except Fault α) := by
  rw [blame]
  split
  · rename_i h
    exact follows_error ⟨hmet, Or.inl ⟨hlimit.mp h, Misfit.faultKind_of_isLimit h⟩⟩
  · rename_i h
    exact follows_error ⟨hmet, Or.inr ⟨fun hb => h (hlimit.mpr hb), rfl⟩⟩

theorem follows_toInt (flaw : DocumentFlaw) (j : Json) :
    Follows [.number .integer j] (blame flaw j.toInt) := by
  cases h : j.toInt with
  | ok n => exact List.forall_mem_singleton.mpr ⟨n, h⟩
  | error m =>
    refine follows_misfit flaw ?_ (Demand.isLimit_toInt h)
    rintro ⟨n, hn⟩
    exact nomatch h.symm.trans hn

theorem follows_toFloat (flaw : DocumentFlaw) (j : Json) :
    Follows [.number .double j] (blame flaw j.toFloat) := by
  cases h : j.toFloat with
  | ok x => exact List.forall_mem_singleton.mpr ⟨x, h⟩
  | error m =>
    refine follows_misfit flaw ?_ (Demand.isLimit_toFloat h)
    rintro ⟨x, hx⟩
    exact nomatch h.symm.trans hx

/-- No more than one demand is the first that is not met. -/
theorem first_unmet_unique {before before' after after' : List Demand} {q q' : Demand}
    (h : before ++ q :: after = before' ++ q' :: after') (hbefore : ∀ p ∈ before, p.Met)
    (hbefore' : ∀ p ∈ before', p.Met) (hq : ¬ q.Met) (hq' : ¬ q'.Met) : q = q' := by
  induction before generalizing before' with
  | nil =>
    cases before' with
    | nil => exact (List.cons.inj h).1
    | cons p rest =>
      obtain ⟨rfl, _⟩ := List.cons.inj h
      exact absurd (hbefore' q List.mem_cons_self) hq
  | cons p rest ih =>
    rw [List.forall_mem_cons] at hbefore
    cases before' with
    | nil =>
      obtain ⟨rfl, _⟩ := List.cons.inj h
      exact absurd hbefore.1 hq'
    | cons p' rest' =>
      rw [List.forall_mem_cons] at hbefore'
      exact ih (List.cons.inj h).2 hbefore.2 hbefore'.2

theorem Follows.exists_ok_iff {r : Except Fault α} (h : Follows qs r) :
    (∃ a, r = .ok a) ↔ ∀ q ∈ qs, q.Met := by
  cases r with
  | ok a => exact iff_of_true ⟨a, rfl⟩ h
  | error f =>
    obtain ⟨before, q, after, rfl, _, hq⟩ := h
    refine iff_of_false (fun ⟨_, ha⟩ => nomatch ha) fun hall => hq.not_met (hall q ?_)
    exact List.mem_append_right _ List.mem_cons_self

theorem Follows.exceeds_iff {r : Except Fault α} (h : Follows qs r) :
    (∃ f, r = .error f ∧ f.kind ≠ .importFormat) ↔ Exceeds qs := by
  constructor
  · rintro ⟨f, rfl, hf⟩
    obtain ⟨before, q, after, hqs, hbefore, hq⟩ := h
    rcases hq.kind with ⟨hbeyond, _⟩ | ⟨_, hkind⟩
    · exact ⟨before, q, after, hqs, hbefore, hbeyond⟩
    · exact absurd hkind hf
  · rintro ⟨before, q, after, hqs, hbefore, hbeyond⟩
    have hq := Demand.not_met_of_beyond hbeyond
    cases r with
    | ok a =>
      have hmem : q ∈ qs := hqs ▸ List.mem_append_right _ List.mem_cons_self
      exact absurd (h q hmem) hq
    | error f =>
      obtain ⟨before', q', after', hqs', hbefore', hq'⟩ := h
      have hsame : q = q' := first_unmet_unique (hqs.symm.trans hqs') hbefore hbefore' hq hq'.not_met
      refine ⟨f, rfl, fun hkind => ?_⟩
      rcases hq'.kind with ⟨_, hoverflow⟩ | ⟨hnot, _⟩
      · exact nomatch hkind.symm.trans hoverflow
      · exact hnot (hsame ▸ hbeyond)

theorem Follows.kind {f : Fault} (h : Follows qs (.error f : Except Fault α)) :
    f.kind = .importFormat ∨ f.kind = .overflow := by
  obtain ⟨_, _, _, _, _, hq⟩ := h
  rcases hq.kind with ⟨_, hkind⟩ | ⟨_, hkind⟩
  · exact Or.inr hkind
  · exact Or.inl hkind

/-! ## 3. Readers -/

theorem follows_readCount (flaw : DocumentFlaw) (record : Json) (key : String) (default : Nat) :
    Follows (Demand.whereGiven .integer (given? record key))
      (readCount flaw record key default) := by
  unfold readCount
  cases given? record key with
  | none => exact follows_pure _
  | some j => exact follows_toInt flaw j

theorem follows_readCoordinate (flaw : DocumentFlaw) (position : Json) (i : Nat) :
    Follows (Demand.numberOf .double (position.item i).toOption)
      (readCoordinate flaw position i) := by
  unfold readCoordinate
  cases (position.item i).toOption with
  | none => exact follows_missing flaw
  | some j => exact follows_toFloat flaw j

/-- A matrix record that is not passed over. -/
theorem follows_readMatrix {record values : Json} {name : String}
    (h : nameAndValues? record = some (name, values)) :
    Follows (matrixDemands record) (readMatrix record values) := by
  simp only [matrixDemands, h, readMatrix]
  refine follows_bind (follows_demand _ _) fun grid _ => ?_
  refine follows_bind (follows_readCount _ _ _ _) fun rows _ => ?_
  refine follows_bind (follows_readCount _ _ _ _) fun cols _ => ?_
  refine follows_bind (follows_readCoordinate _ _ _) fun x _ => ?_
  exact follows_map (follows_readCoordinate _ _ _)

theorem follows_readMatrices (ms : Roster Json Matrix) (records : List Json) :
    Follows (records.flatMap matrixDemands) (readMatrices ms records) := by
  induction records generalizing ms with
  | nil => exact follows_pure ms
  | cons record rest ih =>
    rw [List.flatMap_cons, readMatrices]
    cases hrecord : nameAndValues? record with
    | none =>
      rw [matrixDemands, hrecord]
      exact ih ms
    | some pair => exact follows_bind (follows_readMatrix hrecord) fun m _ => ih _

theorem follows_readReference (record : Json) (key what : String) :
    Follows (referenceDemands record key) (readReference record key what) := by
  simp only [referenceDemands, readReference]
  cases (record.member? key).bind threeParts? with
  | none => exact follows_missing _
  | some parts =>
    refine follows_bind (follows_toInt _ _) fun row _ => ?_
    exact follows_map (follows_toInt _ _)

theorem follows_readWidth (record : Json) :
    Follows (Demand.whereGiven .double (record.member? "width")) (readWidth record) := by
  unfold readWidth
  cases record.member? "width" with
  | none => exact follows_pure _
  | some j => exact follows_toFloat _ j

theorem follows_readArrow (record : Json) : Follows (arrowDemands record) (readArrow record) := by
  cases record with
  | obj members =>
    refine follows_bind (follows_readWidth _) fun width _ => ?_
    refine follows_bind (follows_readReference _ _ _) fun source _ => ?_
    exact follows_map (follows_readReference _ _ _)
  | null | bool | num | str | arr => exact follows_missing _

theorem follows_mapM {each : Json → List Demand} {f : Json → Except Fault β}
    (h : ∀ record, Follows (each record) (f record)) (records : List Json) :
    Follows (records.flatMap each) (records.mapM f) := by
  induction records with
  | nil => exact follows_pure []
  | cons record rest ih =>
    rw [List.flatMap_cons, List.mapM_cons]
    exact follows_bind (h record) fun a _ => follows_map ih

/-- A member that must be there is asked for an integer. -/
theorem follows_integer {flaw : DocumentFlaw} {j? : Option Json} {f : Int → Except Fault β}
    (hf : ∀ n, Follows qs (f n)) :
    Follows (Demand.numberOf .integer j? ++ qs)
      (demand flaw j? >>= fun j => blame flaw j.toInt >>= f) := by
  cases j? with
  | none => exact follows_bind (follows_missing flaw) nofun
  | some j =>
    change Follows _ (blame flaw j.toInt >>= f)
    exact follows_bind (follows_toInt flaw j) fun n _ => hf n

theorem follows_readTint (record : Json) : Follows (tintDemands record) (readTint record) := by
  unfold tintDemands readTint
  refine follows_bind (follows_demand _ _) fun name _ => ?_
  refine follows_integer fun row => ?_
  refine follows_integer fun col => ?_
  exact follows_map (follows_demand _ _)

theorem follows_readTints (d : Drawing) (records : List Json) :
    Follows (records.flatMap tintDemands) (readTints d records) := by
  induction records generalizing d with
  | nil => exact follows_pure d
  | cons record rest ih =>
    rw [List.flatMap_cons, readTints]
    exact follows_bind (follows_readTint record) fun t _ => ih _

/-- A list that may be missing, and then its records. -/
theorem follows_readList {data : Json} {key : String} {each : Json → List Demand}
    {f : List Json → Except Fault β}
    (hf : ∀ records, Follows (records.flatMap each ++ qs) (f records)) :
    Follows (listDemands data key each ++ qs) (readList data key >>= f) := by
  unfold listDemands readList
  cases present? data key with
  | none => exact hf []
  | some j =>
    cases j with
    | arr items => exact hf items
    | null | bool | num | str | obj => exact follows_bind (follows_missing _) nofun

/-- **The reader follows the demands of the document.** -/
theorem follows_read (data : Json) : Follows (demands data) (read data) := by
  unfold demands read
  cases data.member? "matrices" with
  | none => exact follows_missing _
  | some j =>
    cases j with
    | arr records =>
      change Follows _ (readMatrices .empty records >>= _)
      refine follows_bind (follows_readMatrices _ _) fun matrices _ => ?_
      refine follows_readList fun arrowRecords => ?_
      refine follows_bind (follows_mapM follows_readArrow _) fun arrows _ => ?_
      rw [← List.append_nil (listDemands data "coloredCells" tintDemands)]
      refine follows_readList fun tintRecords => ?_
      rw [List.append_nil]
      exact follows_readTints _ _
    | null | bool | num | str | obj => exact follows_missing _

end Document

/-! ## 4. Sessions -/

namespace Session

variable {K : Type} [Coordinate K]

/-- What a session answers to a document is what the reader answers. -/
theorem answer_import (s : Session K) (data : Json) :
    (s.step (.importDocument data)).answer = (Document.read data).map fun _ => .done := by
  rw [step, importDocument]
  cases Document.read data <;> rfl

/-- **A document is read exactly where all of its demands are met. It fails as a flaw of the
document, and so does loading it into a session, except where the first demand that is not met is
beyond the arithmetic.** -/
theorem imports_iff (s : Session K) (data : Json) :
    ((∃ d, Document.read data = .ok d) ↔ ∀ q ∈ Document.demands data, q.Met) ∧
      ((∃ f, Document.read data = .error f ∧ f.kind ≠ .importFormat) ↔
        Document.Exceeds (Document.demands data)) ∧
      (∀ f, Document.read data = .error f → f.kind = .importFormat ∨ f.kind = .overflow) ∧
      (s.step (.importDocument data)).answer = (Document.read data).map fun _ => .done := by
  have hfollows := Document.follows_read data
  refine ⟨hfollows.exists_ok_iff, hfollows.exceeds_iff, ?_, s.answer_import data⟩
  intro f hf
  rw [hf] at hfollows
  exact hfollows.kind

end Session

/-! ### A number beyond the arithmetic -/

namespace Document

/-- A document of one matrix that gives the number of its rows as infinity. -/
def endless : Json :=
  .obj
    [ ("matrices", .arr
        [ .obj
            [ ("name", .str "A"),
              ("rows", .num (.float Decimal.infinity)),
              ("cols", .num (.int 1)),
              ("values", .arr [.arr [.num (.int 1)]]) ] ]) ]

/-- A document whose failure is no flaw of the document. -/
theorem endless_overflows : ¬ ∀ data f, read data = .error f → f.kind = .importFormat := by
  intro h
  have hread : read endless = .error (.misfit .infinite) := by
    rfl
  exact nomatch h endless _ hread

end Document

end GridSketch
