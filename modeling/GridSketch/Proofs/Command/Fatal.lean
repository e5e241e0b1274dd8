import GridSketch.Proofs.Command.Batch
import GridSketch.Proofs.Scene.Success

/-!
# The faults that stop a batch

A batch goes on after a command that fails, but not after every fault. Here is what makes a fault
`Fatal` that comes up in a command, from the readers upwards: each reader and each operation has one
lemma that says when it fails for such a cause, and along a chain of them it is the first failure
that counts (`fatal_bind`). There are four causes in all. A numeral is too long to be turned into an
integer (`Overlong`). There is no room for the grid of a new matrix (`Unallocatable`). The matrix of
a cell has a declared size that is no number (`Matrix.Unsized`). Or a cell is out of range, and the
last row or column of its matrix is too long to be shown (`Matrix.Unshown`).
-/

set_option autoImplicit false

namespace GridSketch

/-! ## 1. Sizes that no cell can be checked against -/

namespace Matrix

/-- The declared size has a part that is no number. -/
def Unsized (m : Matrix) : Prop :=
  m.rows.number? = none ∨ m.cols.number? = none

/-- The last row or the last column is an integer that is too long to be shown. -/
def Unshown (m : Matrix) : Prop :=
  ∃ last, (Fault.lastIndex m.rows = .ok last ∨ Fault.lastIndex m.cols = .ok last) ∧
    last.isPrintable = false

end Matrix

/-- Of a number it can be told whether an index is below it, and of nothing else. -/
theorem Json.isBelow_ofNat (i : Nat) (bound : Json) :
    (bound.number? = none ∧ ∃ fault, isBelow (.num (.int i)) bound = .error fault ∧
        fault.kind = .badType) ∨
      (bound.number? ≠ none ∧ ∃ b, isBelow (.num (.int i)) bound = .ok b) := by
  have hfirst : isBelow (.num (.int i)) bound =
      compareSimple .less (.num (.int i)) bound := by
    rw [isBelow, comparesTo_int, atMost_holds_int, decide_eq_true (Int.natCast_nonneg i)]
    rfl
  rw [hfirst]
  cases bound with
  | num n => exact Or.inr ⟨Option.some_ne_none n, _, rfl⟩
  | bool b => exact Or.inr ⟨Option.some_ne_none _, _, rfl⟩
  | null | str | arr | obj => exact Or.inl ⟨rfl, _, rfl, rfl⟩

namespace Fault

theorem lastIndex_cases (j : Json) :
    (j.number? = none ∧ ∃ fault, lastIndex j = .error fault ∧ fault.kind = .badType) ∨
      (j.number? ≠ none ∧ ∃ last, lastIndex j = .ok last) := by
  cases j with
  | num n =>
    refine Or.inr ⟨Option.some_ne_none n, ?_⟩
    cases n with
    | int n => exact ⟨_, rfl⟩
    | float x => exact ⟨_, rfl⟩
  | bool b => exact Or.inr ⟨Option.some_ne_none _, _, rfl⟩
  | null | str | arr | obj => exact Or.inl ⟨rfl, _, rfl, rfl⟩

/-- That a cell is out of range can be said of a size whose last indices can be shown. -/
theorem recoverable_outOfRange (role : String) (m : Matrix) :
    (outOfRange role m.rows m.cols).kind.recoverable = false ↔ m.Unsized ∨ m.Unshown := by
  unfold outOfRange
  rcases lastIndex_cases m.rows with ⟨hnone, fault, hrow, hkind⟩ | ⟨hrows, row, hrow⟩
  · rw [hrow]
    dsimp only
    rw [hkind]
    exact ⟨fun _ => Or.inl (Or.inl hnone), fun _ => rfl⟩
  rw [hrow]
  rcases lastIndex_cases m.cols with ⟨hnone, fault, hcol, hkind⟩ | ⟨hcols, col, hcol⟩
  · rw [hcol]
    refine ⟨fun _ => Or.inl (Or.inr hnone), fun _ => ?_⟩
    dsimp only
    split
    · rw [hkind]
      rfl
    · rfl
  rw [hcol]
  dsimp only
  split
  · rename_i hshown
    obtain ⟨hshown, hshown'⟩ := Bool.and_eq_true_iff.mp hshown
    refine ⟨nofun, ?_⟩
    rintro ((h | h) | ⟨last, hlast, hlong⟩)
    · exact absurd h hrows
    · exact absurd h hcols
    · have hlast : last = row ∨ last = col := by
        rcases hlast with hlast | hlast
        · exact Or.inl (Except.ok.inj (hlast.symm.trans hrow))
        · exact Or.inr (Except.ok.inj (hlast.symm.trans hcol))
      rcases hlast with rfl | rfl
      · exact Bool.noConfusion (hshown.symm.trans hlong)
      · exact Bool.noConfusion (hshown'.symm.trans hlong)
  · rename_i hhidden
    refine ⟨fun _ => Or.inr ?_, fun _ => rfl⟩
    cases hr : row.isPrintable with
    | false => exact ⟨row, Or.inl hrow, hr⟩
    | true =>
      cases hc : col.isPrintable with
      | false => exact ⟨col, Or.inr hcol, hc⟩
      | true => exact absurd (Bool.and_eq_true_iff.mpr ⟨hr, hc⟩) hhidden

end Fault

/-- Whether a cell is in a matrix can be told where the size is two numbers. Where it is not, that
is a fault, unless the cell is below the last row by then. -/
theorem Matrix.contains_ofNat (m : Matrix) (i j : Nat) :
    (m.Unsized ∧ ((∃ fault, m.contains (.num (.int i)) (.num (.int j)) = .error fault ∧
          fault.kind = .badType) ∨
        m.contains (.num (.int i)) (.num (.int j)) = .ok false)) ∨
      (¬ m.Unsized ∧ ∃ b, m.contains (.num (.int i)) (.num (.int j)) = .ok b) := by
  unfold contains
  rcases Json.isBelow_ofNat i m.rows with ⟨hnone, fault, hrow, hkind⟩ | ⟨hrows, b, hrow⟩
  · rw [hrow]
    exact Or.inl ⟨Or.inl hnone, Or.inl ⟨fault, rfl, hkind⟩⟩
  · rw [hrow]
    rcases Json.isBelow_ofNat j m.cols with ⟨hnone, fault, hcol, hkind⟩ | ⟨hcols, b', hcol⟩
    · -- the columns are not looked at where the row is out of range already
      refine Or.inl ⟨Or.inr hnone, ?_⟩
      cases b with
      | true => exact Or.inl ⟨fault, hcol, hkind⟩
      | false => exact Or.inr rfl
    · refine Or.inr ⟨fun h => h.elim hrows hcols, ?_⟩
      cases b with
      | true => exact ⟨b', hcol⟩
      | false => exact ⟨false, rfl⟩

namespace Drawing

/-- A cell whose matrix is there, but has no size to check the cell against, or none that could be
shown where the cell is out of range. -/
def Baffles (d : Drawing) (r : CellRef) : Prop :=
  ∃ m, d.matrices.find? r.matrix = some m ∧
    (m.Unsized ∨ m.contains r.row r.col = .ok false ∧ m.Unshown)

end Drawing

namespace Command

/-! ## 2. Chains -/

section

variable {α β : Type}

theorem not_fatal_ok (a : α) : ¬ Fatal (.ok a : Except Fault α) := by
  rintro ⟨fault, h, _⟩
  exact nomatch h

theorem not_fatal_pure (a : α) : ¬ Fatal (pure a : Except Fault α) :=
  not_fatal_ok a

theorem fatal_error {fault : Fault} :
    Fatal (.error fault : Except Fault α) ↔ fault.kind.recoverable = false := by
  constructor
  · rintro ⟨fault', h, hr⟩
    obtain rfl := Except.error.inj h
    exact hr
  · intro hr
    exact ⟨fault, rfl, hr⟩

theorem fatal_throw {fault : Fault} :
    Fatal (throw fault : Except Fault α) ↔ fault.kind.recoverable = false :=
  fatal_error

/-- A chain fails where one of its links does, after the links before it have answered. -/
theorem fatal_bind {x : Except Fault α} {f : α → Except Fault β} :
    Fatal (x >>= f) ↔ Fatal x ∨ ∃ a, x = .ok a ∧ Fatal (f a) := by
  cases x with
  | error fault =>
    have hbind : (.error fault >>= f : Except Fault β) = .error fault := rfl
    rw [hbind, fatal_error, fatal_error]
    exact ⟨Or.inl, fun h => h.resolve_right fun ⟨_, ha, _⟩ => nomatch ha⟩
  | ok a =>
    have hbind : (.ok a >>= f : Except Fault β) = f a := rfl
    rw [hbind]
    constructor
    · intro h
      exact Or.inr ⟨a, rfl, h⟩
    · rintro (h | ⟨a', ha, h⟩)
      · exact absurd h (not_fatal_ok a)
      · obtain rfl := Except.ok.inj ha
        exact h

theorem fatal_bind_of_not {x : Except Fault α} {f : α → Except Fault β} (h : ∀ a, ¬ Fatal (f a)) :
    Fatal (x >>= f) ↔ Fatal x := by
  rw [fatal_bind]
  exact or_iff_left fun ⟨a, _, ha⟩ => h a ha

end

/-! ## 3. Readers -/

/-- Digits that are too many to be turned into an integer. -/
def Overlong (ds : List Char) : Prop :=
  Text.digitLimit < ds.length

/-- The first cell in a text has an index that is too long. -/
def OverlongCell (cs : List Char) : Prop :=
  ∃ c, Text.findFirst readCell cs = some c ∧ (Overlong c.row ∨ Overlong c.col)

/-- The first size in a text has a part that is too long. -/
def OverlongSize (cs : List Char) : Prop :=
  ∃ s, Text.findFirst (readPair '[' ']' readDigits) cs = some s ∧ (Overlong s.1 ∨ Overlong s.2)

/-- A text is an integer that is too long. A decimal with a point may have any number of digits. -/
def OverlongNumber (cs : List Char) : Prop :=
  ∃ l, literal? (Text.trim cs) = some l ∧ l.places = none ∧ Overlong l.whole

variable {cs ds : List Char}

theorem fatal_natural : Fatal (natural ds) ↔ Overlong ds := by
  unfold natural Overlong
  split
  · rename_i hlong
    exact ⟨fun _ => hlong, fun _ => fatal_error.mpr rfl⟩
  · rename_i hshort
    exact ⟨fun h => absurd h (not_fatal_ok _), fun h => absurd h hshort⟩

theorem natural_of_not_overlong (h : ¬ Overlong ds) : natural ds = .ok (Text.digitsValue ds) := by
  unfold natural
  exact if_neg h

theorem fatal_naturals {α : Type} (ds ds' : List Char) (f : Nat → Nat → α) :
    Fatal (natural ds >>= fun m => natural ds' >>= fun n => pure (f m n)) ↔
      Overlong ds ∨ Overlong ds' := by
  rw [fatal_bind, fatal_natural]
  by_cases hlong : Overlong ds
  · exact ⟨fun _ => Or.inl hlong, fun _ => Or.inl hlong⟩
  · have hok := natural_of_not_overlong hlong
    constructor
    · rintro (h | ⟨m, _, h⟩)
      · exact Or.inl h
      · rw [fatal_bind, fatal_natural] at h
        exact Or.inr (h.resolve_right fun ⟨_, _, hpure⟩ => not_fatal_pure _ hpure)
    · rintro (h | h)
      · exact Or.inl h
      · exact Or.inr ⟨_, hok, fatal_bind.mpr (Or.inl (fatal_natural.mpr h))⟩

theorem fatal_cell {role : String} : Fatal (cell cs role) ↔ OverlongCell cs := by
  unfold cell OverlongCell
  cases Text.findFirst readCell cs with
  | none =>
    constructor
    · intro h
      exact nomatch fatal_error.mp h
    · rintro ⟨c, hc, _⟩
      exact nomatch hc
  | some c =>
    dsimp only
    rw [fatal_naturals]
    exact ⟨fun h => ⟨c, rfl, h⟩, fun ⟨c', hc, h⟩ => Option.some.inj hc ▸ h⟩

theorem fatal_size : Fatal (size cs) ↔ OverlongSize cs := by
  unfold size OverlongSize
  cases Text.findFirst (readPair '[' ']' readDigits) cs with
  | none =>
    constructor
    · intro h
      exact nomatch fatal_error.mp h
    · rintro ⟨s, hs, _⟩
      exact nomatch hs
  | some s =>
    dsimp only
    rw [fatal_naturals]
    exact ⟨fun h => ⟨s, rfl, h⟩, fun ⟨s', hs, h⟩ => Option.some.inj hs ▸ h⟩

theorem fatal_number : Fatal (number cs) ↔ OverlongNumber cs := by
  unfold number OverlongNumber
  dsimp only
  cases literal? (Text.trim cs) with
  | none =>
    constructor
    · intro h
      exact nomatch fatal_error.mp h
    · rintro ⟨l, hl, _⟩
      exact nomatch hl
  | some l =>
    dsimp only
    unfold Literal.value
    cases hp : l.places with
    | some ps =>
      constructor
      · intro h
        exact absurd h (not_fatal_ok _)
      · rintro ⟨l', hl, hnone, _⟩
        obtain rfl := Option.some.inj hl
        rw [hp] at hnone
        exact nomatch hnone
    | none =>
      dsimp only
      rw [fatal_bind, fatal_natural]
      constructor
      · rintro (h | ⟨_, _, h⟩)
        · exact ⟨l, rfl, hp, h⟩
        · exact absurd h (not_fatal_pure _)
      · rintro ⟨l', hl, _, h⟩
        obtain rfl := Option.some.inj hl
        exact Or.inl h

theorem not_fatal_position : ¬ Fatal (position cs) := by
  unfold position
  split
  · intro h
    exact nomatch fatal_error.mp h
  · exact not_fatal_ok _

theorem not_fatal_validate (name : String) : ¬ Fatal (Name.validate (.str name)) := by
  unfold Name.validate
  rw [fatal_bind, Name.checkReserved_str]
  rintro (h | ⟨_, _, h⟩)
  · split at h
    · exact nomatch fatal_error.mp h
    · exact not_fatal_ok _ h
  · rw [Json.asSubject_str, fatal_bind] at h
    rcases h with h | ⟨_, _, h⟩
    · exact not_fatal_ok _ h
    · split at h
      · exact not_fatal_pure _ h
      · exact nomatch fatal_throw.mp h

/-! ## 4. Operations -/

/-- A cell as a command names it. -/
def Typed (r : CellRef) : Prop :=
  ∃ p : Place, p.ref = r

theorem typed_of_cell {role : String} {r : CellRef} (h : cell cs role = .ok r) : Typed r := by
  unfold cell at h
  split at h
  · exact nomatch h
  · rename_i c _
    simp only [bind_eq_ok, pure_eq_ok] at h
    obtain ⟨row, _, col, _, rfl⟩ := h
    exact ⟨⟨_, row, col⟩, rfl⟩

/-- A definition that no grid can be laid out for, although its size is positive. -/
def Unallocatable (rows cols : Nat) : Prop :=
  0 < rows ∧ 0 < cols ∧ ∀ layout, Grid.layOut .sequential rows cols ≠ .ok layout

variable {d : Drawing} {r : CellRef}

/-- Whether a cell is in the matrix that was found for it. -/
theorem fatal_inside (m : Matrix) (row col : Nat) (role : String) :
    Fatal (m.contains (.num (.int row)) (.num (.int col)) >>= fun inside =>
        if inside then pure m else throw (Fault.outOfRange role m.rows m.cols)) ↔
      m.Unsized ∨ m.contains (.num (.int row)) (.num (.int col)) = .ok false ∧ m.Unshown := by
  rw [fatal_bind]
  rcases m.contains_ofNat row col with ⟨hunsized, ⟨fault, hc, hkind⟩ | hc⟩ | ⟨hsized, inside, hc⟩
  · refine ⟨fun _ => Or.inl hunsized, fun _ => Or.inl ⟨fault, hc, ?_⟩⟩
    rw [hkind]
    rfl
  · have hfault := (Fault.recoverable_outOfRange role m).mpr (Or.inl hunsized)
    exact ⟨fun _ => Or.inl hunsized, fun _ => Or.inr ⟨false, hc, fatal_throw.mpr hfault⟩⟩
  · rw [hc]
    cases inside with
    | true =>
      constructor
      · rintro (h | ⟨_, ⟨rfl⟩, h⟩)
        · exact absurd h (not_fatal_ok true)
        · exact absurd h (not_fatal_pure m)
      · rintro (h | ⟨h, _⟩)
        · exact absurd h hsized
        · exact Bool.noConfusion (Except.ok.inj h)
    | false =>
      constructor
      · rintro (h | ⟨_, ⟨rfl⟩, h⟩)
        · exact absurd h (not_fatal_ok false)
        · have hbad := (Fault.recoverable_outOfRange role m).mp (fatal_throw.mp h)
          exact hbad.imp_right fun hshown => ⟨rfl, hshown⟩
      · rintro (h | ⟨_, h⟩)
        · exact absurd h hsized
        · have hfault := (Fault.recoverable_outOfRange role m).mpr (Or.inr h)
          exact Or.inr ⟨false, rfl, fatal_throw.mpr hfault⟩

theorem fatal_requireCell {role : String} (hr : Typed r) :
    Fatal (d.requireCell r role) ↔ d.Baffles r := by
  obtain ⟨⟨name, row, col⟩, rfl⟩ := hr
  unfold Drawing.requireCell Drawing.Baffles Place.ref CellRef.ofText
  dsimp only
  rw [fatal_bind]
  cases hfind : d.matrices.find? (.str name) with
  | none =>
    rw [Drawing.matrix_of_find?_none rfl hfind]
    constructor
    · rintro (h | ⟨m, hm, _⟩)
      · exact Bool.noConfusion (fatal_error.mp h)
      · cases hm
    · rintro ⟨m, hm, _⟩
      cases hm
  | some m =>
    rw [Drawing.matrix_of_find? rfl hfind]
    constructor
    · rintro (h | ⟨_, ⟨rfl⟩, h⟩)
      · exact absurd h (not_fatal_ok m)
      · exact ⟨m, rfl, (fatal_inside m row col role).mp h⟩
    · rintro ⟨_, ⟨rfl⟩, h⟩
      exact Or.inr ⟨m, rfl, (fatal_inside m row col role).mpr h⟩

/-- A cell is required and found if it is there. -/
theorem exists_requireCell (role : String) (hr : Typed r) :
    (∃ m, d.requireCell r role = .ok m) ↔ d.HasCell r := by
  constructor
  · rintro ⟨m, hm⟩
    exact Drawing.hasCell_of_requireCell hm
  · rintro ⟨m, hm, hcell⟩
    obtain ⟨p, rfl⟩ := hr
    exact ⟨m, Drawing.requireCell_of_find? rfl hm hcell role⟩

theorem not_fatal_putMatrix (name : String) (m : Matrix) :
    ¬ Fatal (d.putMatrix (.str name) m) := by
  unfold Drawing.putMatrix
  rw [fatal_bind, Name.checkReserved_str]
  rintro (h | ⟨_, _, h⟩)
  · split at h
    · exact nomatch fatal_error.mp h
    · exact not_fatal_ok _ h
  · exact not_fatal_pure _ h

/-- A size is refused for a cause that stops a batch where there is no room for it. That it is not
positive is no such cause, as long as it can be said. -/
theorem fatal_make {rows cols : Nat} (hrow : Text.withinDigitLimit rows)
    (hcol : Text.withinDigitLimit cols) :
    Fatal (Grid.make .sequential rows cols) ↔ Unallocatable rows cols := by
  unfold Grid.make Unallocatable
  rw [fatal_bind]
  unfold Grid.checkSize
  by_cases hsize : (rows : Int) < 1 ∨ (cols : Int) < 1
  · have hshown : [Json.num (.int rows), .num (.int cols)].all Json.isPrintable = true := by
      simp [hrow, hcol]
    rw [if_pos hsize]
    dsimp only
    rw [Fault.showing_of_printable hshown]
    constructor
    · rintro (h | ⟨_, h, _⟩)
      · exact nomatch fatal_error.mp h
      · exact nomatch h
    · rintro ⟨hrows, hcols, _⟩
      omega
  · rw [if_neg hsize]
    have hpos : 0 < rows ∧ 0 < cols := by omega
    have hsquare : ¬ (Filling.sequential.squareOnly ∧ (rows : Int) ≠ cols) := fun h => nomatch h.1
    rw [if_neg hsquare, fatal_bind, Int.toNat_natCast, Int.toNat_natCast]
    unfold Grid.tooLarge
    cases Grid.layOut .sequential rows cols with
    | error cause =>
      have hfatal : (Fault.oversize cause).kind.recoverable = false := by cases cause <;> rfl
      refine ⟨fun _ => ⟨hpos.1, hpos.2, nofun⟩, fun _ => Or.inr ⟨(), rfl, Or.inl ?_⟩⟩
      exact fatal_error.mpr hfatal
    | ok layout =>
      constructor
      · rintro (h | ⟨_, _, h | ⟨_, ⟨rfl⟩, h⟩⟩)
        · exact absurd h (not_fatal_ok ())
        · exact absurd h (not_fatal_ok layout)
        · cases layout with
          | whole => exact absurd h (not_fatal_ok _)
          | rowless => exact absurd h (not_fatal_ok _)
      · rintro ⟨_, _, h⟩
        exact absurd rfl (h layout)

theorem fatal_create {name : String} {rows cols : Nat} {corner : Point Float}
    (hrow : Text.withinDigitLimit rows) (hcol : Text.withinDigitLimit cols) :
    Fatal (create d name rows cols corner) ↔ Unallocatable rows cols := by
  unfold create
  refine (fatal_bind_of_not fun values => ?_).trans (fatal_make hrow hcol)
  rw [fatal_bind_of_not fun d' => not_fatal_pure _]
  exact not_fatal_putMatrix name _

/-- What is done with the matrix of a cell once it is found. -/
theorem fatal_requireCell_bind {α : Type} {role : String} {f : Matrix → Except Fault α} {P : Prop}
    (hr : Typed r) (hf : ∀ m, Fatal (f m) ↔ P) :
    Fatal (d.requireCell r role >>= f) ↔ d.Baffles r ∨ d.HasCell r ∧ P := by
  rw [fatal_bind, fatal_requireCell hr, ← exists_requireCell role hr]
  refine or_congr_right ?_
  constructor
  · rintro ⟨m, hm, h⟩
    exact ⟨⟨m, hm⟩, (hf m).mp h⟩
  · rintro ⟨⟨m, hm⟩, h⟩
    exact ⟨m, hm, (hf m).mpr h⟩

theorem fatal_join {source target : CellRef} (hsource : Typed source) (htarget : Typed target) :
    Fatal (join d source target cs) ↔
      d.Baffles source ∨ d.HasCell source ∧ d.Baffles target := by
  refine fatal_requireCell_bind hsource fun _ => ?_
  exact (fatal_bind_of_not fun _ => not_fatal_pure _).trans (fatal_requireCell htarget)

theorem fatal_tint (hr : Typed r) : Fatal (tint d r cs) ↔ d.Baffles r := by
  refine (fatal_bind_of_not fun _ => ?_).trans (fatal_requireCell hr)
  intro h
  dsimp only at h
  split at h
  · exact nomatch fatal_throw.mp h
  · split at h
    · exact not_fatal_pure _ h
    · exact not_fatal_pure _ h

theorem fatal_assign (hr : Typed r) :
    Fatal (assign d r cs) ↔ d.Baffles r ∨ d.HasCell r ∧ OverlongNumber cs := by
  refine fatal_requireCell_bind hr fun m => (fatal_bind_of_not fun v => ?_).trans fatal_number
  obtain ⟨p, rfl⟩ := hr
  rw [fatal_bind_of_not fun _ => not_fatal_pure _]
  exact not_fatal_putMatrix p.name _

end Command

end GridSketch
