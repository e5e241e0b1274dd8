import GridSketch.Proofs.View.Picking
import Mathlib.Data.List.Nodup

/-!
# Which matrix is picked

Where matrices overlap, a point may be in cells of several. The matrices are asked in the order of
their names, and a matrix that has the point within its bounds is passed over all the same if it has
no such cell. So what is picked is a cell of the matrix with the least name among those that have
one to offer (`Drawing.Chosen`), and nothing is picked only where none has.

In which order the matrices were put does not come into it. Drawings in which the same matrices are
found under the same names are gone through in one order (`sorted_congr`), and the searches in them
come to the same end, be it an answer or a fault.

All of this holds over any coordinates, rounded ones included. A search may fail, at a size too
great for a coordinate; so the first part is about a search that did not. The main statement is
`picked_by_name`.
-/

set_option autoImplicit false

namespace GridSketch

variable {K : Type} [Coordinate K]

/-! ## 1. What a matrix has to offer -/

namespace Matrix

/-- A point is within the bounds of a matrix, it is counted to be in a cell, and the cell is
there. -/
structure Holds (m : Matrix) (p : Point K) (row col : Int) : Prop where
  within : m.covers p = .ok true
  under : m.cellUnder p = .ok (row, col)
  inside : m.contains (.num (.int row)) (.num (.int col)) = .ok true

variable {m : Matrix} {p : Point K} {row col row' col' : Int}

theorem Holds.unique (h : m.Holds p row col) (h' : m.Holds p row' col') :
    row = row' ∧ col = col' :=
  Prod.mk.inj (Except.ok.inj (h.under.symm.trans h'.under))

theorem Holds.pick (h : m.Holds p row col) (name : Json) :
    m.pick name p = .ok (some ⟨name, .num (.int row), .num (.int col)⟩) := by
  simp only [Matrix.pick, h.within, h.under, h.inside, bind, Except.bind, if_true]
  rfl

theorem holds_of_pick {name : Json} {r : CellRef} (h : m.pick name p = .ok (some r)) :
    ∃ row col, m.Holds p row col ∧ r = ⟨name, .num (.int row), .num (.int col)⟩ := by
  obtain ⟨covers, hcovers, h⟩ := bind_eq_ok.mp h
  cases covers with
  | false => exact nomatch h
  | true =>
    obtain ⟨⟨row, col⟩, hunder, h⟩ := bind_eq_ok.mp h
    obtain ⟨contains, hinside, h⟩ := bind_eq_ok.mp h
    cases contains with
    | false => exact nomatch h
    | true =>
      have hr := Option.some.inj (Except.ok.inj h)
      exact ⟨row, col, ⟨hcovers, hunder, hinside⟩, hr.symm⟩

end Matrix

namespace Drawing

/-- Every matrix has a text for a name. -/
def Named (d : Drawing) : Prop :=
  d.Entries fun _ _ => True

/-- The matrix of a name has a cell under a point. -/
def Offers (d : Drawing) (p : Point K) (name : String) (row col : Int) : Prop :=
  ∃ m, d.matrices.find? (.str name) = some m ∧ m.Holds p row col

/-- A cell under a point, of the matrix with the least name among those that have one. -/
structure Chosen (d : Drawing) (p : Point K) (name : String) (row col : Int) : Prop where
  offered : d.Offers p name row col
  least : ∀ name' row' col', d.Offers p name' row' col' → name ≤ name'

variable {d d' : Drawing} {p : Point K} {name name' : String} {row col row' col' : Int}

theorem Chosen.unique (h : d.Chosen p name row col) (h' : d.Chosen p name' row' col') :
    name = name' ∧ row = row' ∧ col = col' := by
  obtain rfl : name = name' :=
    String.le_antisymm (h.least _ _ _ h'.offered) (h'.least _ _ _ h.offered)
  obtain ⟨m, hm, hholds⟩ := h.offered
  obtain ⟨m', hm', hholds'⟩ := h'.offered
  obtain rfl := Option.some.inj (hm.symm.trans hm')
  exact ⟨rfl, hholds.unique hholds'⟩

theorem Chosen.resolve (h : d.Chosen p name row col) :
    ∃ m, d.resolve (.ofText name row col) = .ok (some m) := by
  obtain ⟨m, hm, hholds⟩ := h.offered
  refine ⟨m, ?_⟩
  simp only [Drawing.resolve, find?, CellRef.ofText, Json.checkKey_str, hm, hholds.inside, bind,
    Except.bind, pure, Except.pure, if_true]

/-! ## 2. The order of the names -/

theorem Named.exists_sorted (hd : d.Named) :
    ∃ es, d.sorted = .ok es ∧ es.Perm d.matrices.entries ∧
      es.Pairwise fun a b => a.1.text?.getD "" ≤ b.1.text?.getD "" := by
  refine Drawing.exists_sorted fun e he => ?_
  obtain ⟨name, hname, _⟩ := hd e he
  exact ⟨name, hname⟩

theorem nodup_entries (d : Drawing) : d.matrices.entries.Nodup := by
  refine List.Nodup.of_map Prod.fst ?_
  refine d.matrices.distinct.imp fun hne => ?_
  rintro rfl
  rw [BEq.rfl] at hne
  exact nomatch hne

/-- The entries of a drawing are the matrices that are found in it. -/
theorem Named.mem_entries_iff (hd : d.Named) {e : Json × Matrix} :
    e ∈ d.matrices.entries ↔ d.matrices.find? e.1 = some e.2 := by
  constructor
  · exact Roster.find?_of_mem
  · intro hfind
    obtain ⟨name, hname, _⟩ := hd.of_find? hfind
    obtain ⟨key, m⟩ := e
    obtain rfl : key = .str name := hname
    exact Roster.mem_of_find?_str hfind

/-- What is found by a text alone has texts for names in every order. -/
theorem Named.congr (hd : d.Named)
    (h : ∀ name, d'.matrices.find? name = d.matrices.find? name) : d'.Named := by
  intro e he
  exact hd.of_find? ((h e.1).symm.trans (Roster.find?_of_mem he))

/-- **The order of the names is all there is to the order in which matrices are asked.** -/
theorem sorted_congr (hd : d.Named)
    (h : ∀ name, d'.matrices.find? name = d.matrices.find? name) : d'.sorted = d.sorted := by
  have hd' := hd.congr h
  obtain ⟨es, hes, hperm, hsorted⟩ := hd.exists_sorted
  obtain ⟨es', hes', hperm', hsorted'⟩ := hd'.exists_sorted
  have hentries : d'.matrices.entries.Perm d.matrices.entries := by
    rw [List.perm_ext_iff_of_nodup (nodup_entries d') (nodup_entries d)]
    intro e
    rw [hd'.mem_entries_iff, hd.mem_entries_iff, h]
  -- a name is there once, so entries of which neither comes first are one
  have hantisymm : ∀ a b, a ∈ es' → b ∈ es → a.1.text?.getD "" ≤ b.1.text?.getD "" →
      b.1.text?.getD "" ≤ a.1.text?.getD "" → a = b := by
    rintro ⟨key, m⟩ ⟨key', m'⟩ ha hb hle hge
    have ha := hentries.mem_iff.mp (hperm'.mem_iff.mp ha)
    have hb := hperm.mem_iff.mp hb
    obtain ⟨name, hname, _⟩ := hd _ ha
    obtain ⟨name', hname', _⟩ := hd _ hb
    obtain rfl : key = .str name := hname
    obtain rfl : key' = .str name' := hname'
    obtain rfl : name = name' := String.le_antisymm hle hge
    have hm : some m = some m' :=
      (Roster.find?_of_mem ha).symm.trans (Roster.find?_of_mem hb)
    rw [Option.some.inj hm]
  rw [hes, hes']
  exact congrArg _ (List.Perm.eq_of_pairwise hantisymm hsorted' hsorted
    (hperm'.trans (hentries.trans hperm.symm)))

/-! ## 3. What is picked -/

theorem chosen_of_cellAtScene (hd : d.Named) {r : CellRef}
    (h : d.cellAtScene p = .ok (some r)) :
    ∃ name row col, r = .ofText name row col ∧ d.Chosen p name row col := by
  obtain ⟨es, hes, h⟩ := bind_eq_ok.mp h
  obtain ⟨es', hes', hperm, hsorted⟩ := hd.exists_sorted
  obtain rfl := Except.ok.inj (hes.symm.trans hes')
  obtain ⟨before, ⟨key, m⟩, behind, rfl, hpick, hbefore⟩ := firstAnswer_eq_some h
  have hmem := hperm.mem_iff.mp (List.mem_append_right before List.mem_cons_self)
  obtain ⟨name, hname, _⟩ := hd _ hmem
  obtain rfl : key = .str name := hname
  obtain ⟨row, col, hholds, rfl⟩ := Matrix.holds_of_pick hpick
  refine ⟨name, row, col, rfl, ⟨m, Roster.find?_of_mem hmem, hholds⟩, ?_⟩
  rintro name' row' col' ⟨m', hm', hholds'⟩
  -- a matrix in front had no answer, and those behind have no lesser names
  have hmem' := hperm.mem_iff.mpr (Roster.mem_of_find?_str hm')
  rcases List.mem_append.mp hmem' with hfront | hback
  · have hnone := hbefore _ hfront
    rw [hholds'.pick] at hnone
    exact nomatch Except.ok.inj hnone
  · have hpairwise := List.pairwise_cons.mp (List.pairwise_append.mp hsorted).2.1
    rcases List.mem_cons.mp hback with hsame | hbehind
    · obtain rfl := Json.str.inj (Prod.mk.inj hsame).1
      exact String.le_refl _
    · exact hpairwise.1 _ hbehind

theorem not_offers_of_cellAtScene (hd : d.Named) (h : d.cellAtScene p = .ok none) :
    ¬ d.Offers p name row col := by
  rintro ⟨m, hm, hholds⟩
  obtain ⟨es, hes, h⟩ := bind_eq_ok.mp h
  obtain ⟨es', hes', hperm, _⟩ := hd.exists_sorted
  obtain rfl := Except.ok.inj (hes.symm.trans hes')
  have hmem := hperm.mem_iff.mpr (Roster.mem_of_find?_str hm)
  have hnone := firstAnswer_eq_none h _ hmem
  rw [hholds.pick] at hnone
  exact nomatch Except.ok.inj hnone

/-- **Picking goes by the names.** Where a search comes to an end without a fault it picks a cell of
the matrix with the least name among those that have one under the point, and that cell is there; it
picks none exactly where no matrix has one. And drawings that have the same matrices under the same
names, in whatever order, are picked from alike, with faults and all. -/
theorem picked_by_name (hd : d.Named) :
    (∀ (p : Point K) (found : Option CellRef), d.cellAtScene p = .ok found →
      (∀ r, found = some r ↔
        ∃ name row col, r = .ofText name row col ∧ d.Chosen p name row col) ∧
      (found = none ↔ ∀ name row col, ¬ d.Offers p name row col) ∧
      ∀ r, found = some r → ∃ m, d.resolve r = .ok (some m)) ∧
    ∀ d' : Drawing, (∀ name, d'.matrices.find? name = d.matrices.find? name) →
      ∀ (v : Viewport K) (p : Point K),
        d'.cellAt v p = d.cellAt v p ∧ d'.matrixAt v p = d.matrixAt v p := by
  constructor
  · intro p found hfound
    cases found with
    | none =>
      have hnone : ∀ name row col, ¬ d.Offers p name row col :=
        fun _ _ _ => not_offers_of_cellAtScene hd hfound
      refine ⟨fun r => ⟨nofun, ?_⟩, ⟨fun _ => hnone, fun _ => rfl⟩, nofun⟩
      rintro ⟨name, row, col, _, hchosen⟩
      exact absurd hchosen.offered (hnone name row col)
    | some r =>
      obtain ⟨name, row, col, rfl, hchosen⟩ := chosen_of_cellAtScene hd hfound
      refine ⟨fun r' => ⟨?_, ?_⟩, ⟨nofun, ?_⟩, ?_⟩
      · intro hr
        exact ⟨name, row, col, (Option.some.inj hr).symm, hchosen⟩
      · rintro ⟨name', row', col', rfl, hchosen'⟩
        obtain ⟨rfl, rfl, rfl⟩ := hchosen.unique hchosen'
        rfl
      · intro hnone
        exact absurd hchosen.offered (hnone name row col)
      · intro r' hr
        obtain rfl := Option.some.inj hr
        exact hchosen.resolve
  · intro d' hfind v p
    have hsorted := sorted_congr hd hfind
    constructor
    · rw [cellAt, cellAt, cellAtScene, cellAtScene, hsorted]
    · rw [matrixAt, matrixAt, hsorted]

/-! ### Two matrices in one place -/

/-- A matrix of one cell. -/
def tile : Matrix :=
  .sized 1 1 [[.num (.int 7)]] ⟨0.0, 0.0⟩

/-- Two tiles, one on top of the other. -/
def pile (lower upper : String) : Drawing :=
  { matrices := (Roster.empty.put (.str lower) tile).put (.str upper) tile }

theorem storable_tile : tile.Storable :=
  ⟨1, 1, rfl⟩

theorem entries_pile (lower upper : String) : (pile lower upper).Entries fun _ m => m.Storable :=
  (Entries.empty.put storable_tile).put storable_tile

theorem find?_pile (lower upper : String) (name : Json) :
    (pile lower upper).matrices.find? name =
      if .str upper == name then some tile else if .str lower == name then some tile else none := by
  rw [pile, Roster.find?_put, Roster.find?_put]
  rfl

/-- The cell of a tile is under its corner. -/
theorem holds_tile : tile.Holds (⟨tile.corner.x, -tile.corner.y⟩ : Point Rat) 0 0 := by
  have haround : tile.surrounds tile.corner = true := by
    rw [Matrix.surrounds_sized rfl rfl]
    simp
  have hpick := Matrix.pick_eq storable_tile .null tile.corner
  rw [haround, if_pos rfl] at hpick
  obtain ⟨row, col, hholds, hr⟩ := Matrix.holds_of_pick hpick
  have hrow : (tile.corner.y - tile.corner.y).floor = row :=
    Number.int.inj (Json.num.inj (congrArg CellRef.row hr))
  have hcol : (tile.corner.x - tile.corner.x).floor = col :=
    Number.int.inj (Json.num.inj (congrArg CellRef.col hr))
  rw [sub_self] at hrow hcol
  obtain rfl : row = 0 := hrow.symm
  obtain rfl : col = 0 := hcol.symm
  exact hholds

/-- Where the sizes are integers, a search over exact fractions comes to an end. -/
theorem Regular.exists_cellAtScene {d : Drawing} (hd : d.Regular) (q : Point Rat) :
    ∃ found, d.cellAtScene (⟨q.x, -q.y⟩ : Point Rat) = .ok found := by
  obtain ⟨es, hes, hmem, _⟩ := Regular.exists_sorted hd
  have hpick : ∀ e ∈ es, e.2.pick e.1 (⟨q.x, -q.y⟩ : Point Rat) =
      .ok (if e.2.surrounds q then some (e.2.cellOver e.1 q) else none) := by
    intro e he
    obtain ⟨_, _, hstorable⟩ := hd e ((hmem e).mp he)
    exact Matrix.pick_eq hstorable e.1 q
  exact ⟨_, bind_eq_ok.mpr ⟨es, hes, firstAnswer_eq hpick⟩⟩

/-- From a pile the tile with the lesser name is picked, be it on top or not. -/
theorem picked_by_name_pile :
    (pile "B" "A").Named ∧
      (∀ name, (pile "A" "B").matrices.find? name = (pile "B" "A").matrices.find? name) ∧
      (pile "B" "A").cellAtScene (⟨tile.corner.x, -tile.corner.y⟩ : Point Rat) =
        .ok (some (.ofText "A" 0 0)) ∧
      ∀ p : Point Rat,
        (pile "A" "B").cellAt Viewport.initial p = (pile "B" "A").cellAt Viewport.initial p := by
  have hnamed : (pile "B" "A").Named := by
    intro e he
    obtain ⟨name, hname, _⟩ := entries_pile "B" "A" e he
    exact ⟨name, hname, trivial⟩
  have hsame : ∀ name,
      (pile "A" "B").matrices.find? name = (pile "B" "A").matrices.find? name := by
    intro name
    rw [find?_pile, find?_pile]
    split
    · split <;> rfl
    · rfl
  obtain ⟨hpicked, horder⟩ := picked_by_name (K := Rat) hnamed
  refine ⟨hnamed, hsame, ?_, fun p => (horder _ hsame _ p).1⟩
  obtain ⟨found, hfound⟩ := Regular.exists_cellAtScene (entries_pile "B" "A") tile.corner
  have hchosen : (pile "B" "A").Chosen (⟨tile.corner.x, -tile.corner.y⟩ : Point Rat) "A" 0 0 := by
    refine ⟨⟨tile, by simp [find?_pile], holds_tile⟩, ?_⟩
    rintro name row col ⟨m, hm, _⟩
    have hname : name = "A" ∨ name = "B" := by
      by_contra hne
      obtain ⟨hA, hB⟩ := not_or.mp hne
      simp [find?_pile, Ne.symm hA, Ne.symm hB] at hm
    rcases hname with rfl | rfl
    · exact String.le_refl _
    · decide
  rw [hfound, ((hpicked _ _ hfound).1 _).mpr ⟨"A", 0, 0, rfl, hchosen⟩]

end Drawing

end GridSketch
