import GridSketch.Proofs.Scene.Tinting
import GridSketch.Proofs.Session.Reserved

/-!
# Records that say the same thing twice

A document may have two records for one matrix, or two for one cell, and it may take reading to see
that they are: names are compared as they are shown, rows and columns as integers. For each of the
three lists of a document the later record wins in its own way. A matrix keeps the place that its
name had first and takes the content of the last record (`names_readMatrices`,
`find?_readMatrices`). Arrows have no names, and all of them are kept. A cell takes the colour of
its last record and the place of it (`readTints_eq_ok`, with `Drawing.latest`). `read_collapses`
says the three together for every document that is read.
-/

set_option autoImplicit false

namespace GridSketch.Document

/-! ## 1. Matrices -/

/-- A record with a name that is not bare and with values, bare or not, but for nothing at all. -/
structure Carries (record : Json) (name : String) (values : Json) : Prop where
  name : ∃ j, record.member? "name" = some j ∧ j.isBare = false ∧ j.shown = name
  values : record.member? "values" = some values ∧ values.isNull = false

theorem nameAndValues?_eq_some_iff {record values : Json} {name : String} :
    nameAndValues? record = some (name, values) ↔ Carries record name values := by
  have hgiven : ∀ j, given? record "name" = some j ↔
      record.member? "name" = some j ∧ j.isBare = false := by
    intro j
    simp [given?, Option.filter_eq_some_iff]
  have hpresent : ∀ j, present? record "values" = some j ↔
      record.member? "values" = some j ∧ j.isNull = false := by
    intro j
    simp [present?, Option.filter_eq_some_iff]
  simp only [nameAndValues?, Option.bind_eq_bind, Option.bind_eq_some_iff, hgiven, hpresent,
    Option.pure_def, Option.some.injEq, Prod.mk.injEq]
  constructor
  · rintro ⟨j, ⟨hj, hbare⟩, _, hvalues, rfl, rfl⟩
    exact ⟨⟨j, hj, hbare, rfl⟩, hvalues⟩
  · rintro ⟨⟨j, hj, hbare, rfl⟩, hvalues⟩
    exact ⟨j, ⟨hj, hbare⟩, values, hvalues, rfl, rfl⟩

/-- The record of a list that is the last to carry the name, with its values. -/
def IsLast (records : List Json) (name : String) (record values : Json) : Prop :=
  ∃ before behind, records = before ++ record :: behind ∧ Carries record name values ∧
    ∀ record' ∈ behind, ∀ values', ¬ Carries record' name values'

theorem not_carries_of_none {record : Json} (h : nameAndValues? record = none) (name : String)
    (values : Json) : ¬ Carries record name values := by
  intro hcarries
  rw [nameAndValues?_eq_some_iff.mpr hcarries] at h
  cases h

theorem Carries.unique {record values values' : Json} {name name' : String}
    (h : Carries record name values) (h' : Carries record name' values') :
    name = name' ∧ values = values' := by
  have hsame := (nameAndValues?_eq_some_iff.mpr h).symm.trans (nameAndValues?_eq_some_iff.mpr h')
  exact Prod.mk.inj (Option.some.inj hsame)

/-- Behind a record, the last one is the last of all; where there is none, it is the record itself,
if it carries the name. -/
theorem isLast_cons {record : Json} {rest : List Json} {name : String} {last values : Json} :
    IsLast (record :: rest) name last values ↔
      IsLast rest name last values ∨
        (last = record ∧ Carries record name values ∧
          ∀ record' ∈ rest, ∀ values', ¬ Carries record' name values') := by
  constructor
  · rintro ⟨before, behind, heq, hcarries, hbehind⟩
    cases before with
    | nil =>
      obtain ⟨rfl, rfl⟩ := List.cons.inj heq
      exact Or.inr ⟨rfl, hcarries, hbehind⟩
    | cons first before =>
      obtain ⟨rfl, rfl⟩ := List.cons.inj heq
      exact Or.inl ⟨before, behind, rfl, hcarries, hbehind⟩
  · rintro (⟨before, behind, rfl, hcarries, hbehind⟩ | ⟨rfl, hcarries, hbehind⟩)
    · exact ⟨record :: before, behind, rfl, hcarries, hbehind⟩
    · exact ⟨[], rest, rfl, hcarries, hbehind⟩

theorem eraseDups_concat (ns : List String) (n : String) :
    (ns ++ [n]).eraseDups = if n ∈ ns then ns.eraseDups else ns.eraseDups ++ [n] := by
  rw [List.eraseDups_append]
  by_cases hmem : n ∈ ns
  · simp [List.removeAll, hmem]
  · simp [List.removeAll, hmem, List.eraseDups_cons]

variable {records : List Json} {ms ms' : Roster Json Matrix}

/-- **A matrix has the place that its name had first.** -/
theorem names_readMatrices {ns : List String} (hms : ms.names = ns.eraseDups.map .str)
    (h : readMatrices ms records = .ok ms') :
    ms'.names = (ns ++ namesIn records).eraseDups.map .str := by
  induction records generalizing ms ns with
  | nil =>
    obtain rfl := Except.ok.inj h
    rw [namesIn, List.filterMap_nil, List.append_nil, hms]
  | cons record rest ih =>
    rw [readMatrices] at h
    cases hrecord : nameAndValues? record with
    | none =>
      rw [hrecord] at h
      have hnames : namesIn (record :: rest) = namesIn rest := by
        simp [namesIn, hrecord]
      rw [hnames]
      exact ih hms h
    | some found =>
      obtain ⟨name, values⟩ := found
      rw [hrecord] at h
      obtain ⟨m, _, hrest⟩ := bind_eq_ok.mp h
      have hnames : namesIn (record :: rest) = name :: namesIn rest := by
        simp [namesIn, hrecord]
      have hput : (ms.put (.str name) m).names = (ns ++ [name]).eraseDups.map .str := by
        have hhas : ms.has (.str name) = true ↔ name ∈ ns := by
          simp [Roster.has_eq, hms]
        rw [Roster.names_put, hms, eraseDups_concat]
        by_cases hmem : name ∈ ns
        · rw [if_pos (hhas.mpr hmem), if_pos hmem]
        · rw [if_neg (fun hyes => hmem (hhas.mp hyes)), if_neg hmem, List.map_append]
          rfl
      rw [hnames, List.append_cons]
      exact ih hput hrest

/-- **A matrix has the content of the last record that carries its name**, or was there before. -/
theorem find?_readMatrices (h : readMatrices ms records = .ok ms') (name : String) (m : Matrix) :
    ms'.find? (.str name) = some m ↔
      (∃ record values, IsLast records name record values ∧ readMatrix record values = .ok m) ∨
        (∀ record ∈ records, ∀ values, ¬ Carries record name values) ∧
          ms.find? (.str name) = some m := by
  induction records generalizing ms with
  | nil =>
    obtain rfl := Except.ok.inj h
    constructor
    · intro hm
      exact Or.inr ⟨List.forall_mem_nil _, hm⟩
    · rintro (⟨_, _, ⟨before, _, heq, _⟩, _⟩ | ⟨_, hm⟩)
      · exact absurd heq (by simp)
      · exact hm
  | cons record rest ih =>
    rw [readMatrices] at h
    simp only [isLast_cons, List.forall_mem_cons]
    cases hrecord : nameAndValues? record with
    | none =>
      -- the record is passed over, and it carries nothing
      rw [hrecord] at h
      have hnone := not_carries_of_none hrecord name
      rw [ih h]
      constructor
      · rintro (⟨last, values, hlast, hm⟩ | ⟨hrest, hm⟩)
        · exact Or.inl ⟨last, values, Or.inl hlast, hm⟩
        · exact Or.inr ⟨⟨hnone, hrest⟩, hm⟩
      · rintro (⟨last, values, hlast | ⟨_, hcarries, _⟩, hm⟩ | ⟨⟨_, hrest⟩, hm⟩)
        · exact Or.inl ⟨last, values, hlast, hm⟩
        · exact absurd hcarries (hnone values)
        · exact Or.inr ⟨hrest, hm⟩
    | some found =>
      obtain ⟨name', values'⟩ := found
      rw [hrecord] at h
      obtain ⟨m', hm', hrest⟩ := bind_eq_ok.mp h
      have hcarries' := nameAndValues?_eq_some_iff.mp hrecord
      rw [ih hrest, Roster.find?_put]
      by_cases hname : name' = name
      · subst hname
        have hkey : (Json.str name' == Json.str name') = true := BEq.rfl
        rw [if_pos hkey]
        constructor
        · rintro (⟨last, values, hlast, hm⟩ | ⟨hrest, hm⟩)
          · exact Or.inl ⟨last, values, Or.inl hlast, hm⟩
          · obtain rfl := Option.some.inj hm
            exact Or.inl ⟨record, values', Or.inr ⟨rfl, hcarries', hrest⟩, hm'⟩
        · rintro (⟨last, values, hlast | ⟨rfl, hcarries, hrest⟩, hm⟩ | ⟨⟨hnone, _⟩, _⟩)
          · exact Or.inl ⟨last, values, hlast, hm⟩
          · obtain ⟨_, rfl⟩ := hcarries.unique hcarries'
            exact Or.inr ⟨hrest, congrArg some (Except.ok.inj (hm'.symm.trans hm))⟩
          · exact absurd hcarries' (hnone values')
      · have hkey : ¬ (Json.str name' == Json.str name) = true := by simpa using hname
        have hnone : ∀ values, ¬ Carries record name values :=
          fun values hcarries => hname (hcarries'.unique hcarries).1
        rw [if_neg hkey]
        constructor
        · rintro (⟨last, values, hlast, hm⟩ | ⟨hrest, hm⟩)
          · exact Or.inl ⟨last, values, Or.inl hlast, hm⟩
          · exact Or.inr ⟨⟨hnone, hrest⟩, hm⟩
        · rintro (⟨last, values, hlast | ⟨rfl, hcarries, _⟩, hm⟩ | ⟨⟨_, hrest⟩, hm⟩)
          · exact Or.inl ⟨last, values, hlast, hm⟩
          · exact absurd hcarries (hnone values)
          · exact Or.inr ⟨hrest, hm⟩

/-! ## 2. Arrows and tints -/

/-- Where a list is read item by item, there is a result for each, in order. -/
theorem forall₂_of_mapM {α : Type} {read : Json → Except Fault α} {as : List α}
    (h : records.mapM read = .ok as) : List.Forall₂ (fun record a => read record = .ok a)
      records as := by
  induction records generalizing as with
  | nil =>
    obtain rfl := pure_eq_ok.mp h
    exact .nil
  | cons record rest ih =>
    simp only [List.mapM_cons, bind_eq_ok, pure_eq_ok] at h
    obtain ⟨a, ha, as', has, rfl⟩ := h
    exact .cons ha (ih has)

theorem demand_eq_ok {α : Type} {flaw : DocumentFlaw} {found : Option α} {a : α} :
    demand flaw found = .ok a ↔ found = some a := by
  cases found with
  | none => exact iff_of_false nofun nofun
  | some b => exact ⟨fun h => congrArg _ (Except.ok.inj h), fun h => congrArg _ (Option.some.inj h)⟩

theorem blame_eq_ok {α : Type} {flaw : DocumentFlaw} {x : Except Misfit α} {a : α} :
    blame flaw x = .ok a ↔ x = .ok a := by
  cases x with
  | ok b => exact ⟨fun h => congrArg _ (Except.ok.inj h), fun h => congrArg _ (Except.ok.inj h)⟩
  | error m =>
    refine iff_of_false ?_ ?_
    · intro h
      rw [blame] at h
      split at h
      · cases h
      · cases h
    · intro h
      cases h

/-- The tint that a record is for: the name and the colour are taken as they are shown, the row and
the column as integers. -/
def Describes (record : Json) (t : Tint) : Prop :=
  ∃ matrix row col colour i j,
    record.member? "matrix" = some matrix ∧ record.member? "row" = some row ∧
    record.member? "col" = some col ∧ record.member? "color" = some colour ∧
    row.toInt = .ok i ∧ col.toInt = .ok j ∧
    t = ⟨.ofText matrix.shown i j, .str colour.shown⟩

theorem readTint_eq_ok {record : Json} {t : Tint} :
    readTint record = .ok t ↔ Describes record t := by
  simp only [readTint, bind_eq_ok, pure_eq_ok, demand_eq_ok, blame_eq_ok]
  constructor
  · rintro ⟨matrix, hmatrix, row, hrow, i, hi, col, hcol, j, hj, colour, hcolour, rfl⟩
    exact ⟨matrix, row, col, colour, i, j, hmatrix, hrow, hcol, hcolour, hi, hj, rfl⟩
  · rintro ⟨matrix, row, col, colour, i, j, hmatrix, hrow, hcol, hcolour, hi, hj, rfl⟩
    exact ⟨matrix, hmatrix, row, hrow, i, hi, col, hcol, j, hj, colour, hcolour, rfl⟩

/-- The tints of the records are put one after the other. -/
theorem readTints_eq_ok {d d' : Drawing} (h : readTints d records = .ok d') :
    ∃ ts, List.Forall₂ Describes records ts ∧ d' = ts.foldl Drawing.putTint d := by
  induction records generalizing d with
  | nil =>
    obtain rfl := Except.ok.inj h
    exact ⟨[], .nil, rfl⟩
  | cons record rest ih =>
    simp only [readTints, bind_eq_ok] at h
    obtain ⟨t, ht, h⟩ := h
    obtain ⟨ts, hts, rfl⟩ := ih h
    exact ⟨t :: ts, .cons (readTint_eq_ok.mp ht) hts, rfl⟩

/-! ## 3. Documents -/

/-- What is read of a document that is accepted, list by list. -/
theorem read_eq_ok {data : Json} {d : Drawing} (h : read data = .ok d) :
    ∃ records arrowRecords tintRecords ms arrows,
      data.member? "matrices" = some (.arr records) ∧ readMatrices .empty records = .ok ms ∧
      readList data "arrows" = .ok arrowRecords ∧ arrowRecords.mapM readArrow = .ok arrows ∧
      readList data "coloredCells" = .ok tintRecords ∧
      readTints { matrices := ms, arrows } tintRecords = .ok d := by
  simp only [read] at h
  split at h
  · rename_i records hrecords
    simp only [pure_bind, bind_eq_ok] at h
    obtain ⟨ms, hms, arrowRecords, harrowRecords, arrows, harrows, tintRecords, htints, h⟩ := h
    exact ⟨records, arrowRecords, tintRecords, ms, arrows, hrecords, hms, harrowRecords, harrows,
      htints, h⟩
  · cases h

/-- **Of the records for one matrix, and of those for one cell, the last one wins.** The matrices
have the places that their names had first and the content of the last records that carry the names.
There is an arrow for each record, in order. The tints are those of the records that have no other
of their cell behind them, in order, and so there is one for each cell that has a record. -/
theorem read_collapses {data : Json} {d : Drawing} (h : read data = .ok d) :
    ∃ records arrowRecords tintRecords ts,
      data.member? "matrices" = some (.arr records) ∧
      readList data "arrows" = .ok arrowRecords ∧
      readList data "coloredCells" = .ok tintRecords ∧
      d.matrices.names = (namesIn records).eraseDups.map .str ∧
      (∀ name m, d.matrices.find? (.str name) = some m ↔
        ∃ record values, IsLast records name record values ∧ readMatrix record values = .ok m) ∧
      List.Forall₂ (fun record a => readArrow record = .ok a) arrowRecords d.arrows ∧
      List.Forall₂ Describes tintRecords ts ∧
      d.tints = Drawing.latest ts ∧
      ∀ t ∈ ts, ∃ before u behind, ts = before ++ u :: behind ∧
        Drawing.tintedBy behind u.cell = false ∧
        (d.tints.filter fun v => v.cell == t.cell) = [u] := by
  obtain ⟨records, arrowRecords, tintRecords, ms, arrows, hrecords, hms, harrowRecords, harrows,
    htintRecords, htints⟩ := read_eq_ok h
  obtain ⟨ts, hts, rfl⟩ := readTints_eq_ok htints
  rw [Drawing.foldl_putTint]
  simp only [List.filter_nil, List.nil_append]
  refine ⟨records, arrowRecords, tintRecords, ts, hrecords, harrowRecords, htintRecords,
    ?_, ?_, forall₂_of_mapM harrows, hts, rfl, ?_⟩
  · have hnone : (Roster.empty : Roster Json Matrix).names =
        ([] : List String).eraseDups.map .str := rfl
    exact names_readMatrices hnone hms
  · intro name m
    rw [find?_readMatrices hms]
    refine or_iff_left ?_
    rintro ⟨_, hm⟩
    cases hm
  · intro t ht
    have htinted : Drawing.tintedBy (Drawing.latest ts) t.cell = true := by
      rw [Drawing.tintedBy_latest]
      exact List.any_eq_true.mpr ⟨t, ht, BEq.rfl⟩
    obtain ⟨u, hu, hsame⟩ := List.any_eq_true.mp htinted
    obtain ⟨before, behind, hts, hlast⟩ := Drawing.mem_latest_iff.mp hu
    refine ⟨before, u, behind, hts, hlast, ?_⟩
    have hone := Drawing.filter_cell_of_mem (Drawing.pairwise_latest ts) hu
    rw [← hone]
    congr 1
    funext v
    exact BEq.congr_right hsame

/-! ### A document that repeats itself -/

/-- Two records for a matrix and two for a cell of it, which say so in different ways, and records
for others between them. -/
def repeating : Json :=
  .obj
    [ ("matrices", .arr
        [ .obj [("name", .num (.int 1)), ("values", .arr [.arr [.num (.int 1)]])],
          .obj [("name", .str "B"), ("values", .arr [.arr [.num (.int 2)]])],
          .obj [("name", .str "1"), ("values", .arr [.arr [.num (.int 3)]])] ]),
      ("coloredCells", .arr
        [ .obj [("matrix", .num (.int 1)), ("row", .num (.int 0)), ("col", .num (.int 0)),
            ("color", .str "red")],
          .obj [("matrix", .str "B"), ("row", .num (.int 0)), ("col", .num (.int 0)),
            ("color", .str "green")],
          .obj [("matrix", .str "1"), ("row", .bool false), ("col", .num (.int 0)),
            ("color", .str "blue")] ]) ]

def repeatingDrawing : Drawing where
  matrices :=
    (Roster.empty.put (.str "1") (.sized 1 1 [[.num (.int 3)]] ⟨0.0, 0.0⟩)).put (.str "B")
      (.sized 1 1 [[.num (.int 2)]] ⟨0.0, 0.0⟩)
  tints := [⟨.ofText "B" 0 0, .str "green"⟩, ⟨.ofText "1" 0 0, .str "blue"⟩]

theorem read_repeating : read repeating = .ok repeatingDrawing := by
  rfl

theorem read_collapses_repeating :
    read repeating = .ok repeatingDrawing ∧ ∃ records,
      repeating.member? "matrices" = some (.arr records) ∧
      repeatingDrawing.matrices.names = (namesIn records).eraseDups.map .str ∧
      namesIn records = ["1", "B", "1"] := by
  obtain ⟨records, _, _, _, hrecords, _, _, hnames, _⟩ := read_collapses read_repeating
  refine ⟨read_repeating, records, hrecords, hnames, ?_⟩
  obtain rfl := Json.arr.inj (Option.some.inj hrecords)
  rfl

end GridSketch.Document
