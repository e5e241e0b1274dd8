import GridSketch.Proofs.Command.Spelling
import GridSketch.Proofs.Session.WellFormed
import Mathlib.Data.List.Nodup
import Mathlib.Tactic.ByContra

/-!
# Copies

A copy of a matrix needs a name, and takes the first that is free of `name_copy`, `name_copy2`,
`name_copy3` and so on. No two of these are one, since numbers are written differently. So they
cannot all be taken: among one more of them than there are matrices there is a free one
(`exists_free`), and a search that goes through them as long as it takes (`Search`) is at its end by
then. None of them is a reserved word either. So a copy is always made, and it is added to what is
there without touching it.

The main statement is `duplicate_appends`.
-/

set_option autoImplicit false

namespace GridSketch

namespace Change

variable {ms : Roster Json Matrix} {name : String}

/-! ## 1. The names of copies -/

/-- What stands behind the word in the name of a copy: nothing for the first one. -/
def copyNumber (k : Nat) : String :=
  if k = 0 then "" else toString (k + 1)

theorem copyName_eq (name : String) (k : Nat) :
    copyName name k = name ++ "_copy" ++ copyNumber k := by
  by_cases hk : k = 0
  · rw [copyName, copyNumber, if_pos hk, if_pos hk, String.append_empty]
  · rw [copyName, copyNumber, if_neg hk, if_neg hk]

theorem toList_copyNumber (k : Nat) :
    (copyNumber (k + 1)).toList = Nat.toDigits 10 (k + 2) :=
  Nat.toList_repr

theorem copyNumber_succ_ne (k : Nat) : copyNumber (k + 1) ≠ "" := by
  intro h
  have hnil := congrArg String.toList h
  rw [toList_copyNumber] at hnil
  exact Nat.toDigits_ne_nil hnil

theorem copyNumber_inj {j k : Nat} (h : copyNumber j = copyNumber k) : j = k := by
  cases j with
  | zero =>
    cases k with
    | zero => rfl
    | succ k => exact absurd h.symm (copyNumber_succ_ne k)
  | succ j =>
    cases k with
    | zero => exact absurd h (copyNumber_succ_ne j)
    | succ k =>
      have hdigits := congrArg String.toList h
      rw [toList_copyNumber, toList_copyNumber] at hdigits
      have hvalue := congrArg Text.digitsValue hdigits
      rw [Command.digitsValue_toDigits, Command.digitsValue_toDigits] at hvalue
      omega

/-- No two copies get one name. -/
theorem copyName_injective (name : String) : Function.Injective (copyName name) := by
  intro j k h
  rw [copyName_eq, copyName_eq] at h
  have hlists := congrArg String.toList h
  simp only [String.toList_append] at hlists
  exact copyNumber_inj (String.toList_injective (List.append_cancel_left hlists))

/-! ## 2. The search for a free name -/

/-- Among one more names than there are matrices one is free. -/
theorem exists_free (ms : Roster Json Matrix) (name : String) :
    ∃ k, k ≤ ms.names.length ∧ ms.has (.str (copyName name k)) = false := by
  by_contra hall
  have htaken : ∀ k, k ≤ ms.names.length → Json.str (copyName name k) ∈ ms.names := by
    intro k hk
    have hhas : ms.has (.str (copyName name k)) = true := by
      by_contra hnot
      exact hall ⟨k, hk, eq_false_of_ne_true hnot⟩
    rw [Roster.has_eq] at hhas
    obtain ⟨key, hkey, hsame⟩ := List.any_eq_true.mp hhas
    exact Json.eq_str_of_beq hsame ▸ hkey
  have hnodup : ((List.range (ms.names.length + 1)).map fun k => Json.str (copyName name k)).Nodup :=
    List.nodup_range.map fun j k h => copyName_injective name (Json.str.inj h)
  have hsubset : (List.range (ms.names.length + 1)).map (fun k => Json.str (copyName name k)) ⊆
      ms.names := by
    intro key hkey
    obtain ⟨k, hk, rfl⟩ := List.mem_map.mp hkey
    exact htaken k (Nat.le_of_lt_succ (List.mem_range.mp hk))
  have hle := hnodup.length_le_of_subset hsubset
  rw [List.length_map, List.length_range] at hle
  omega

/-- The names of the copies before one are taken, and its own is free. -/
structure FirstFree (ms : Roster Json Matrix) (name : String) (k : Nat) : Prop where
  taken : ∀ j, j < k → ms.has (.str (copyName name j)) = true
  free : ms.has (.str (copyName name k)) = false

/-- The name that is taken for a copy is the first free one. -/
theorem exists_firstFree (ms : Roster Json Matrix) (name : String) :
    ∃ k, k ≤ ms.names.length ∧ FirstFree ms name k ∧ freeCopyName ms name = copyName name k := by
  have hsearch : freeCopyName ms name = (((List.range (ms.names.length + 1)).find?
      fun k => !ms.has (.str (copyName name k))).map (copyName name)).getD name := by
    rw [freeCopyName, ← Roster.length_names, List.find?_map]
    rfl
  cases hfind : (List.range (ms.names.length + 1)).find?
      fun k => !ms.has (.str (copyName name k)) with
  | none =>
    obtain ⟨k, hk, hfree⟩ := exists_free ms name
    have hnot := List.find?_eq_none.mp hfind k (List.mem_range.mpr (Nat.lt_succ_of_le hk))
    simp [hfree] at hnot
  | some k =>
    obtain ⟨hfree, hk, htaken⟩ := List.find?_range_eq_some.mp hfind
    refine ⟨k, Nat.le_of_lt_succ (List.mem_range.mp hk), ⟨?_, ?_⟩, ?_⟩
    · intro j hj
      simpa using htaken j hj
    · simpa using hfree
    · rw [hsearch, hfind]
      rfl

/-- The search for a free name, from a copy on and for as long as it takes: after so many tests it
has found one. -/
inductive Search (ms : Roster Json Matrix) (name : String) : Nat → Nat → String → Prop where
  | found {k : Nat} (free : ms.has (.str (copyName name k)) = false) :
    Search ms name k 1 (copyName name k)
  | next {k tests : Nat} {found : String} (taken : ms.has (.str (copyName name k)) = true)
    (rest : Search ms name (k + 1) tests found) : Search ms name k (tests + 1) found

/-- The search passes the names that are taken, one test each. -/
theorem FirstFree.search {k : Nat} (h : FirstFree ms name k) :
    Search ms name 0 (k + 1) (copyName name k) := by
  have hfrom : ∀ n j, j + n = k → Search ms name j (n + 1) (copyName name k) := by
    intro n
    induction n with
    | zero =>
      rintro j rfl
      exact .found h.free
    | succ n ih =>
      intro j hj
      exact .next (h.taken j (by omega)) (ih (j + 1) (by omega))
  exact hfrom k 0 (Nat.zero_add k)

/-! ## 3. Copying -/

variable {s : Scene} {m : Matrix}

/-- A matrix that is there can be copied. -/
theorem duplicate_of_find? (hm : s.matrices.find? (.str name) = some m) :
    duplicate s (.str name) = .ok
      { scene := s.withDrawing
          { s.toDrawing with
            matrices := s.matrices.put (.str (freeCopyName s.matrices name))
              (m.withPosition ⟨m.position.x + 1.0, m.position.y + 1.0⟩) }
        label := "Duplicate matrix " ++ name
        chosen := freeCopyName s.matrices name } := by
  have hmatrix : s.toDrawing.matrix (.str name) = .ok m := Drawing.matrix_of_find? rfl hm
  have hfree : Name.checkReserved (.str (freeCopyName s.matrices name)) = .ok () := by
    obtain ⟨k, _, _, hk⟩ := exists_firstFree s.matrices name
    rw [hk, Name.checkReserved_str, if_neg (copyName_free name k)]
  rw [duplicate, hmatrix]
  simp only [Drawing.putMatrix, bind, Except.bind, Json.print_str, hfree]
  rfl

end Change

namespace Session

variable {K : Type} [Coordinate K]

open Change

/-- **A copy is always made, under the first free name, and takes nothing away.** The search for the
name ends after one test more at most than there are matrices. The copy comes last among the
matrices, one to the right of the original and one down, and everything else is as it was. -/
theorem duplicate_appends (s : Session K) {name : String} {m : Matrix}
    (hm : s.scene.matrices.find? (.str name) = some m) :
    ∃ k, k + 1 ≤ s.scene.matrices.names.length + 1 ∧
      Search s.scene.matrices name 0 (k + 1) (freeCopyName s.scene.matrices name) ∧
      FirstFree s.scene.matrices name k ∧
      freeCopyName s.scene.matrices name = copyName name k ∧
      (s.step (.act (.duplicate (.str name)))).answer = .ok (.name (.str (copyName name k))) ∧
      (s.step (.act (.duplicate (.str name)))).session.scene.matrices.entries =
        s.scene.matrices.entries ++ [(.str (copyName name k),
          ⟨m.rows, m.cols, m.values, ⟨m.position.x + 1.0, m.position.y + 1.0⟩⟩)] ∧
      (s.step (.act (.duplicate (.str name)))).session.scene.arrows = s.scene.arrows ∧
      (s.step (.act (.duplicate (.str name)))).session.scene.tints = s.scene.tints := by
  obtain ⟨k, hk, hfirst, hname⟩ := exists_firstFree s.scene.matrices name
  have happly : (Action.duplicate (.str name)).apply s.scene = _ := duplicate_of_find? hm
  rw [hname] at happly ⊢
  rw [step, act, happly]
  exact ⟨k, Nat.succ_le_succ hk, hfirst.search, hfirst, rfl, rfl,
    Roster.entries_put_of_new hfirst.free _, rfl, rfl⟩

/-- A matrix of two rows, away from the origin. -/
def column : Matrix :=
  .sized 2 1 [[.num (.int 5)], [.num (.int 6)]] ⟨3.0, 4.0⟩

/-- A session in which the first name for a copy is taken, by a matrix that stands in front. -/
def copiedBefore : Session K :=
  start (.fresh { matrices := (Roster.empty.put (.str "A_copy") column).put (.str "A") column } .dark)

/-- The next copy gets the second name, and comes last. -/
theorem duplicate_appends_again :
    (copiedBefore : Session Rat).scene.matrices.find? (.str "A") = some column ∧
      (copiedBefore.step (.act (.duplicate (.str "A"))) : Turn Rat).answer =
        .ok (.name (.str "A_copy2")) ∧
      (copiedBefore.step (.act (.duplicate (.str "A"))) : Turn Rat).session.scene.matrices.entries =
        [(.str "A_copy", column), (.str "A", column),
          (.str "A_copy2", ⟨column.rows, column.cols, column.values, ⟨3.0 + 1.0, 4.0 + 1.0⟩⟩)] := by
  have hm : (copiedBefore : Session Rat).scene.matrices.find? (.str "A") = some column := by
    simp [copiedBefore, start, Scene.fresh]
  obtain ⟨k, _, _, hfirst, _, hanswer, hentries, _⟩ := duplicate_appends copiedBefore hm
  have hsecond : copyName "A" 1 = "A_copy2" := rfl
  have hempty : (Roster.empty : Roster Json Matrix).find? (.str "A_copy2") = none := rfl
  have htaken : (copiedBefore : Session Rat).scene.matrices.has (.str (copyName "A" 0)) = true := by
    simp [copiedBefore, start, Scene.fresh, Roster.has, copyName]
  have hfree : (copiedBefore : Session Rat).scene.matrices.has (.str (copyName "A" 1)) = false := by
    simp [copiedBefore, start, Scene.fresh, Roster.has, hsecond, hempty]
  have hk : k = 1 := by
    rcases Nat.lt_trichotomy k 1 with hlt | heq | hgt
    · obtain rfl := Nat.lt_one_iff.mp hlt
      exact Bool.noConfusion (htaken.symm.trans hfirst.free)
    · exact heq
    · exact Bool.noConfusion ((hfirst.taken 1 hgt).symm.trans hfree)
  obtain rfl := hk
  rw [hsecond] at hanswer hentries
  have hbefore : (copiedBefore : Session Rat).scene.matrices.entries =
      [(.str "A_copy", column), (.str "A", column)] := by
    simp [copiedBefore, start, Scene.fresh, Roster.put, Roster.empty, Keyed.put]
  rw [hbefore] at hentries
  exact ⟨hm, hanswer, hentries⟩

end Session

end GridSketch
