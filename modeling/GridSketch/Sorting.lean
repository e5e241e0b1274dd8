/-!
# Sorting by a comparison that may be refused

Values of any kind may turn out not to be comparable, and which refusal is met first depends on
which of them are compared, and in what order. So the order of the comparisons is part of what is
said here. The leading run that is ascending, or descending throughout, is kept or turned round;
then the other items are put in one by one, each behind those it is not below, and the place is
found by halving.

The main statements: the result is the same items in another order (`perm_of_sort`), and where the
comparison follows a total order there is a result and it is ascending (`exists_sort`).
-/

set_option autoImplicit false

namespace GridSketch.Sorting

variable {ε α : Type} (below : α → α → Except ε Bool)

/-- Splits off the run that goes on after `last`: the items that are all below the one before, or
all not below it. -/
def takeRun (down : Bool) (last : α) : List α → Except ε (List α × List α)
  | [] => .ok ([], [])
  | x :: xs =>
    match below x last with
    | .error e => .error e
    | .ok b =>
      if b = down then (takeRun down x xs).map fun r => (x :: r.1, r.2) else .ok ([], x :: xs)

/-- Puts an item behind those it is not below. It is compared with the one in the middle, and then
put into one of the halves. -/
def insert (x : α) (xs : List α) : Except ε (List α) :=
  match _h : xs.drop (xs.length / 2) with
  | [] => .ok [x]
  | mid :: back =>
    match below x mid with
    | .error e => .error e
    | .ok true => (insert x (xs.take (xs.length / 2))).map (· ++ mid :: back)
    | .ok false => (insert x back).map (xs.take (xs.length / 2) ++ mid :: ·)
termination_by xs.length
decreasing_by
  all_goals
    have hl := congrArg List.length _h
    rw [List.length_drop, List.length_cons] at hl
  · rw [List.length_take]
    omega
  · omega

def insertAll : List α → List α → Except ε (List α)
  | sorted, [] => .ok sorted
  | sorted, x :: xs =>
    match insert below x sorted with
    | .error e => .error e
    | .ok more => insertAll more xs

def sort : List α → Except ε (List α)
  | [] => .ok []
  | [x] => .ok [x]
  | x :: y :: rest =>
    match below y x with
    | .error e => .error e
    | .ok down =>
      match takeRun below down y rest with
      | .error e => .error e
      | .ok (run, others) =>
        insertAll below (if down then (x :: y :: run).reverse else x :: y :: run) others

/-! ## Nothing is lost -/

variable {below}

theorem append_of_takeRun {down : Bool} {last : α} {xs run rest : List α}
    (h : takeRun below down last xs = .ok (run, rest)) : run ++ rest = xs := by
  induction xs generalizing last run with
  | nil => simp_all [takeRun]
  | cons x xs ih =>
    rw [takeRun] at h
    cases hb : below x last with
    | error e => simp [hb] at h
    | ok b =>
      by_cases hd : b = down
      · cases ht : takeRun below down x xs with
        | error e => simp [hb, hd, ht, Except.map] at h
        | ok r =>
          simp only [hb, hd, ht, Except.map, if_true, Except.ok.injEq, Prod.mk.injEq] at h
          rw [← h.1, List.cons_append, ih (by rw [ht, ← h.2])]
      · simp only [hb, hd, if_false, Except.ok.injEq, Prod.mk.injEq] at h
        rw [← h.1, ← h.2, List.nil_append]

theorem halves {xs back : List α} {mid : α} (h : xs.drop (xs.length / 2) = mid :: back) :
    xs.take (xs.length / 2) ++ mid :: back = xs := by
  rw [← h, List.take_append_drop]

theorem perm_of_insert {x : α} {xs ys : List α} (h : insert below x xs = .ok ys) :
    ys.Perm (x :: xs) := by
  fun_induction insert below x xs generalizing ys with
  | case1 xs hd =>
    have hx : xs = [] := by
      have hl := congrArg List.length hd
      rw [List.length_drop, List.length_nil] at hl
      exact List.eq_nil_of_length_eq_zero (by omega)
    simp_all
  | case2 => simp at h
  | case3 xs mid back hd hb ih =>
    cases hi : insert below x (xs.take (xs.length / 2)) with
    | error e => simp [hi, Except.map] at h
    | ok zs =>
      simp only [hi, Except.map, Except.ok.injEq] at h
      have hp := (ih hi).append_right (mid :: back)
      rwa [h, List.cons_append, halves hd] at hp
  | case4 xs mid back hd hb ih =>
    cases hi : insert below x back with
    | error e => simp [hi, Except.map] at h
    | ok zs =>
      simp only [hi, Except.map, Except.ok.injEq] at h
      have hp := ((ih hi).cons mid).trans (List.Perm.swap x mid back)
      have hp := (hp.append_left (xs.take (xs.length / 2))).trans List.perm_middle
      rwa [h, halves hd] at hp

theorem perm_of_insertAll {sorted xs ys : List α} (h : insertAll below sorted xs = .ok ys) :
    ys.Perm (sorted ++ xs) := by
  induction xs generalizing sorted with
  | nil => simp_all [insertAll]
  | cons x xs ih =>
    rw [insertAll] at h
    cases hi : insert below x sorted with
    | error e => simp [hi] at h
    | ok more =>
      rw [hi] at h
      exact (ih h).trans (((perm_of_insert hi).append_right xs).trans List.perm_middle.symm)

theorem perm_of_sort {xs ys : List α} (h : sort below xs = .ok ys) : ys.Perm xs := by
  match xs with
  | [] => simp_all [sort]
  | [x] => simp_all [sort]
  | x :: y :: rest =>
    rw [sort] at h
    cases hb : below y x with
    | error e => simp [hb] at h
    | ok down =>
      cases ht : takeRun below down y rest with
      | error e => simp [hb, ht] at h
      | ok r =>
        simp only [hb, ht] at h
        refine (perm_of_insertAll h).trans ?_
        rw [← append_of_takeRun ht]
        cases down with
        | true => exact (List.reverse_perm _).append_right _
        | false => exact List.Perm.refl _

/-! ## Ascending order -/

variable {le : α → α → Bool}

/-- Whether a comparison of items of a list follows an order. -/
def Follows (below : α → α → Except ε Bool) (le : α → α → Bool) (xs : List α) : Prop :=
  ∀ a ∈ xs, ∀ b ∈ xs, below a b = .ok (!le b a)

theorem exists_takeRun {last : α} {xs : List α} (r : α → α → Prop) (down : Bool)
    (trans : ∀ a b c, r a b → r b c → r a c)
    (answers : ∀ a ∈ last :: xs, ∀ b ∈ last :: xs, ∃ t, below b a = .ok t ∧ (t = down → r a b)) :
    ∃ run rest, takeRun below down last xs = .ok (run, rest) ∧ (last :: run).Pairwise r := by
  induction xs generalizing last with
  | nil => exact ⟨[], [], rfl, List.pairwise_singleton r last⟩
  | cons x xs ih =>
    obtain ⟨t, ht, hr⟩ := answers last (by simp) x (by simp)
    by_cases hd : t = down
    · obtain ⟨run, rest, hs, hp⟩ := ih fun a ha b hb =>
        answers a (List.mem_cons_of_mem _ ha) b (List.mem_cons_of_mem _ hb)
      refine ⟨x :: run, rest, by simp [takeRun, ht, hd, hs, Except.map], ?_⟩
      refine List.pairwise_cons.mpr ⟨fun y hy => ?_, hp⟩
      rcases List.mem_cons.mp hy with rfl | hy
      · exact hr hd
      · exact trans _ _ _ (hr hd) ((List.pairwise_cons.mp hp).1 y hy)
    · exact ⟨[], x :: xs, by simp [takeRun, ht, hd], List.pairwise_singleton r last⟩

theorem exists_insert (x : α) {xs : List α} (trans : ∀ a b c, le a b → le b c → le a c)
    (total : ∀ a b, le a b || le b a) (follows : Follows below le (x :: xs))
    (sorted : xs.Pairwise (le · ·)) :
    ∃ front back, insert below x xs = .ok (front ++ x :: back) ∧ front ++ back = xs ∧
      (∀ y ∈ front, le y x) ∧ ∀ y ∈ back, le x y := by
  fun_induction insert below x xs with
  | case1 xs hd =>
    have hx : xs = [] := by
      have hl := congrArg List.length hd
      rw [List.length_drop, List.length_nil] at hl
      exact List.eq_nil_of_length_eq_zero (by omega)
    exact ⟨[], [], by simp [hx]⟩
  | case2 xs mid back hd e hb =>
    have hm : mid ∈ xs := List.mem_of_mem_drop (hd ▸ List.mem_cons_self)
    simp [follows x (by simp) mid (by simp [hm])] at hb
  | case3 xs mid back hd hb ih =>
    have hx := halves hd
    have hm : mid ∈ xs := List.mem_of_mem_drop (hd ▸ List.mem_cons_self)
    rw [← hx, List.pairwise_append, List.pairwise_cons] at sorted
    have hle : le x mid := by
      have h := follows x (by simp) mid (by simp [hm])
      rw [hb] at h
      have ht := total mid x
      simp_all
    obtain ⟨f, b, hi, hfb, hf, hbk⟩ := ih (fun a ha b hb => follows a (by grind) b (by grind))
      sorted.1
    refine ⟨f, b ++ mid :: back, by simp [hi, Except.map], ?_, hf, ?_⟩
    · rw [← List.append_assoc, hfb, hx]
    · intro y hy
      rcases List.mem_append.mp hy with h | h
      · exact hbk y h
      · rcases List.mem_cons.mp h with rfl | h
        · exact hle
        · exact trans _ _ _ hle (sorted.2.1.1 y h)
  | case4 xs mid back hd hb ih =>
    have hx := halves hd
    have hm : mid ∈ xs := List.mem_of_mem_drop (hd ▸ List.mem_cons_self)
    rw [← hx, List.pairwise_append, List.pairwise_cons] at sorted
    have hle : le mid x := by
      have h := follows x (by simp) mid (by simp [hm])
      rw [hb] at h
      simp_all
    obtain ⟨f, b, hi, hfb, hf, hbk⟩ := ih (fun a ha b hb => follows a (by grind) b (by grind))
      sorted.2.1.2
    refine ⟨xs.take (xs.length / 2) ++ mid :: f, b, by simp [hi, Except.map], ?_, ?_, hbk⟩
    · rw [List.append_assoc, List.cons_append, hfb, hx]
    · intro y hy
      rcases List.mem_append.mp hy with h | h
      · exact trans _ _ _ (sorted.2.2 y h mid (by simp)) hle
      · rcases List.mem_cons.mp h with rfl | h
        · exact hle
        · exact hf y h

theorem exists_insertAll {sorted : List α} (xs : List α) (trans : ∀ a b c, le a b → le b c → le a c)
    (total : ∀ a b, le a b || le b a) (follows : Follows below le (sorted ++ xs))
    (hs : sorted.Pairwise (le · ·)) :
    ∃ ys, insertAll below sorted xs = .ok ys ∧ ys.Pairwise (le · ·) := by
  induction xs generalizing sorted with
  | nil => exact ⟨sorted, rfl, hs⟩
  | cons x xs ih =>
    obtain ⟨front, back, hi, hfb, hf, hb⟩ := exists_insert x trans total
      (fun a ha b hb => follows a (by grind) b (by grind)) hs
    have hm : (front ++ x :: back).Pairwise (le · ·) := by
      rw [← hfb, List.pairwise_append] at hs
      refine List.pairwise_append.mpr ⟨hs.1, List.pairwise_cons.mpr ⟨hb, hs.2.1⟩, ?_⟩
      intro a ha b hb'
      rcases List.mem_cons.mp hb' with rfl | hb'
      · exact hf a ha
      · exact hs.2.2 a ha b hb'
    rw [insertAll, hi]
    exact ih (fun a ha b hb => follows a (by grind) b (by grind)) hm

/-- Where the comparison follows a total order there is a result, and it is ascending. -/
theorem exists_sort (below : α → α → Except ε Bool) (le : α → α → Bool) (xs : List α)
    (trans : ∀ a b c, le a b → le b c → le a c)
    (total : ∀ a b, le a b || le b a) (follows : Follows below le xs) :
    ∃ ys, sort below xs = .ok ys ∧ ys.Perm xs ∧ ys.Pairwise (le · ·) := by
  suffices h : ∃ ys, sort below xs = .ok ys ∧ ys.Pairwise (le · ·) by
    obtain ⟨ys, hs, hp⟩ := h
    exact ⟨ys, hs, perm_of_sort hs, hp⟩
  match xs with
  | [] => exact ⟨[], rfl, .nil⟩
  | [x] => exact ⟨[x], rfl, List.pairwise_singleton _ x⟩
  | x :: y :: rest =>
    have hxy : below y x = .ok (!le x y) := follows y (by simp) x (by simp)
    have lower {a b : α} (h : le a b = false) : le b a := by simpa [h] using total a b
    cases h : le x y with
    | true =>
      obtain ⟨run, others, ht, hp⟩ := exists_takeRun (le · ·) false trans
        fun a ha b hb => ⟨_, follows b (List.mem_cons_of_mem x hb) a (List.mem_cons_of_mem x ha),
          by simp⟩
      have hrun : (x :: y :: run).Pairwise (le · ·) := by
        refine List.pairwise_cons.mpr ⟨fun z hz => ?_, hp⟩
        rcases List.mem_cons.mp hz with rfl | hz
        · exact h
        · exact trans _ _ _ h ((List.pairwise_cons.mp hp).1 z hz)
      rw [← append_of_takeRun ht] at follows
      obtain ⟨ys, hys⟩ := exists_insertAll others trans total follows hrun
      exact ⟨ys, by simpa [sort, hxy, h, ht] using hys⟩
    | false =>
      obtain ⟨run, others, ht, hp⟩ := exists_takeRun (fun a b => le b a) true
        (fun a b c h h' => trans c b a h' h)
        fun a ha b hb => ⟨_, follows b (List.mem_cons_of_mem x hb) a (List.mem_cons_of_mem x ha),
          by simpa using lower⟩
      have hrun : (x :: y :: run).reverse.Pairwise (le · ·) := by
        refine List.pairwise_reverse.mpr (List.pairwise_cons.mpr ⟨fun z hz => ?_, hp⟩)
        rcases List.mem_cons.mp hz with rfl | hz
        · exact lower h
        · exact trans _ _ _ ((List.pairwise_cons.mp hp).1 z hz) (lower h)
      rw [← append_of_takeRun ht] at follows
      obtain ⟨ys, hys⟩ := exists_insertAll others trans total
        (fun a ha b hb => follows a (by grind) b (by grind)) hrun
      exact ⟨ys, by simpa [sort, hxy, h, ht] using hys⟩

end GridSketch.Sorting
