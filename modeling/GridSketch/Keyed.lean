/-!
# Entries by key

A list of entries with keys, in the order in which the keys were first put. Putting a key that is
already there changes its entry and keeps its place, and the key as it was first put; a new key
comes last. Objects of a JSON document, files and the matrices of a drawing are kept this way, so
that reading a document twice, or saving and reopening it, keeps the order.

When two keys are the same is up to their `==`. For texts that is equality; for the names of
matrices it is wider. The laws here need no more than that `==` is symmetric and transitive
(`PartialEquivBEq`).

`Roster` is such a list together with the fact that no key occurs twice.
-/

set_option autoImplicit false

namespace GridSketch

namespace Keyed

variable {κ α : Type}

def keys (es : List (κ × α)) : List κ :=
  es.map Prod.fst

theorem keys_cons (e : κ × α) (es : List (κ × α)) : keys (e :: es) = e.1 :: keys es :=
  rfl

variable [BEq κ]

def find? (k : κ) : List (κ × α) → Option α
  | [] => none
  | e :: es => if e.1 == k then some e.2 else find? k es

/-- Sets the entry of a key: in its place where the key is there, at the end where it is not. -/
def put (k : κ) (a : α) : List (κ × α) → List (κ × α)
  | [] => [(k, a)]
  | e :: es => if e.1 == k then (e.1, a) :: es else e :: put k a es

def erase (k : κ) (es : List (κ × α)) : List (κ × α) :=
  es.filter fun e => !(e.1 == k)

def Distinct (ks : List κ) : Prop :=
  ks.Pairwise fun a b => (a == b) = false

instance (ks : List κ) : Decidable (Distinct ks) :=
  inferInstanceAs (Decidable (List.Pairwise _ ks))

/-- A key has an entry exactly when it is one of the keys. -/
theorem isSome_find? {k : κ} {es : List (κ × α)} :
    (find? k es).isSome = (keys es).any (· == k) := by
  induction es with
  | nil => rfl
  | cons e es ih => cases h : e.1 == k <;> simp [find?, keys_cons, h, ih]

/-- A key that is there keeps its place; a new one comes last. -/
theorem keys_put {k : κ} {a : α} {es : List (κ × α)} :
    keys (put k a es) = if (keys es).any (· == k) then keys es else keys es ++ [k] := by
  induction es with
  | nil => rfl
  | cons e es ih =>
    cases h : e.1 == k with
    | true => simp [put, keys_cons, h]
    | false =>
      rw [put, h, if_neg Bool.false_ne_true, keys_cons, ih, keys_cons]
      cases hm : (keys es).any (· == k) <;> simp [h, hm]

/-- What is put under a new key comes last. -/
theorem put_of_new {k : κ} {a : α} {es : List (κ × α)}
    (h : ∀ x ∈ keys es, (x == k) = false) : put k a es = es ++ [(k, a)] := by
  induction es with
  | nil => rfl
  | cons e es ih =>
    rw [keys_cons, List.forall_mem_cons] at h
    rw [put, h.1, if_neg Bool.false_ne_true, ih h.2, List.cons_append]

theorem erase_of_not_any {k : κ} {es : List (κ × α)} (h : (keys es).any (· == k) = false) :
    erase k es = es := by
  refine List.filter_eq_self.mpr fun e he => ?_
  have hk := List.any_eq_false.mp h e.1 (List.mem_map_of_mem he)
  simpa using hk

/-- What is put has the key it was put under, or one that was there. -/
theorem mem_put {k : κ} {a : α} {es : List (κ × α)} {e : κ × α} (h : e ∈ put k a es) :
    e ∈ es ∨ e.2 = a ∧ (e.1 = k ∨ e.1 ∈ keys es) := by
  induction es with
  | nil =>
    obtain rfl := List.mem_singleton.mp h
    exact Or.inr ⟨rfl, Or.inl rfl⟩
  | cons e' es ih =>
    rw [put] at h
    split at h
    · rcases List.mem_cons.mp h with rfl | h
      · exact Or.inr ⟨rfl, Or.inr List.mem_cons_self⟩
      · exact Or.inl (List.mem_cons_of_mem _ h)
    · rcases List.mem_cons.mp h with rfl | h
      · exact Or.inl List.mem_cons_self
      · rcases ih h with h | ⟨ha, hk | hk⟩
        · exact Or.inl (List.mem_cons_of_mem _ h)
        · exact Or.inr ⟨ha, Or.inl hk⟩
        · exact Or.inr ⟨ha, Or.inr (List.mem_cons_of_mem _ hk)⟩

theorem mem_of_find? {k : κ} {a : α} {es : List (κ × α)} (h : find? k es = some a) :
    ∃ k', (k', a) ∈ es ∧ k' == k := by
  induction es with
  | nil => exact nomatch h
  | cons e es ih =>
    rw [find?] at h
    split at h
    · rename_i hk
      obtain rfl := Option.some.inj h
      exact ⟨e.1, List.mem_cons_self, hk⟩
    · obtain ⟨k', hm, hk⟩ := ih h
      exact ⟨k', List.mem_cons_of_mem _ hm, hk⟩

theorem distinct_keys_put {k : κ} {a : α} {es : List (κ × α)} (h : Distinct (keys es)) :
    Distinct (keys (put k a es)) := by
  rw [keys_put]
  cases hm : (keys es).any (· == k) with
  | true => exact h
  | false =>
    rw [if_neg Bool.false_ne_true]
    refine List.pairwise_append.mpr ⟨h, List.pairwise_singleton _ _, ?_⟩
    intro x hx y hy
    rw [List.mem_singleton.mp hy]
    simpa using List.any_eq_false.mp hm x hx

theorem distinct_keys_erase {k : κ} {es : List (κ × α)} (h : Distinct (keys es)) :
    Distinct (keys (erase k es)) :=
  h.sublist (List.filter_sublist.map Prod.fst)

variable [PartialEquivBEq κ]

theorem find?_put {k x : κ} {a : α} {es : List (κ × α)} :
    find? x (put k a es) = if k == x then some a else find? x es := by
  induction es with
  | nil => rfl
  | cons e es ih =>
    cases hk : e.1 == k with
    | true =>
      have hx : (e.1 == x) = (k == x) := BEq.congr_left hk
      cases h : k == x <;> simp [put, find?, hk, hx, h]
    | false =>
      cases hx : e.1 == x with
      | true =>
        have h : (k == x) = false := by
          rw [← BEq.congr_right hx, BEq.comm, hk]
        simp [put, find?, hk, hx, h]
      | false => simp [put, find?, hk, hx, ih]

theorem find?_erase {k x : κ} {es : List (κ × α)} :
    find? x (erase k es) = if k == x then none else find? x es := by
  induction es with
  | nil => simp [erase, find?]
  | cons e es ih =>
    cases hk : e.1 == k with
    | true =>
      have hs : erase k (e :: es) = erase k es := by simp [erase, hk]
      have hx : (e.1 == x) = (k == x) := BEq.congr_left hk
      rw [hs, ih]
      cases h : k == x <;> simp [find?, hx, h]
    | false =>
      have hs : erase k (e :: es) = e :: erase k es := by simp [erase, hk]
      rw [hs]
      cases hx : e.1 == x with
      | true =>
        have h : (k == x) = false := by
          rw [← BEq.congr_right hx, BEq.comm, hk]
        simp [find?, hx, h]
      | false => simp [find?, hx, ih]

/-- An entry that is taken away and put again comes last, and the others stay in their order. -/
theorem perm_erase_append [ReflBEq κ] {k : κ} {a : α} {es : List (κ × α)}
    (hd : Distinct (keys es)) (h : (k, a) ∈ es) : (erase k es ++ [(k, a)]).Perm es := by
  induction es with
  | nil => exact nomatch h
  | cons e es ih =>
    obtain ⟨hhead, htail⟩ := List.pairwise_cons.mp hd
    rcases List.mem_cons.mp h with rfl | h
    · have hrest : (keys es).any (· == k) = false := by
        refine List.any_eq_false.mpr fun x hx => ?_
        rw [BEq.comm, hhead x hx]
        exact Bool.false_ne_true
      have hskip : erase k ((k, a) :: es) = erase k es := by simp [erase]
      rw [hskip, erase_of_not_any hrest]
      exact List.perm_append_singleton _ _
    · have hkeep : erase k (e :: es) = e :: erase k es := by
        have hk : (e.1 == k) = false := hhead k (List.mem_map_of_mem h)
        simp [erase, hk]
      rw [hkeep]
      exact (ih htail h).cons e

end Keyed

/-- Entries by key, no key twice. -/
@[ext] structure Roster (κ α : Type) [BEq κ] where
  entries : List (κ × α)
  distinct : Keyed.Distinct (Keyed.keys entries)

namespace Roster

variable {κ α : Type} [BEq κ]

def empty : Roster κ α := ⟨[], List.Pairwise.nil⟩

def names (r : Roster κ α) : List κ :=
  Keyed.keys r.entries

@[simp] theorem length_names (r : Roster κ α) : r.names.length = r.entries.length :=
  List.length_map Prod.fst

def find? (r : Roster κ α) (k : κ) : Option α :=
  Keyed.find? k r.entries

def has (r : Roster κ α) (k : κ) : Bool :=
  (r.find? k).isSome

/-- Sets the entry of a key, in its place or at the end. -/
def put (r : Roster κ α) (k : κ) (a : α) : Roster κ α :=
  ⟨Keyed.put k a r.entries, Keyed.distinct_keys_put r.distinct⟩

def erase (r : Roster κ α) (k : κ) : Roster κ α :=
  ⟨Keyed.erase k r.entries, Keyed.distinct_keys_erase r.distinct⟩

@[simp] theorem find?_put [PartialEquivBEq κ] (r : Roster κ α) (k x : κ) (a : α) :
    (r.put k a).find? x = if k == x then some a else r.find? x :=
  Keyed.find?_put

@[simp] theorem find?_erase [PartialEquivBEq κ] (r : Roster κ α) (k x : κ) :
    (r.erase k).find? x = if k == x then none else r.find? x :=
  Keyed.find?_erase

theorem has_eq (r : Roster κ α) (k : κ) : r.has k = r.names.any (· == k) :=
  Keyed.isSome_find?

theorem has_put [PartialEquivBEq κ] (r : Roster κ α) (k x : κ) (a : α) :
    (r.put k a).has x = (k == x || r.has x) := by
  rw [has, find?_put]
  cases k == x <;> rfl

theorem has_erase [PartialEquivBEq κ] (r : Roster κ α) (k x : κ) :
    (r.erase k).has x = (!(k == x) && r.has x) := by
  rw [has, find?_erase]
  cases k == x <;> rfl

theorem names_put (r : Roster κ α) (k : κ) (a : α) :
    (r.put k a).names = if r.has k then r.names else r.names ++ [k] := by
  rw [has_eq]
  exact Keyed.keys_put

theorem entries_put_of_new {r : Roster κ α} {k : κ} (h : r.has k = false) (a : α) :
    (r.put k a).entries = r.entries ++ [(k, a)] := by
  refine Keyed.put_of_new fun x hx => ?_
  rw [has_eq] at h
  simpa using List.any_eq_false.mp h x hx

/-- Taking away what was put under a new key leaves things as they were. -/
theorem erase_put_of_new [ReflBEq κ] {r : Roster κ α} {k : κ} (h : r.has k = false) (a : α) :
    (r.put k a).erase k = r := by
  have hentries : (r.put k a).entries = r.entries ++ [(k, a)] := entries_put_of_new h a
  have hlast : Keyed.erase k [(k, a)] = [] := by simp [Keyed.erase]
  rw [has_eq] at h
  have herase : Keyed.erase k (r.put k a).entries = r.entries := by
    rw [hentries, Keyed.erase, List.filter_append, ← Keyed.erase, ← Keyed.erase, hlast,
      Keyed.erase_of_not_any h, List.append_nil]
  exact Roster.ext herase

end Roster

end GridSketch
