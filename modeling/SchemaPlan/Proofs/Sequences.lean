import Mathlib.Data.List.Forall2

/-!
# Lists and results in sequence

What a computation does with a list it does with each member in turn. So two lists that are
related member by member stay related when they are mapped or selected from, and lead to the
same results if their members do. And a computation that can fail gives a result for a list
exactly if it gives one for every member (`mapM_eq_ok_iff`).
-/

namespace SchemaPlan

/-! ## Lists that are related member by member -/

section Lists

variable {ε α β γ : Type} {R : α → β → Prop} {l : List α} {l' : List β}

theorem map_eq_of_forall₂ (h : List.Forall₂ R l l') {f : α → γ} {g : β → γ}
    (same : ∀ a b, R a b → g b = f a) : l'.map g = l.map f := by
  induction h with
  | nil => rfl
  | cons first _ ih => rw [List.map_cons, List.map_cons, same _ _ first, ih]

theorem filterMap_eq_of_forall₂ (h : List.Forall₂ R l l') {f : α → Option γ} {g : β → Option γ}
    (same : ∀ a b, R a b → g b = f a) : l'.filterMap g = l.filterMap f := by
  have all := congrArg (List.filterMap id) (map_eq_of_forall₂ h same)
  rw [List.filterMap_map, List.filterMap_map] at all
  exact all

theorem forall₂_filter (h : List.Forall₂ R l l') {p : α → Bool} {q : β → Bool}
    (same : ∀ a b, R a b → q b = p a) : List.Forall₂ R (l.filter p) (l'.filter q) :=
  List.rel_filter (fun a b hab => Bool.eq_iff_iff.1 (same a b hab).symm) h

theorem mapM_eq_of_forall₂ (h : List.Forall₂ R l l') {f : α → Except ε γ} {g : β → Except ε γ}
    (same : ∀ a b, R a b → g b = f a) : l'.mapM g = l.mapM f := by
  induction h with
  | nil => rfl
  | cons first _ ih => rw [List.mapM_cons, List.mapM_cons, same _ _ first, ih]

/-- If what is selected from a list is from its place in another, the other has all of it. -/
theorem filter_sublist_of_forall₂ {m : List α} {p : α → Bool}
    (h : List.Forall₂ (fun a b => p b = true → b = a) l m) :
    (m.filter p).Sublist (l.filter p) := by
  induction h with
  | nil => exact .refl _
  | @cons a b l m here _ ih =>
    cases selected : p b with
    | true =>
      rw [← here selected, List.filter_cons_of_pos selected, List.filter_cons_of_pos selected]
      exact ih.cons_cons b
    | false =>
      rw [List.filter_cons_of_neg (by simp [selected])]
      exact ih.trans ((List.sublist_cons_self a l).filter p)

/-- If it is all that is selected from the other, then the same places are selected. -/
theorem forall₂_of_filter_eq {m : List α} {p : α → Bool}
    (h : List.Forall₂ (fun a b => p b = true → b = a) l m)
    (same : m.filter p = l.filter p) : List.Forall₂ (fun a b => p b = p a) l m := by
  induction h with
  | nil => exact .nil
  | @cons a b l m here later ih =>
    have fewer := (filter_sublist_of_forall₂ later).length_le
    cases first : p b with
    | true =>
      cases here first
      rw [List.filter_cons_of_pos first, List.filter_cons_of_pos first] at same
      exact .cons rfl (ih (List.cons.inj same).2)
    | false =>
      rw [List.filter_cons_of_neg (by simp [first])] at same
      cases second : p a with
      | true =>
        rw [same, List.filter_cons_of_pos second, List.length_cons] at fewer
        exact absurd fewer (Nat.not_succ_le_self _)
      | false =>
        rw [List.filter_cons_of_neg (by simp [second])] at same
        exact .cons (first.trans second.symm) (ih same)

end Lists

/-! ## Results in sequence -/

section Results

variable {ε α β : Type}

theorem bind_eq_ok_iff {x : Except ε α} {f : α → Except ε β} {b : β} :
    (x >>= f) = .ok b ↔ ∃ a, x = .ok a ∧ f a = .ok b := by
  cases x with
  | error e => simp [bind, Except.bind]
  | ok a => simp [bind, Except.bind]

/-- A computation in two steps fails if the first one does, or the second one after it. -/
theorem bind_eq_error_iff {x : Except ε α} {f : α → Except ε β} {e : ε} :
    (x >>= f) = .error e ↔ x = .error e ∨ ∃ a, x = .ok a ∧ f a = .error e := by
  cases x with
  | error e => simp [bind, Except.bind]
  | ok a => simp [bind, Except.bind]

/-- **A list is mapped to results when each of its members has one**, and the
results stand in the order of the members. All the statements below are drawn
from this one. -/
theorem mapM_eq_ok_iff {f : α → Except ε β} {l : List α} {results : List β} :
    l.mapM f = .ok results ↔ List.Forall₂ (fun a b => f a = .ok b) l results := by
  induction l generalizing results with
  | nil => simp [pure, Except.pure, eq_comm]
  | cons a rest ih =>
    simp only [List.mapM_cons, bind_eq_ok_iff, ih, pure, Except.pure, Except.ok.injEq]
    constructor
    · rintro ⟨b, first, later, tail, rfl⟩
      exact .cons first tail
    · intro h
      cases h with
      | cons first tail => exact ⟨_, first, _, tail, rfl⟩

/-- What a list is mapped to are the results of its members. -/
theorem mem_iff_of_mapM_eq_ok {f : α → Except ε β} {l : List α} {results : List β}
    (h : l.mapM f = .ok results) {b : β} : b ∈ results ↔ ∃ a ∈ l, f a = .ok b := by
  have pairs := mapM_eq_ok_iff.1 h
  clear h
  induction pairs with
  | nil => simp
  | cons first _ ih => simp [ih, first, eq_comm]

/-- Each member of a list that is mapped has a result. -/
theorem exists_of_mapM_eq_ok {f : α → Except ε β} {l : List α} {results : List β}
    (h : l.mapM f = .ok results) {a : α} (ha : a ∈ l) : ∃ b ∈ results, f a = .ok b := by
  have pairs := mapM_eq_ok_iff.1 h
  clear h
  induction pairs with
  | nil => exact absurd ha List.not_mem_nil
  | cons first _ ih =>
    rcases List.mem_cons.1 ha with rfl | ha
    · exact ⟨_, List.mem_cons_self, first⟩
    · obtain ⟨b, hb, made⟩ := ih ha
      exact ⟨b, List.mem_cons_of_mem _ hb, made⟩

/-- A list can be mapped if each of its members can; a fault in one is the only
thing that could stop it. -/
theorem exists_mapM_eq_ok {f : α → Except ε β} {l : List α} (h : ∀ a ∈ l, ∃ b, f a = .ok b) :
    ∃ results, l.mapM f = .ok results := by
  induction l with
  | nil => exact ⟨[], rfl⟩
  | cons a rest ih =>
    rw [List.forall_mem_cons] at h
    obtain ⟨b, first⟩ := h.1
    obtain ⟨later, tail⟩ := ih h.2
    exact ⟨b :: later, mapM_eq_ok_iff.2 (.cons first (mapM_eq_ok_iff.1 tail))⟩

/-- Results that keep a key of their members have the same keys, in order. In
use, the key is the name of a column. -/
theorem map_eq_map_of_mapM_eq_ok {γ : Type} {f : α → Except ε β} {l : List α} {results : List β}
    (h : l.mapM f = .ok results) (key : α → γ) (key' : β → γ)
    (keeps : ∀ a b, f a = .ok b → key' b = key a) : results.map key' = l.map key :=
  map_eq_of_forall₂ (mapM_eq_ok_iff.1 h) keeps

/-- A selection from a list has a part of its keys, in order, so what is
selected is in the order of the declaration. -/
theorem map_filterMap_sublist {γ : Type} {select : α → Option β} {key : α → γ} {key' : β → γ}
    (keeps : ∀ a b, select a = some b → key' b = key a) (l : List α) :
    ((l.filterMap select).map key').Sublist (l.map key) := by
  induction l with
  | nil => exact List.Sublist.slnil
  | cons a rest ih =>
    rw [List.filterMap_cons]
    split
    · exact ih.cons (key a)
    · rename_i b hb
      rw [List.map_cons, List.map_cons, keeps a b hb]
      exact ih.cons_cons (key a)

end Results

end SchemaPlan
