/-
**Computations that may fail.**

* `bind_eq_ok`, `map_eq_ok`: what a successful computation is made of;
* `mapM_eq_ok`, `mapM_eq_ok_map`, `mapM_map_eq_ok`: a list goes through one item after the other;
* `mapM_congr`: functions that agree on a list;
* `exists_ok_of_mapM`, `exists_mapM_ok`, `mapM_cons_of_error`: one item of it;
* `exists_mapM_ok_iff`, `mapM_eq_error_iff`: a list goes through, or its first faulty item decides.
-/

import Mathlib.Data.List.Forall2

namespace DocTable

variable {ε α β : Type}

/-- Two computations in sequence succeed if both do. -/
theorem bind_eq_ok {x : Except ε α} {f : α → Except ε β} {b : β} :
    x.bind f = .ok b ↔ ∃ a, x = .ok a ∧ f a = .ok b := by
  cases x with
  | error fault => simp [Except.bind]
  | ok a => simp [Except.bind]

theorem map_eq_ok {x : Except ε α} {f : α → β} {b : β} :
    x.map f = .ok b ↔ ∃ a, x = .ok a ∧ f a = b := by
  cases x with
  | error fault => simp [Except.map]
  | ok a => simp [Except.map]

/-- A list goes through if every item does, and each result stands at the place of its item. -/
theorem mapM_eq_ok {f : α → Except ε β} {items : List α} {results : List β} :
    items.mapM f = .ok results ↔ List.Forall₂ (fun item result => f item = .ok result) items results := by
  induction items generalizing results with
  | nil =>
    rw [List.mapM_nil, List.forall₂_nil_left_iff]
    exact ⟨fun same => (Except.ok.inj same).symm, fun same => congrArg Except.ok same.symm⟩
  | cons item rest ih =>
    rw [List.mapM_cons, List.forall₂_cons_left_iff]
    constructor
    · intro mapped
      obtain ⟨first, head, mapped⟩ := bind_eq_ok.mp mapped
      obtain ⟨others, tail, mapped⟩ := bind_eq_ok.mp mapped
      cases mapped
      exact ⟨first, others, head, ih.mp tail, rfl⟩
    · rintro ⟨first, others, head, tail, rfl⟩
      exact bind_eq_ok.mpr ⟨first, head, bind_eq_ok.mpr ⟨others, ih.mpr tail, rfl⟩⟩

/-- A function that succeeds on every item of a list maps the list. -/
theorem mapM_eq_ok_map {f : α → Except ε β} {g : α → β} {items : List α}
    (each : ∀ item ∈ items, f item = .ok (g item)) : items.mapM f = .ok (items.map g) := by
  rw [mapM_eq_ok, List.forall₂_map_right_iff, List.forall₂_same]
  exact each

theorem mapM_map_eq_ok {γ : Type} {f : α → Except ε β} {h : γ → α} {g : γ → β} {items : List γ}
    (each : ∀ item ∈ items, f (h item) = .ok (g item)) :
    (items.map h).mapM f = .ok (items.map g) := by
  rw [List.mapM_map]
  exact mapM_eq_ok_map each

/-- Functions that agree on the items of a list do the same with the list. -/
theorem mapM_congr {f g : α → Except ε β} {items : List α} (same : ∀ item ∈ items, f item = g item) :
    items.mapM f = items.mapM g := by
  induction items with
  | nil => rfl
  | cons item rest ih =>
    obtain ⟨first, others⟩ := List.forall_mem_cons.mp same
    rw [List.mapM_cons, List.mapM_cons, first, ih others]

/-- Every item of a list that goes through does. -/
theorem exists_ok_of_mapM {f : α → Except ε β} {items : List α} {results : List β}
    (mapped : items.mapM f = .ok results) {item : α} (member : item ∈ items) :
    ∃ result, f item = .ok result := by
  have pairs := mapM_eq_ok.mp mapped
  clear mapped
  induction pairs with
  | nil => cases member
  | cons first _ ih =>
    rcases List.mem_cons.mp member with rfl | later
    · exact ⟨_, first⟩
    · exact ih later

/-- A list goes through if every item of it does. -/
theorem exists_mapM_ok {f : α → Except ε β} {items : List α}
    (each : ∀ item ∈ items, ∃ result, f item = .ok result) :
    ∃ results, items.mapM f = .ok results := by
  induction items with
  | nil => exact ⟨[], rfl⟩
  | cons item rest ih =>
    obtain ⟨first, head⟩ := each item List.mem_cons_self
    obtain ⟨others, tail⟩ := ih fun other member => each other (List.mem_cons_of_mem item member)
    exact ⟨first :: others, mapM_eq_ok.mpr (.cons head (mapM_eq_ok.mp tail))⟩

/-- A list goes through exactly if every item of it does. -/
theorem exists_mapM_ok_iff {f : α → Except ε β} {items : List α} :
    (∃ results, items.mapM f = .ok results) ↔ ∀ item ∈ items, ∃ result, f item = .ok result := by
  constructor
  · rintro ⟨results, mapped⟩ item member
    exact exists_ok_of_mapM mapped member
  · exact exists_mapM_ok

/-- The first item decides when it fails. -/
theorem mapM_cons_of_error {f : α → Except ε β} {item : α} {fault : ε}
    (failed : f item = .error fault) (rest : List α) : (item :: rest).mapM f = .error fault := by
  rw [List.mapM_cons, failed]
  rfl

/-- A list fails for the fault of its first item that does. -/
theorem mapM_eq_error_iff {f : α → Except ε β} {items : List α} {fault : ε} :
    items.mapM f = .error fault ↔
      ∃ front item rest, items = front ++ item :: rest ∧
        (∀ earlier ∈ front, ∃ result, f earlier = .ok result) ∧ f item = .error fault := by
  constructor
  · intro failed
    induction items with
    | nil => cases failed
    | cons item rest ih =>
      cases head : f item with
      | error first =>
        have same : first = fault := Except.error.inj ((mapM_cons_of_error head rest).symm.trans failed)
        exact ⟨[], item, rest, rfl, fun _ member => absurd member List.not_mem_nil, same ▸ head⟩
      | ok result =>
        cases tail : rest.mapM f with
        | ok results =>
          rw [List.mapM_cons, head, tail] at failed
          cases failed
        | error later =>
          rw [List.mapM_cons, head, tail] at failed
          obtain ⟨front, culprit, others, split, fine, culpable⟩ := ih (tail.trans failed)
          refine ⟨item :: front, culprit, others, by rw [split]; rfl, ?_, culpable⟩
          exact List.forall_mem_cons.mpr ⟨⟨result, head⟩, fine⟩
  · rintro ⟨front, item, rest, rfl, fine, failed⟩
    obtain ⟨results, mapped⟩ := exists_mapM_ok fine
    rw [List.mapM_append, mapped, mapM_cons_of_error failed]
    rfl

end DocTable
