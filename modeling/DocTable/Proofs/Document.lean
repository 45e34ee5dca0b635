/-
**Entries of documents that are built up.**

* `Document.mem_of_mem_insert`, `Document.mem_keys_insert`: the entries and the keys behind setting
  one key;
* `Document.mem_of_mem_foldl`: the entries behind many steps, each of which adds some;
* `Document.get?_eq_none_iff`, `Document.exists_of_contains`, `Document.get?_of_mem`: keys without an
  entry, and with one;
* `Document.nodup_keys_insert`: no key is repeated;
* `Document.insert_of_absent`: a new key stands at the end.
-/

import DocTable.Value.Basic

namespace DocTable.Document

/-- What is set in a document is the only entry that it may not have had. -/
theorem mem_of_mem_insert {d : Document} {key : String} {value : Value} {entry : String × Value}
    (member : entry ∈ d.insert key value) : entry = (key, value) ∨ entry ∈ d := by
  induction d with
  | nil => exact Or.inl (List.mem_singleton.mp member)
  | cons first rest ih =>
    obtain ⟨name, old⟩ := first
    unfold insert at member
    split at member
    · next here =>
      rcases List.mem_cons.mp member with rfl | later
      · exact Or.inl (by rw [here])
      · exact Or.inr (List.mem_cons_of_mem _ later)
    · rcases List.mem_cons.mp member with rfl | later
      · exact Or.inr List.mem_cons_self
      · exact (ih later).imp id (List.mem_cons_of_mem _)

/-- The keys behind setting one are that key and those from before. -/
theorem mem_keys_insert {d : Document} {key other : String} {value : Value} :
    other ∈ (d.insert key value).map Prod.fst ↔ other = key ∨ other ∈ d.map Prod.fst := by
  induction d with
  | nil => simp [insert]
  | cons entry rest ih =>
    obtain ⟨name, old⟩ := entry
    unfold insert
    by_cases here : name = key
    · rw [if_pos here]
      simp only [List.map_cons, List.mem_cons, here, or_self_left]
    · rw [if_neg here]
      simp only [List.map_cons, List.mem_cons, ih, or_left_comm]

/-- If one step adds only entries of some kind, then so do many. -/
theorem mem_of_mem_foldl {α : Type} {step : Document → α → Document}
    {added : α → String × Value → Prop}
    (one : ∀ d item entry, entry ∈ step d item → entry ∈ d ∨ added item entry)
    {items : List α} {d : Document} {entry : String × Value} (member : entry ∈ items.foldl step d) :
    entry ∈ d ∨ ∃ item ∈ items, added item entry := by
  induction items generalizing d with
  | nil => exact Or.inl member
  | cons item rest ih =>
    rcases ih member with old | ⟨other, inside, new⟩
    · rcases one d item entry old with old | new
      · exact Or.inl old
      · exact Or.inr ⟨item, List.mem_cons_self, new⟩
    · exact Or.inr ⟨other, List.mem_cons_of_mem item inside, new⟩

theorem insert_ne_nil (d : Document) (key : String) (value : Value) : d.insert key value ≠ [] := by
  cases d with
  | nil => exact List.cons_ne_nil _ _
  | cons entry rest =>
    unfold insert
    split
    · exact List.cons_ne_nil _ _
    · exact List.cons_ne_nil _ _

/-- A key that leads nowhere has no entry. -/
theorem get?_eq_none_iff {d : Document} {key : String} :
    d.get? key = none ↔ ∀ entry ∈ d, entry.1 ≠ key := by
  induction d with
  | nil => simp [get?]
  | cons entry rest ih =>
    obtain ⟨name, value⟩ := entry
    unfold get?
    by_cases here : name = key
    · simp [here]
    · rw [if_neg here, ih]
      simp [here]

/-- A key that is there has an entry. -/
theorem exists_of_contains {d : Document} {key : String} (known : d.contains key = true) :
    ∃ entry ∈ d, entry.1 = key := by
  refine Classical.byContradiction fun absent => ?_
  have nothing : d.get? key = none :=
    get?_eq_none_iff.mpr fun entry member same => absent ⟨entry, member, same⟩
  rw [contains, nothing] at known
  cases known

/-- What stands under a key that is not repeated. -/
theorem get?_of_mem {d : Document} (keys : (d.map Prod.fst).Nodup) {key : String} {v : Value}
    (member : (key, v) ∈ d) : d.get? key = some v := by
  induction d with
  | nil => cases member
  | cons entry rest ih =>
    obtain ⟨name, old⟩ := entry
    obtain ⟨absent, distinct⟩ := List.nodup_cons.mp keys
    unfold get?
    rcases List.mem_cons.mp member with here | later
    · cases here
      exact if_pos rfl
    · have other : name ≠ key := by
        rintro rfl
        exact absent (List.mem_map.mpr ⟨_, later, rfl⟩)
      rw [if_neg other]
      exact ih distinct later

/-- Setting a key repeats none. -/
theorem nodup_keys_insert {d : Document} (keys : (d.map Prod.fst).Nodup) (key : String)
    (value : Value) : ((d.insert key value).map Prod.fst).Nodup := by
  induction d with
  | nil => exact List.pairwise_singleton _ key
  | cons entry rest ih =>
    obtain ⟨name, old⟩ := entry
    obtain ⟨absent, distinct⟩ := List.nodup_cons.mp keys
    unfold insert
    by_cases here : name = key
    · rw [if_pos here]
      exact keys
    · rw [if_neg here]
      refine List.nodup_cons.mpr ⟨fun member => ?_, ih distinct⟩
      exact (mem_keys_insert.mp member).elim here absent

/-- A new key stands at the end. -/
theorem insert_of_absent {d : Document} {key : String} {value : Value}
    (absent : ∀ entry ∈ d, entry.1 ≠ key) : d.insert key value = d ++ [(key, value)] := by
  induction d with
  | nil => rfl
  | cons entry rest ih =>
    obtain ⟨name, old⟩ := entry
    unfold insert
    rw [if_neg (absent (name, old) List.mem_cons_self),
      ih fun other member => absent other (List.mem_cons_of_mem _ member)]
    rfl

/-- A key that is not there stands at the end once it is set. -/
theorem insert_of_not_contains {d : Document} {key : String} (unknown : ¬d.contains key = true)
    (value : Value) : d.insert key value = d ++ [(key, value)] :=
  insert_of_absent (get?_eq_none_iff.mp (Option.not_isSome_iff_eq_none.mp unknown))

end DocTable.Document
