/-
**What changes at a path leave behind.**

A value that is set at a path is found there, and the last one counts; what is removed is gone at once.
Neither is seen at a path apart from it, although setting a value may put a document where another value
stood.

* `Document.setAt_setAt`: the last value that is set counts;
* `Document.removeAt_removeAt`: what is removed is gone at once;
* `lookup_of_changed`: all of it together, for paths as texts.
-/

import DocTable.Proofs.AddedFields
import DocTable.Proofs.Removal

namespace DocTable

namespace Document

/-- The last value that is set under a key counts, and the key keeps its place. -/
theorem insert_insert (d : Document) (key : String) (first second : Value) :
    (d.insert key first).insert key second = d.insert key second := by
  induction d with
  | nil => simp [insert]
  | cons entry rest ih =>
    obtain ⟨name, old⟩ := entry
    by_cases here : name = key
    · simp [insert, here]
    · simp [insert, here, ih]

/-- **The last value** that is set at a path counts: of the one before it not even the order of keys
is left. -/
theorem setAt_setAt (d : Document) (path : List String) (first second : Value) :
    (d.setAt path first).setAt path second = d.setAt path second := by
  induction path generalizing d with
  | nil => rfl
  | cons key path ih =>
    by_cases last : path = []
    · subst last
      exact insert_insert d key first second
    · rw [setAt_cons d key last, setAt_cons d key last, setAt_cons _ key last, get?_insert_self,
        insert_insert]
      show d.insert key (.document ((setAt _ path first).setAt path second)) = _
      rw [ih]

/-- **What is removed** is gone at once. -/
theorem removeAt_removeAt (d : Document) {path : List String} (nonempty : path ≠ []) :
    (d.removeAt path).removeAt path = d.removeAt path :=
  removeAt_of_follow_eq_none (follow_removeAt_of_front d nonempty List.prefix_rfl)

end Document

/-- **What a change at a path leaves behind.** What is set is found, and the last value that is set counts,
the order of keys included. What is removed is not found, and removing it again changes nothing. Neither
change is seen at a path apart from it, whatever stands on the way. -/
theorem lookup_of_changed (d : Document) (path other : String) (first second : Value) :
    (d.setPath path first).lookup path = some first ∧
      (d.setPath path first).setPath path second = d.setPath path second ∧
      (d.removePath path).lookup path = none ∧
      (d.removePath path).removePath path = d.removePath path ∧
      (Apart path other → (d.setPath path first).lookup other = d.lookup other ∧
        (d.removePath path).lookup other = d.lookup other) := by
  have nonempty := segments_ne_nil path
  refine ⟨d.follow_setAt_self nonempty first, d.setAt_setAt _ first second,
    d.follow_removeAt_of_front nonempty List.prefix_rfl, d.removeAt_removeAt nonempty,
    fun apart => ⟨d.follow_setAt_of_apart first apart.1 apart.2,
      d.follow_removeAt_of_apart apart.1 apart.2⟩⟩

/-- A path whose front holds a number, and one that shares a segment with it. -/
theorem lookup_of_changed_person :
    let person : Document :=
      [("home", .document [("city", .int32 3), ("", .string "Turin")]), ("name", .string "Ada")]
    Apart "home.city.name" "home." ∧
      (person.setPath "home.city.name" (.string "Oslo")).lookup "home.city.name" =
        some (.string "Oslo") ∧
      (person.setPath "home.city.name" (.string "Oslo")).lookup "home." = some (.string "Turin") ∧
      (person.removePath "home.city.name").lookup "home." = some (.string "Turin") := by
  intro person
  have apart : Apart "home.city.name" "home." := by decide +kernel
  obtain ⟨found, _, _, _, kept⟩ :=
    lookup_of_changed person "home.city.name" "home." (.string "Oslo") .null
  have there : person.lookup "home." = some (.string "Turin") := rfl
  exact ⟨apart, found, (kept apart).1.trans there, (kept apart).2.trans there⟩

end DocTable
