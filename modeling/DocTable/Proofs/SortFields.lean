/-
**Repeated sort fields.**

A query may name a field several times, in any directions. Its sort document keeps the first of them and
forgets the others. Nothing is lost: a later one is looked at only where the first one ties, and then it
ties too, whatever its direction.

* `compareBy_append`: more keys break the ties of those before them;
* `exists_firsts`: the fields that are kept, and the order that they give;
* `arrange_compileSort`: a query sorts by all its fields;
* `compileSort_keeps_order`: sorting by the fields that are kept is sorting by all.
-/

import DocTable.Proofs.Sorted
import DocTable.Store.Basic

namespace DocTable

/-- The key of a sort field. -/
def SortField.key (sort : SortField) : SortKey := ⟨sort.field, decide (sort.direction = .desc)⟩

/-- The entry of a sort field in a sort document. -/
def SortField.entry (sort : SortField) : String × Value := (sort.field, .int32 sort.direction.sign)

/-- Keys behind others break their ties. -/
theorem compareBy_append (keys more : List SortKey) (a b : Document) :
    compareBy (keys ++ more) a b = (compareBy keys a b).then (compareBy more a b) := by
  induction keys with
  | nil => rfl
  | cons key rest ih =>
    rw [List.cons_append, compareBy, compareBy, ih, Ordering.then_assoc]

/-- A key behind another one with its path changes nothing. -/
theorem compareBy_append_repeated {keys : List SortKey} {key known : SortKey}
    (member : known ∈ keys) (path : known.path = key.path) (a b : Document) :
    compareBy (keys ++ [key]) a b = compareBy keys a b := by
  rw [compareBy_append]
  cases order : compareBy keys a b with
  | lt => rfl
  | gt => rfl
  | eq =>
    have tied := compareBy_eq_iff.mp order known member
    rw [path] at tied
    exact compareBy_eq_iff.mpr (List.forall_mem_singleton.mpr tied)

/-- **The fields that are kept** make up the sort document, and order documents as all fields do. -/
theorem exists_firsts (sorts : List SortField) :
    ∃ firsts : List SortField, sorts.foldl addSortField [] = firsts.map SortField.entry ∧
      ∀ a b, compareBy (firsts.map SortField.key) a b = compareBy (sorts.map SortField.key) a b := by
  induction sorts using List.reverseRecOn with
  | nil => exact ⟨[], rfl, fun _ _ => rfl⟩
  | append_singleton sorts sort ih =>
    obtain ⟨firsts, spec, order⟩ := ih
    rw [List.foldl_append, spec, List.map_append]
    show ∃ kept : List SortField, addSortField (firsts.map SortField.entry) sort = _ ∧ _
    unfold addSortField
    by_cases known : Document.contains (firsts.map SortField.entry) sort.field
    · rw [if_pos known]
      obtain ⟨_, inside, path⟩ := Document.exists_of_contains known
      obtain ⟨first, member, rfl⟩ := List.mem_map.mp inside
      refine ⟨firsts, rfl, fun a b => ?_⟩
      rw [compareBy_append, ← order a b, ← compareBy_append]
      exact (compareBy_append_repeated (List.mem_map_of_mem member) path a b).symm
    · rw [if_neg known]
      refine ⟨firsts ++ [sort], ?_, fun a b => ?_⟩
      · rw [Document.insert_of_not_contains known, List.map_append]
        rfl
      · rw [List.map_append, compareBy_append, compareBy_append, order a b]

/-- Keys that compare alike sort alike. -/
theorem sortDocuments_congr {keys others : List SortKey}
    (order : ∀ a b, compareBy keys a b = compareBy others a b) (docs : List Document) :
    sortDocuments keys docs = sortDocuments others docs := by
  have inserted (d : Document) (sorted : List Document) :
      insertBehind keys d sorted = insertBehind others d sorted := by
    induction sorted with
    | nil => rfl
    | cons last rest ih => rw [insertBehind, insertBehind, order, ih]
  unfold sortDocuments
  rw [funext fun sorted => funext fun d => inserted d sorted]

/-- The sort document of some fields states their keys. -/
theorem ofDocument_entries {sorts : List SortField} (some_field : sorts ≠ []) :
    SortKey.ofDocument (sorts.map SortField.entry) = .ok (sorts.map SortField.key) := by
  have each : ∀ sort ∈ sorts, SortKey.ofEntry sort.entry.1 sort.entry.2 = .ok sort.key := by
    rintro ⟨field, direction⟩ _
    cases direction <;> rfl
  have all := mapM_map_eq_ok (f := fun entry : String × Value => SortKey.ofEntry entry.1 entry.2) each
  cases sorts with
  | nil => exact absurd rfl some_field
  | cons sort rest => exact all

/-- The sort document of some fields states keys that compare documents as all fields do. -/
theorem exists_spec {sorts : List SortField} (some_field : sorts ≠ []) :
    ∃ spec keys, compileSort sorts = some spec ∧ SortKey.ofDocument spec = .ok keys ∧
      ∀ a b, compareBy keys a b = compareBy (sorts.map SortField.key) a b := by
  obtain ⟨firsts, made, order⟩ := exists_firsts sorts
  have compiled : compileSort sorts = some (firsts.map SortField.entry) := by
    unfold compileSort
    rw [List.isEmpty_eq_false_iff.mpr some_field, made]
    rfl
  have some_first : firsts ≠ [] := by
    rintro rfl
    exact compileSort_ne_nil compiled rfl
  exact ⟨_, _, compiled, ofDocument_entries some_first, order⟩

/-- Without keys nothing is moved. -/
theorem sortDocuments_nil (docs : List Document) : sortDocuments [] docs = docs := by
  have none : ∀ d ∈ docs, d.PlainAt [] := fun _ _ => nofun
  refine (arranges_sortDocuments (orders_of_plain none)).eq ⟨.refl docs, ?_, fun _ _ => rfl⟩
  exact List.pairwise_of_forall fun a b => compareBy_ne_gt_iff.mp nofun

/-- **Arranging by the sort of a query** is sorting by all its fields. -/
theorem arrange_compileSort (sorts : List SortField) (docs : List Document) :
    Store.arrange (compileSort sorts) docs = .ok (sortDocuments (sorts.map SortField.key) docs) := by
  by_cases some_field : sorts = []
  · subst some_field
    exact congrArg Except.ok (sortDocuments_nil docs).symm
  · obtain ⟨spec, keys, compiled, read, order⟩ := exists_spec some_field
    rw [compiled, ← sortDocuments_congr order]
    exact bind_eq_ok.mpr ⟨keys, read, rfl⟩

/-- **Compiling the sort of a query** loses nothing. The sort document of some fields states keys, and
these keys compare any two documents as the whole list of fields does, repeats included, whatever their
directions are. Hence they sort every list of documents alike. -/
theorem compileSort_keeps_order (sorts : List SortField) (some_field : sorts ≠ []) :
    ∃ spec keys, compileSort sorts = some spec ∧ SortKey.ofDocument spec = .ok keys ∧
      (∀ a b, compareBy keys a b = compareBy (sorts.map SortField.key) a b) ∧
      ∀ docs, sortDocuments keys docs = sortDocuments (sorts.map SortField.key) docs := by
  obtain ⟨spec, keys, compiled, read, order⟩ := exists_spec some_field
  exact ⟨spec, keys, compiled, read, order, sortDocuments_congr order⟩

/-- A field that is named three times, in both directions, around another one. -/
theorem compileSort_keeps_order_people :
    let sorts : List SortField := [⟨"team", .asc⟩, ⟨"age", .desc⟩, ⟨"team", .desc⟩, ⟨"team", .asc⟩]
    sorts ≠ [] ∧ compileSort sorts = some [("team", .int32 1), ("age", .int32 (-1))] ∧
      ∀ docs, sortDocuments [⟨"team", false⟩, ⟨"age", true⟩] docs =
        sortDocuments [⟨"team", false⟩, ⟨"age", true⟩, ⟨"team", true⟩, ⟨"team", false⟩] docs := by
  intro sorts
  have some_field : sorts ≠ [] := List.cons_ne_nil _ _
  obtain ⟨spec, keys, compiled, read, _, sorted⟩ := compileSort_keeps_order sorts some_field
  cases compiled
  cases read
  exact ⟨some_field, rfl, sorted⟩

end DocTable
