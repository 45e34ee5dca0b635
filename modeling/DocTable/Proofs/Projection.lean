/-
**The rows that a query shows.**

The projection of a query names every field but the identifier, and drops the identifier. A row so
projected holds what the document has at those fields and nothing else, unless the identifier is the
only field: then it is the document without its identifier. In both cases the cells of the row depend
on the fields alone.

* `project_planProjection`: the projection of a query never fails;
* `rowCells_shown_congr`: documents that agree on the fields have the same cells.
-/

import DocTable.Proofs.Document
import DocTable.Query.Compile
import DocTable.Store.Projection
import DocTable.Table.Cell
import Mathlib.Data.List.Basic

namespace DocTable

open Projection

/-! ### The projection document -/

/-- The entries that a projection keeps: one for each field but the identifier. -/
def keptEntries (fields : List String) : Document :=
  (fields.filter (· ≠ idKey)).foldl (fun d field => Document.insert d field (.int32 1)) []

/-- Every kept entry is a field with the number one. -/
theorem mem_keptEntries {fields : List String} {entry : String × Value}
    (member : entry ∈ keptEntries fields) :
    entry.1 ∈ fields ∧ entry.1 ≠ idKey ∧ entry.2 = .int32 1 := by
  have one (d : Document) (field : String) (entry : String × Value)
      (member : entry ∈ Document.insert d field (.int32 1)) :
      entry ∈ d ∨ (entry.1 = field ∧ entry.2 = .int32 1) := by
    rcases Document.mem_of_mem_insert member with rfl | old
    · exact Or.inr ⟨rfl, rfl⟩
    · exact Or.inl old
  obtain ⟨field, inside, rfl, number⟩ :=
    (Document.mem_of_mem_foldl one member).resolve_left List.not_mem_nil
  obtain ⟨listed, apart⟩ := List.mem_filter.mp inside
  exact ⟨listed, of_decide_eq_true apart, number⟩

theorem mem_keys_keptEntries {fields : List String} {field : String} :
    field ∈ (keptEntries fields).map Prod.fst ↔ field ∈ fields ∧ field ≠ idKey := by
  have grows : ∀ (others : List String) (before : Document),
      field ∈ (others.foldl (fun d field => Document.insert d field (.int32 1)) before).map Prod.fst ↔
        field ∈ others ∨ field ∈ before.map Prod.fst := by
    intro others
    induction others with
    | nil => simp
    | cons other rest ih =>
      intro before
      rw [List.foldl_cons, ih, Document.mem_keys_insert, List.mem_cons]
      tauto
  unfold keptEntries
  rw [grows, List.mem_filter]
  simp

/-- Only the identifier by itself keeps nothing. -/
theorem keptEntries_eq_nil {fields : List String} :
    keptEntries fields = [] ↔ ∀ field ∈ fields, field = idKey := by
  rw [← List.map_eq_nil_iff (f := Prod.fst), List.eq_nil_iff_forall_not_mem]
  refine forall_congr' fun field => ?_
  rw [mem_keys_keptEntries]
  tauto

/-- The projection document: the kept entries, and the identifier dropped behind them. -/
theorem planProjection_eq (fields : List String) :
    planProjection fields = keptEntries fields ++ [(idKey, .int32 0)] :=
  Document.insert_of_absent fun _ member => (mem_keptEntries member).2.1

/-- Kept entries with the identifier dropped behind them keep, if there are any. -/
theorem modeOf_kept {kept : Document}
    (ones : ∀ entry ∈ kept, entry.1 ≠ idKey ∧ entry.2 = .int32 1) (mode : Option ProjectionMode)
    (keeps : mode = none ∨ mode = some .keep) :
    modeOf mode true (kept ++ [(idKey, .int32 0)]) =
      .ok (if kept = [] then mode else some .keep, false) := by
  induction kept generalizing mode with
  | nil => rfl
  | cons entry rest ih =>
    obtain ⟨path, spec⟩ := entry
    obtain ⟨apart, one⟩ := ones (path, spec) List.mem_cons_self
    have later := ih (fun other member => ones other (List.mem_cons_of_mem _ member))
      (some .keep) (Or.inr rfl)
    rw [ite_self] at later
    have step : modeOf mode true ((path, spec) :: (rest ++ [(idKey, .int32 0)])) =
        modeOf (some .keep) true (rest ++ [(idKey, .int32 0)]) := by
      rw [show spec = .int32 1 from one, modeOf]
      show (if path = idKey then _ else _) = _
      rw [if_neg apart]
      rcases keeps with rfl | rfl
      · rfl
      · rfl
    rw [List.cons_append, step, later, if_neg (List.cons_ne_nil _ _)]

/-! ### Rows -/

/-- The row of a document. -/
def shown (fields : List String) (d : Document) : Document :=
  if keptEntries fields = [] then d.erase idKey
  else (planProjection fields).foldl (includeEntry d) []

/-- **The projection of a query** never fails. -/
theorem project_planProjection (fields : List String) (d : Document) :
    project d (planProjection fields) = .ok (shown fields d) := by
  have ones : ∀ entry ∈ keptEntries fields, entry.1 ≠ idKey ∧ entry.2 = .int32 1 :=
    fun _ member => (mem_keptEntries member).2
  have mode := modeOf_kept ones none (Or.inl rfl)
  rw [← planProjection_eq] at mode
  have some_entry : (planProjection fields).isEmpty = false := by
    rw [planProjection_eq, List.isEmpty_eq_false_iff]
    exact List.append_ne_nil_of_right_ne_nil _ (List.cons_ne_nil _ _)
  unfold project shown
  rw [some_entry, mode]
  by_cases nothing : keptEntries fields = []
  · rw [if_pos nothing, if_pos nothing]
    rfl
  · rw [if_neg nothing, if_neg nothing]
    rfl

/-- **The cells of a row** depend on the fields alone. -/
theorem rowCells_shown_congr {fields : List String} {d e : Document}
    (agree : ∀ path ∈ fields, d.lookup path = e.lookup path) :
    rowCells (shown fields d) fields = rowCells (shown fields e) fields := by
  unfold shown
  by_cases nothing : keptEntries fields = []
  · rw [if_pos nothing, if_pos nothing]
    have missing (x : Document) : (x.erase idKey).cell idKey = .null := by
      show (((x.erase idKey).get? idKey).bind some).getD .null = .null
      rw [Document.get?_erase_self]
      rfl
    refine List.map_congr_left fun path member => ?_
    have identifier : path = idKey := keptEntries_eq_nil.mp nothing path member
    rw [identifier, missing d, missing e]
  · rw [if_neg nothing, if_neg nothing]
    congr 1
    refine List.foldl_ext _ _ _ fun out entry member => ?_
    unfold includeEntry
    by_cases identifier : entry.1 = idKey
    · rw [if_pos identifier, if_pos identifier]
    · rw [if_neg identifier, if_neg identifier]
      rw [planProjection_eq] at member
      rcases List.mem_append.mp member with kept | last
      · obtain ⟨field, _, one⟩ := mem_keptEntries kept
        have same : valueOf d entry.1 entry.2 = valueOf e entry.1 entry.2 := by
          unfold valueOf
          rw [one]
          exact agree entry.1 field
        rw [same]
      · rw [List.mem_singleton.mp last] at identifier
        exact absurd rfl identifier

end DocTable
