/-
**What the checks of a definition and of a query establish.**

* `TableConfig.Checked`: the facts behind a definition that passed its checks;
* `TableConfig.checked_of_validate`: passing the checks gives them;
* `Query.validate_of_paths`: a query with a table and sound paths fails only by its window.
-/

import DocTable.Proofs.Except
import DocTable.Table.Config

namespace DocTable

/-- No item fails a test if and only if every item passes it. -/
theorem find?_not_eq_none {α : Type} (test : α → Bool) (items : List α) :
    items.find? (!test ·) = none ↔ ∀ item ∈ items, test item = true := by
  rw [List.find?_eq_none]
  refine forall₂_congr fun item _ => ?_
  rw [Bool.not_eq_true', Bool.not_eq_false]

namespace TableConfig

/-- What the checks of a definition establish. -/
structure Checked (c : TableConfig) : Prop where
  collection : c.collection ≠ ""
  columns : c.columns ≠ []
  paths : ∀ field ∈ c.fields, isValidPath field = true
  distinct : c.fields.Nodup
  search : ∀ field ∈ c.searchFields, field ∈ c.fields
  filters : ∀ filter ∈ c.filters, filter.field ∈ c.fields

/-- Columns that pass have sound paths, no two of them and none seen before the same. -/
theorem checkColumns_ok {seen : List String} {columns : List Column}
    (checked : checkColumns seen columns = .ok ()) :
    (∀ field ∈ columns.map (·.name), isValidPath field = true ∧ field ∉ seen) ∧
      (columns.map (·.name)).Nodup := by
  induction columns generalizing seen with
  | nil => exact ⟨fun field member => absurd member List.not_mem_nil, List.Pairwise.nil⟩
  | cons column rest ih =>
    unfold checkColumns at checked
    by_cases sound : isValidPath column.name
    · by_cases repeated : seen.contains column.name
      · simp only [sound, repeated] at checked
        cases checked
      · simp only [sound, repeated] at checked
        obtain ⟨_, _, later⟩ := bind_eq_ok.mp checked
        obtain ⟨paths, distinct⟩ := ih later
        have fresh : column.name ∉ seen := fun member =>
          repeated (List.contains_iff_mem.mpr member)
        refine ⟨fun field member => ?_, ?_⟩
        · rcases List.mem_cons.mp member with rfl | inside
          · exact ⟨sound, fresh⟩
          · exact ⟨(paths field inside).1, fun old =>
              (paths field inside).2 (List.mem_cons_of_mem _ old)⟩
        · refine List.nodup_cons.mpr ⟨fun inside => ?_, distinct⟩
          exact (paths column.name inside).2 List.mem_cons_self
    · simp only [sound] at checked
      cases checked

theorem mem_fields_of_hasColumn {c : TableConfig} {field : String}
    (known : c.hasColumn field = true) : field ∈ c.fields := by
  obtain ⟨column, member, same⟩ := List.any_eq_true.mp known
  exact List.mem_map.mpr ⟨column, member, eq_of_beq same⟩

theorem forall_of_checkNone {α : Type} (test : α → Bool) {items : List α} {fault : α → ConfigFault}
    (checked : checkNone (items.find? (!test ·)) fault = .ok ()) :
    ∀ item ∈ items, test item = true := by
  rw [← find?_not_eq_none]
  cases found : items.find? (!test ·) with
  | none => rfl
  | some bad =>
    rw [found] at checked
    cases checked

/-- The templates of a definition are those of its sources, in their order. -/
theorem forall₂_templates {c : TableConfig} {templates : List Template}
    (read : c.templates = .ok templates) :
    List.Forall₂ (fun source template => Template.ofSource source = .ok template) c.row templates := by
  obtain ⟨mapped, each, read⟩ := bind_eq_ok.mp read
  obtain ⟨_, _, read⟩ := bind_eq_ok.mp read
  cases read
  refine (mapM_eq_ok.mp each).imp fun source template parsed => ?_
  unfold templateOf at parsed
  split at parsed
  · next found =>
    cases parsed
    exact found
  · cases parsed

/-- A definition passes its checks one after the other. -/
theorem parts_of_validate {c : TableConfig} (valid : c.validate = .ok ()) :
    c.collection ≠ "" ∧ c.columns ≠ [] ∧ checkColumns [] c.columns = .ok () ∧
      checkNone (c.searchFields.find? (!c.hasColumn ·)) .unknownSearchField = .ok () ∧
      checkNone (c.filters.find? (!c.hasColumn ·.field))
        (fun filter => .unknownFilterField filter.field) = .ok () ∧
      ∃ templates, c.templates = .ok templates := by
  unfold validate at valid
  by_cases noCollection : c.collection = ""
  · simp only [if_pos noCollection] at valid
    cases valid
  · by_cases noColumn : c.columns.isEmpty
    · simp only [if_neg noCollection, if_pos noColumn] at valid
      cases valid
    · simp only [if_neg noCollection, if_neg noColumn] at valid
      obtain ⟨_, columns, valid⟩ := bind_eq_ok.mp valid
      obtain ⟨_, search, valid⟩ := bind_eq_ok.mp valid
      obtain ⟨_, filters, valid⟩ := bind_eq_ok.mp valid
      obtain ⟨templates, read, _⟩ := map_eq_ok.mp valid
      exact ⟨noCollection, fun empty => noColumn (List.isEmpty_iff.mpr empty), columns, search,
        filters, templates, read⟩

/-- **Passing the checks** establishes what they are for. -/
theorem checked_of_validate {c : TableConfig} (valid : c.validate = .ok ()) : c.Checked := by
  obtain ⟨collection, some_column, columns, search, filters, _⟩ := parts_of_validate valid
  obtain ⟨paths, distinct⟩ := checkColumns_ok columns
  exact
    { collection := collection
      columns := some_column
      paths := fun field member => (paths field member).1
      distinct := distinct
      search := fun field member =>
        mem_fields_of_hasColumn (forall_of_checkNone c.hasColumn search field member)
      filters := fun filter member =>
        mem_fields_of_hasColumn (forall_of_checkNone (fun filter : Filter =>
          c.hasColumn filter.field) filters filter member) }

end TableConfig

namespace Query

/-- **A query with a table and sound paths** fails only by its window. -/
theorem validate_of_paths {q : Query} (table : q.table ≠ "")
    (fields : ∀ field ∈ q.fields, isValidPath field = true)
    (sort : ∀ sort ∈ q.sort, isValidPath sort.field = true)
    (filters : ∀ filter ∈ q.filters, isValidPath filter.field = true) :
    q.validate = .ok () ∨ q.validate = .error (.invalidWindow q.offset q.limit) := by
  unfold validate
  rw [if_neg table, (find?_not_eq_none isValidPath q.fields).mpr fields,
    (find?_not_eq_none (fun sort : SortField => isValidPath sort.field) q.sort).mpr sort,
    (find?_not_eq_none (fun filter : Filter => isValidPath filter.field) q.filters).mpr filters]
  by_cases outside : largestWindow < q.offset ∨ largestWindow < q.limit
  · exact Or.inr (if_pos outside)
  · exact Or.inl (if_neg outside)

end Query

end DocTable
