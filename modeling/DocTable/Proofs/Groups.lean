/-
**The groups of a query's filters.**

Filters are grouped by field in one pass. However the filters are interleaved:

* `mem_groupFilters`: a group holds all values that its field is filtered by, in their order;
* `mem_fields_groupFilters`: every filtered field has a group, and no other field has one;
* `groupFilters_eq_nil`: only no filters give no groups.
-/

import DocTable.Query.Compile

namespace DocTable

/-- The values that a field is filtered by. -/
def valuesOn (field : String) (filters : List Filter) : List FilterValue :=
  (filters.filter (·.field = field)).map (·.value)

/-- The fields of groups. -/
def groupFields (groups : List FieldGroup) : List String := groups.map (·.field)

theorem valuesOn_append (field : String) (first second : List Filter) :
    valuesOn field (first ++ second) = valuesOn field first ++ valuesOn field second := by
  unfold valuesOn
  rw [List.filter_append, List.map_append]

theorem valuesOn_single_of_ne {field : String} {filter : Filter} (other : filter.field ≠ field) :
    valuesOn field [filter] = [] := by
  simp [valuesOn, other]

/-- A field without filters has no values. -/
theorem valuesOn_eq_nil {field : String} {filters : List Filter}
    (absent : field ∉ filters.map (·.field)) : valuesOn field filters = [] := by
  unfold valuesOn
  rw [List.map_eq_nil_iff, List.filter_eq_nil_iff]
  intro filter member same
  exact absent (List.mem_map.mpr ⟨filter, member, of_decide_eq_true same⟩)

theorem mem_valuesOn {field : String} {filters : List Filter} {value : FilterValue} :
    value ∈ valuesOn field filters ↔ ⟨field, value⟩ ∈ filters := by
  unfold valuesOn
  rw [List.mem_map]
  constructor
  · rintro ⟨⟨found, _⟩, member, rfl⟩
    obtain ⟨inside, same⟩ := List.mem_filter.mp member
    rwa [show found = field from of_decide_eq_true same] at inside
  · intro member
    exact ⟨⟨field, value⟩, List.mem_filter.mpr ⟨member, decide_eq_true rfl⟩, rfl⟩

/-! ### One filter -/

/-- A filter on a field that has a group adds no field. -/
theorem groupFields_addToGroups_of_mem {filter : Filter} {groups : List FieldGroup}
    (present : filter.field ∈ groupFields groups) :
    groupFields (addToGroups filter groups) = groupFields groups := by
  induction groups with
  | nil => cases present
  | cons group rest ih =>
    unfold addToGroups
    by_cases same : group.field = filter.field
    · rw [if_pos same]
      rfl
    · rw [if_neg same]
      have later : filter.field ∈ groupFields rest :=
        (List.mem_cons.mp present).resolve_left (Ne.symm same)
      exact congrArg (group.field :: ·) (ih later)

/-- A filter on a new field makes a group behind the others. -/
theorem addToGroups_of_not_mem {filter : Filter} {groups : List FieldGroup}
    (absent : filter.field ∉ groupFields groups) :
    addToGroups filter groups = groups ++ [⟨filter.field, [filter.value]⟩] := by
  induction groups with
  | nil => rfl
  | cons group rest ih =>
    obtain ⟨notHere, notLater⟩ := not_or.mp (mt List.mem_cons.mpr absent)
    unfold addToGroups
    rw [if_neg (Ne.symm notHere), ih notLater]
    rfl

/-- A group behind one more filter: it was there before, or it is the group of that filter's
field. -/
theorem mem_addToGroups_of_mem {filter : Filter} {groups : List FieldGroup}
    (distinct : (groupFields groups).Nodup) (present : filter.field ∈ groupFields groups)
    {group : FieldGroup} (member : group ∈ addToGroups filter groups) :
    (group.field ≠ filter.field ∧ group ∈ groups) ∨
      ∃ old ∈ groups, old.field = filter.field ∧
        group = ⟨old.field, old.values ++ [filter.value]⟩ := by
  induction groups with
  | nil => cases present
  | cons first rest ih =>
    obtain ⟨notLater, distinctRest⟩ := List.nodup_cons.mp distinct
    unfold addToGroups at member
    by_cases same : first.field = filter.field
    · rw [if_pos same] at member
      rcases List.mem_cons.mp member with rfl | later
      · exact Or.inr ⟨first, List.mem_cons_self, same, rfl⟩
      · refine Or.inl ⟨fun clash => notLater ?_, List.mem_cons_of_mem _ later⟩
        exact List.mem_map.mpr ⟨group, later, clash.trans same.symm⟩
    · rw [if_neg same] at member
      rcases List.mem_cons.mp member with rfl | later
      · exact Or.inl ⟨same, List.mem_cons_self⟩
      · have presentRest := (List.mem_cons.mp present).resolve_left (Ne.symm same)
        rcases ih distinctRest presentRest later with ⟨apart, inside⟩ | ⟨old, inside, found⟩
        · exact Or.inl ⟨apart, List.mem_cons_of_mem _ inside⟩
        · exact Or.inr ⟨old, List.mem_cons_of_mem _ inside, found⟩

/-! ### All filters -/

/-- The groups of the filters that have been seen. -/
structure Grouped (seen : List Filter) (groups : List FieldGroup) : Prop where
  values : ∀ group ∈ groups, group.values = valuesOn group.field seen
  fields : ∀ field, field ∈ groupFields groups ↔ field ∈ seen.map (·.field)
  distinct : (groupFields groups).Nodup

/-- **One more filter** keeps the groups in order. -/
theorem Grouped.add {seen : List Filter} {groups : List FieldGroup} (grouped : Grouped seen groups)
    (filter : Filter) : Grouped (seen ++ [filter]) (addToGroups filter groups) := by
  by_cases present : filter.field ∈ groupFields groups
  · have sameFields := groupFields_addToGroups_of_mem present
    refine ⟨fun group member => ?_, fun field => ?_, ?_⟩
    · rw [valuesOn_append]
      rcases mem_addToGroups_of_mem grouped.distinct present member with
        ⟨apart, inside⟩ | ⟨old, inside, same, rfl⟩
      · rw [valuesOn_single_of_ne (Ne.symm apart), List.append_nil]
        exact grouped.values group inside
      · show old.values ++ [filter.value] = valuesOn old.field seen ++ valuesOn old.field [filter]
        rw [grouped.values old inside]
        simp [valuesOn, same]
    · rw [sameFields, grouped.fields, List.map_append, List.mem_append]
      refine ⟨Or.inl, fun either => either.elim id fun last => ?_⟩
      rw [List.map_singleton, List.mem_singleton] at last
      rw [last]
      exact (grouped.fields filter.field).mp present
    · rw [sameFields]
      exact grouped.distinct
  · rw [addToGroups_of_not_mem present]
    refine ⟨fun group member => ?_, fun field => ?_, ?_⟩
    · rw [valuesOn_append]
      rcases List.mem_append.mp member with inside | last
      · have apart : filter.field ≠ group.field := fun same =>
          present (List.mem_map.mpr ⟨group, inside, same.symm⟩)
        rw [valuesOn_single_of_ne apart, List.append_nil]
        exact grouped.values group inside
      · rw [List.mem_singleton.mp last,
          valuesOn_eq_nil fun old => present ((grouped.fields filter.field).mpr old)]
        simp [valuesOn]
    · show field ∈ List.map _ (groups ++ _) ↔ _
      rw [List.map_append, List.map_append, List.mem_append, List.mem_append]
      exact or_congr (grouped.fields field) Iff.rfl
    · show (List.map _ (groups ++ _)).Nodup
      rw [List.map_append, List.nodup_append]
      refine ⟨grouped.distinct, List.pairwise_singleton _ _, fun old inside new last => ?_⟩
      rintro rfl
      rw [List.map_singleton, List.mem_singleton] at last
      rw [last] at inside
      exact present inside

/-- **All filters**: the groups of one pass. -/
theorem grouped_groupFilters (filters : List Filter) : Grouped filters (groupFilters filters) := by
  have pass : ∀ (rest seen : List Filter) (groups : List FieldGroup), Grouped seen groups →
      Grouped (seen ++ rest) (rest.foldl (fun groups filter => addToGroups filter groups) groups) := by
    intro rest
    induction rest with
    | nil =>
      intro seen groups grouped
      rwa [List.append_nil]
    | cons filter rest ih =>
      intro seen groups grouped
      have more := ih (seen ++ [filter]) _ (grouped.add filter)
      rwa [List.append_assoc] at more
  refine pass filters [] [] ⟨fun group member => ?_, fun _ => Iff.rfl, List.Pairwise.nil⟩
  cases member

/-- A group holds all values that its field is filtered by, in their order. -/
theorem mem_groupFilters {filters : List Filter} {group : FieldGroup}
    (member : group ∈ groupFilters filters) : group.values = valuesOn group.field filters :=
  (grouped_groupFilters filters).values group member

/-- Every filtered field has a group, and no other field has one. -/
theorem mem_fields_groupFilters (filters : List Filter) (field : String) :
    field ∈ groupFields (groupFilters filters) ↔ field ∈ filters.map (·.field) :=
  (grouped_groupFilters filters).fields field

/-- Only no filters give no groups. -/
theorem groupFilters_eq_nil (filters : List Filter) :
    groupFilters filters = [] ↔ filters = [] := by
  constructor
  · intro none
    rw [List.eq_nil_iff_forall_not_mem]
    intro filter member
    have grouped := (mem_fields_groupFilters filters filter.field).mpr
      (List.mem_map.mpr ⟨filter, member, rfl⟩)
    rw [none] at grouped
    cases grouped
  · rintro rfl
    rfl

end DocTable
