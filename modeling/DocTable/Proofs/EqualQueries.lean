/-
**Equal queries have equal plans.**

Queries and plans are equal if all their parts are. Texts and whole numbers are compared as they are,
documents up to the order of their keys, and numbers with a point by value, so that both zeros are equal.
Compiling goes part by part: what it makes of equal parts is equal again.

* `Query.Same`, `ExecutionPlan.Same`: equality of queries and of plans;
* `same_condition`, `same_groupFilters`, `same_compileMatch`: compiled filters of equal queries;
* `same_explain`: plans of equal queries.
-/

import DocTable.Proofs.Document
import DocTable.Proofs.ParsedFilter
import DocTable.Query.Plan

namespace DocTable

/-! ### Equality -/

/-- Equality of documents, whatever the order of their keys. -/
def Document.Same (d e : Document) : Prop := (Value.document d).same (.document e) = true

/-- Equality of filter values; numbers with a point are compared by value. -/
def FilterValue.same : FilterValue → FilterValue → Bool
  | .float x, .float y => x.equal y
  | .floatRange min max, .floatRange low high => min.equal low && max.equal high
  | v, w => v == w

/-- Equality of filters. -/
structure Filter.Same (f g : Filter) : Prop where
  field : f.field = g.field
  value : f.value.same g.value = true

/-- Equality of queries. -/
structure Query.Same (q r : Query) : Prop where
  table : q.table = r.table
  fields : q.fields = r.fields
  filters : List.Forall₂ Filter.Same q.filters r.filters
  rawFilter : Option.Rel Document.Same q.rawFilter r.rawFilter
  sort : q.sort = r.sort
  limit : q.limit = r.limit
  offset : q.offset = r.offset
  search : q.search = r.search
  searchFields : q.searchFields = r.searchFields
  pipeline : List.Forall₂ Document.Same q.pipeline r.pipeline

/-- Equality of the options of a read. -/
structure FindOptions.Same (o p : FindOptions) : Prop where
  sort : Option.Rel Document.Same o.sort p.sort
  projection : Option.Rel Document.Same o.projection p.projection
  skip : o.skip = p.skip
  limit : o.limit = p.limit

/-- Equality of the ways to read rows. -/
inductive Strategy.Same : Strategy → Strategy → Prop where
  | find {filter other : Document} {options others : FindOptions} (filters : filter.Same other)
      (parts : options.Same others) : Same (.find filter options) (.find other others)
  | aggregate {stages others : List Document} (each : List.Forall₂ Document.Same stages others) :
      Same (.aggregate stages) (.aggregate others)

/-- Equality of the ways to count. -/
inductive CountPlan.Same : CountPlan → CountPlan → Prop where
  | documents {filter other : Document} (filters : filter.Same other) :
      Same (.documents filter) (.documents other)
  | pipeline {stages others : List Document} (each : List.Forall₂ Document.Same stages others) :
      Same (.pipeline stages) (.pipeline others)

/-- Equality of plans. -/
structure ExecutionPlan.Same (p o : ExecutionPlan) : Prop where
  collection : p.collection = o.collection
  strategy : p.strategy.Same o.strategy
  count : Option.Rel CountPlan.Same p.count o.count

/-! ### Documents that are put together -/

/-- A document with one entry. -/
theorem same_single (key : String) {v w : Value} (same : v.same w = true) :
    Document.Same (.single key v) (.single key w) := by
  simp [Document.Same, Document.single, Value.same, Value.sameEntries, Document.get?, same]

/-- A document with two entries. -/
theorem same_pair {key other : String} (apart : key ≠ other) {v w a b : Value}
    (first : v.same w = true) (second : a.same b = true) :
    Document.Same [(key, v), (other, a)] [(key, w), (other, b)] := by
  simp [Document.Same, Value.same, Value.sameEntries, Document.get?, first, second, apart]

/-- A list of documents. -/
theorem same_ofDocuments {docs others : List Document}
    (each : List.Forall₂ Document.Same docs others) :
    (Value.ofDocuments docs).same (.ofDocuments others) = true := by
  show Value.sameItems (docs.map .document) (others.map .document) = true
  induction each with
  | nil => rfl
  | cons first _ ih => exact Bool.and_eq_true_iff.mpr ⟨first, ih⟩

theorem isEmpty_eq {docs others : List Document}
    (each : List.Forall₂ Document.Same docs others) : docs.isEmpty = others.isEmpty := by
  cases each <;> rfl

/-- A list of texts. -/
theorem same_texts (texts : List String) :
    (Value.array (texts.map .string)).same (.array (texts.map .string)) = true := by
  show Value.sameItems (texts.map .string) (texts.map .string) = true
  induction texts with
  | nil => rfl
  | cons text _ ih => exact Bool.and_eq_true_iff.mpr ⟨beq_self_eq_true text, ih⟩

/-- Documents of numbers without a point, under distinct keys. -/
structure Document.Numbered (d : Document) : Prop where
  keys : (d.map Prod.fst).Nodup
  values : ∀ entry ∈ d, ∃ n, entry.2 = .int32 n

namespace Document.Numbered

theorem empty : Numbered [] := ⟨List.Pairwise.nil, nofun⟩

theorem insert {d : Document} (numbered : d.Numbered) (key : String) (n : Int32) :
    Numbered (d.insert key (.int32 n)) := by
  refine ⟨nodup_keys_insert numbered.keys key _, fun entry member => ?_⟩
  rcases mem_of_mem_insert member with rfl | old
  · exact ⟨n, rfl⟩
  · exact numbered.values entry old

/-- Entries of such a document have their equals in it. -/
theorem sameEntries {d part : Document} (numbered : d.Numbered) (inside : ∀ entry ∈ part, entry ∈ d) :
    Value.sameEntries part d = true := by
  induction part with
  | nil => rfl
  | cons entry rest ih =>
    have member := inside entry List.mem_cons_self
    obtain ⟨n, number⟩ := numbered.values entry member
    obtain ⟨key, v⟩ := entry
    obtain rfl : v = .int32 n := number
    refine Bool.and_eq_true_iff.mpr
      ⟨?_, ih fun other later => inside other (List.mem_cons_of_mem _ later)⟩
    rw [get?_of_mem numbered.keys member]
    exact beq_self_eq_true n

/-- Such a document equals itself. -/
theorem same {d : Document} (numbered : d.Numbered) : d.Same d :=
  Bool.and_eq_true_iff.mpr
    ⟨beq_self_eq_true _, numbered.sameEntries fun _ member => member⟩

end Document.Numbered

theorem numbered_planProjection (fields : List String) : (planProjection fields).Numbered := by
  refine Document.Numbered.insert ?_ idKey 0
  exact List.foldlRecOn _ _ .empty fun _ numbered field _ => numbered.insert field 1

theorem numbered_compileSort {sorts : List SortField} {spec : Document}
    (compiled : compileSort sorts = some spec) : spec.Numbered := by
  unfold compileSort at compiled
  split at compiled
  · cases compiled
  · cases compiled
    refine List.foldlRecOn _ _ .empty fun d numbered sort _ => ?_
    unfold addSortField
    split
    · exact numbered
    · exact numbered.insert sort.field _

theorem same_compileSort (sorts : List SortField) :
    Option.Rel Document.Same (compileSort sorts) (compileSort sorts) := by
  cases compiled : compileSort sorts with
  | none => exact .none
  | some spec => exact .some (numbered_compileSort compiled).same

/-! ### Compiled filters -/

/-- **The conditions** of equal filter values. -/
theorem same_condition {v w : FilterValue} (same : v.same w = true) :
    v.condition.same w.condition = true := by
  unfold FilterValue.same at same
  split at same
  · exact same
  · obtain ⟨low, high⟩ := Bool.and_eq_true_iff.mp same
    exact same_pair (by decide) low high
  · next float range =>
    obtain rfl := eq_of_beq same
    cases v with
    | string s => exact beq_self_eq_true s
    | int n => exact beq_self_eq_true n
    | float x => exact (float x x rfl rfl).elim
    | bool b => exact beq_self_eq_true b
    | intRange min max =>
      exact same_pair (by decide) (beq_self_eq_true (α := Int64) min) (beq_self_eq_true max)
    | floatRange min max => exact (range min max min max rfl rfl).elim
    | stringSet texts => exact same_single "$in" (same_texts texts)
    | null => rfl

/-- Equality of groups. -/
structure FieldGroup.Same (g h : FieldGroup) : Prop where
  field : g.field = h.field
  values : List.Forall₂ (fun v w => FilterValue.same v w = true) g.values h.values

theorem same_addToGroups {f g : Filter} (same : f.Same g) {groups others : List FieldGroup}
    (each : List.Forall₂ FieldGroup.Same groups others) :
    List.Forall₂ FieldGroup.Same (addToGroups f groups) (addToGroups g others) := by
  induction each with
  | nil => exact .cons ⟨same.field, .cons same.value .nil⟩ .nil
  | @cons group other rest later first tail ih =>
    unfold addToGroups
    rw [← first.field, ← same.field]
    split
    · refine .cons ⟨rfl, ?_⟩ tail
      exact List.rel_append first.values (.cons same.value .nil)
    · exact .cons first ih

/-- **The groups** of equal filters. -/
theorem same_groupFilters {filters others : List Filter}
    (each : List.Forall₂ Filter.Same filters others) :
    List.Forall₂ FieldGroup.Same (groupFilters filters) (groupFilters others) :=
  List.rel_foldl (P := List.Forall₂ FieldGroup.Same) (R := Filter.Same)
    (fun _ _ groups _ _ same => same_addToGroups same groups) .nil each

/-- Alternatives of equal clauses. -/
theorem same_orGroup {clauses others : List Document}
    (each : List.Forall₂ Document.Same clauses others) :
    Document.Same (orGroup clauses) (orGroup others) := by
  unfold orGroup
  cases each with
  | nil => exact same_single idKey (same_single "$in" (same_texts []))
  | cons first tail => exact same_single "$or" (same_ofDocuments (.cons first tail))

/-- The clause of a group. -/
def FieldGroup.clause (g : FieldGroup) : Document := orGroup (g.values.map (compileClause g.field))

theorem same_groupClause {g h : FieldGroup} (same : g.Same h) : g.clause.Same h.clause := by
  refine same_orGroup ?_
  rw [same.field]
  exact List.rel_map (fun _ _ value => same_single h.field (same_condition value)) same.values

/-- Something that may be missing as a list. -/
theorem same_toList {doc other : Option Document} (same : Option.Rel Document.Same doc other) :
    List.Forall₂ Document.Same doc.toList other.toList := by
  cases same with
  | none => exact .nil
  | some same => exact .cons same .nil

theorem same_compileSearch (term : String) (fields : List String) :
    Option.Rel Document.Same (compileSearch term fields) (compileSearch term fields) := by
  unfold compileSearch
  split
  · exact .none
  · refine .some (same_single "$or" (same_ofDocuments (List.forall₂_same.mpr fun clause member => ?_)))
    obtain ⟨field, _, rfl⟩ := List.mem_map.mp member
    exact same_single field (same_pair (by decide) (beq_self_eq_true _) (beq_self_eq_true _))

/-- The stages of a page equal themselves: they hold no documents of the query. -/
theorem same_pageStages (q : Query) : List.Forall₂ Document.Same (pageStages q) (pageStages q) := by
  refine List.forall₂_same.mpr fun stage member => ?_
  unfold pageStages at member
  rw [List.mem_append, List.mem_append, List.mem_append] at member
  rcases member with ((sort | skip) | limit) | project
  · obtain ⟨spec, compiled, rfl⟩ := List.mem_map.mp sort
    exact same_single "$sort" (numbered_compileSort (Option.mem_toList.mp compiled)).same
  · rw [List.mem_singleton.mp skip]
    exact same_single "$skip" (beq_self_eq_true _)
  · split at limit
    · cases limit
    · rw [List.mem_singleton.mp limit]
      exact same_single "$limit" (beq_self_eq_true _)
  · rw [List.mem_singleton.mp project]
    exact same_single "$project" (numbered_planProjection q.fields).same

section Queries

variable {q r : Query} (same : q.Same r)

include same

theorem same_compileFilters : List.Forall₂ Document.Same (compileFilters q.filters q.rawFilter)
    (compileFilters r.filters r.rawFilter) :=
  List.rel_append
    (List.rel_map (fun _ _ group => same_groupClause group) (same_groupFilters same.filters))
    (same_toList same.rawFilter)

/-- **The clauses** of equal queries. -/
theorem same_clauses : List.Forall₂ Document.Same q.clauses r.clauses := by
  unfold Query.clauses
  rw [same.search, same.searchFields]
  exact List.rel_append (same_toList (same_compileSearch r.search r.searchFields))
    (same_compileFilters same)

/-- **The filters** of equal queries. -/
theorem same_compileMatch : Document.Same (compileMatch q).filter (compileMatch r).filter := by
  rw [filter_compileMatch, filter_compileMatch]
  have clauses := same_clauses same
  cases left : q.clauses with
  | nil =>
    rw [left, List.forall₂_nil_left_iff] at clauses
    rw [clauses]
    rfl
  | cons clause rest =>
    rw [left] at clauses
    obtain ⟨other, later, first, tail, right⟩ := List.forall₂_cons_left_iff.mp clauses
    rw [right]
    exact same_single "$and" (same_ofDocuments (.cons first tail))

/-- Equal queries count alike. -/
theorem needsExactCount_eq :
    (compileMatch q).needsExactCount = (compileMatch r).needsExactCount := by
  show (!(compileFilters q.filters q.rawFilter).isEmpty ||
      (compileSearch q.search q.searchFields).isSome) =
    (!(compileFilters r.filters r.rawFilter).isEmpty ||
      (compileSearch r.search r.searchFields).isSome)
  rw [isEmpty_eq (same_compileFilters same), same.search, same.searchFields]

/-! ### Plans -/

theorem same_matchStages : List.Forall₂ Document.Same (matchStages q (compileMatch q))
    (matchStages r (compileMatch r)) :=
  List.rel_append same.pipeline (.cons (same_single "$match" (same_compileMatch same)) .nil)

theorem pageStages_eq : pageStages q = pageStages r := by
  unfold pageStages
  rw [same.sort, same.offset, same.limit, same.fields]

/-- Equal queries use the same strategy. -/
theorem usesPipeline_eq : q.usesPipeline = r.usesPipeline :=
  congrArg not (isEmpty_eq same.pipeline)

/-- A count that is planned for both or for neither. -/
theorem same_count {count other : CountPlan} (counts : count.Same other) :
    Option.Rel CountPlan.Same (if (compileMatch q).needsExactCount then some count else none)
      (if (compileMatch r).needsExactCount then some other else none) := by
  rw [needsExactCount_eq same]
  split
  · exact .some counts
  · exact .none

/-- **Equal queries have equal plans.** -/
theorem same_explain : (explain q).Same (explain r) := by
  unfold explain
  rw [usesPipeline_eq same]
  split
  · have stages := same_matchStages same
    refine ⟨same.table, .aggregate (List.rel_append stages ?_), ?_⟩
    · rw [pageStages_eq same]
      exact same_pageStages r
    · refine same_count same (.pipeline (List.rel_append stages (.cons ?_ .nil)))
      exact same_single "$count" (beq_self_eq_true _)
  · have filters := same_compileMatch same
    refine ⟨same.table, .find filters ⟨?_, ?_, same.offset, ?_⟩, same_count same (.documents filters)⟩
    · show Option.Rel Document.Same (compileSort q.sort) (compileSort r.sort)
      rw [same.sort]
      exact same_compileSort r.sort
    · show Option.Rel Document.Same (some (planProjection q.fields)) (some (planProjection r.fields))
      rw [same.fields]
      exact .some (numbered_planProjection r.fields).same
    · show (if q.limit = 0 then none else some q.limit) = if r.limit = 0 then none else some r.limit
      rw [same.limit]

end Queries

end DocTable
