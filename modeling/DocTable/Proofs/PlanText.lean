/-
**The texts of plans.**

The text of a plan shows the documents of its query in the order of their keys, and the bounds of its
filters with their signs. Equality of queries looks through both. So equal queries have equal plans, and
the plans have the same text exactly if the queries are the same.

* `Query.Distinct`: queries in whose documents no key is repeated;
* `written_plan`: the trees of plans;
* `eq_of_clauses`: filters and raw filters by the trees of their clauses;
* `eq_of_explain`: queries by the trees of their plans;
* `explain_text`: all of it together.
-/

import DocTable.Proofs.EqualQueries
import DocTable.Proofs.Groups
import DocTable.Proofs.ValueText
import DocTable.Query.Json

namespace DocTable

open Json

/-! ### The trees of plans -/

theorem written_documents (docs : List Document) : Written (.ofDocuments docs) := by
  refine .array _ fun item member => ?_
  obtain ⟨d, _, rfl⟩ := List.mem_map.mp member
  exact (Value.document d).written_toJson

theorem written_ofOption {α : Type} {f : α → Json} (each : ∀ a, Written (f a)) (value : Option α) :
    Written (.ofOption f value) := by
  cases value with
  | none => exact .null
  | some a => exact each a

theorem written_document (d : Document) : Written d.toJson := (Value.document d).written_toJson

theorem written_options (options : FindOptions) : Written options.toJson := by
  refine .object _ ?_
  simp only [List.forall_mem_cons]
  exact ⟨written_ofOption written_document _, written_ofOption written_document _, written_nat _,
    written_ofOption (fun limit : UInt64 => written_nat limit.toNat) _, nofun⟩

theorem written_strategy (strategy : Strategy) : Written strategy.toJson := by
  cases strategy with
  | find filter options =>
    refine .object _ ?_
    simp only [List.forall_mem_cons]
    exact ⟨.string _, written_document filter, written_options options, nofun⟩
  | aggregate stages => exact written_pair (.string _) (written_documents stages)

theorem written_count (count : CountPlan) : Written count.toJson := by
  cases count with
  | documents filter => exact written_pair (.string _) (written_document filter)
  | pipeline stages => exact written_pair (.string _) (written_documents stages)

/-- **The tree of a plan** is one that texts are made of. -/
theorem written_plan (plan : ExecutionPlan) : Written plan.toJson := by
  refine .object _ ?_
  simp only [List.forall_mem_cons]
  exact ⟨.string _, written_strategy plan.strategy, written_ofOption written_count plan.count, nofun⟩

/-! ### Documents by their trees -/

/-- Documents in which, however deep, no key is repeated. -/
def Document.Distinct (d : Document) : Prop := (Value.document d).Distinct

theorem toJson_ofDocuments (docs : List Document) :
    (Value.ofDocuments docs).toJson = .array (docs.map Document.toJson) := by
  refine congrArg Json.array ?_
  induction docs with
  | nil => rfl
  | cons d rest ih => exact congrArg (d.toJson :: ·) ih

/-- Equal documents with the same trees are the same. -/
theorem eq_of_document_trees {docs others : List Document}
    (same : List.Forall₂ Document.Same docs others) (first : ∀ d ∈ docs, d.Distinct)
    (second : ∀ d ∈ others, d.Distinct) (trees : docs.map Document.toJson = others.map Document.toJson) :
    docs = others := by
  induction same with
  | nil => rfl
  | @cons d e rest later alike tail ih =>
    obtain ⟨tree, more⟩ := List.cons.inj trees
    obtain ⟨distinct, others⟩ := List.forall_mem_cons.mp first
    obtain ⟨apart, further⟩ := List.forall_mem_cons.mp second
    rw [Value.document.inj (Value.eq_of_same distinct apart alike tree), ih others further more]

/-- Queries in whose documents no key is repeated. -/
structure Query.Distinct (q : Query) : Prop where
  rawFilter : ∀ d ∈ q.rawFilter.toList, d.Distinct
  pipeline : ∀ stage ∈ q.pipeline, stage.Distinct

/-! ### Filters by their trees -/

/-- Equal filter values whose conditions have the same tree are the same. -/
theorem eq_of_condition {v w : FilterValue} (same : v.same w = true)
    (tree : v.condition.toJson = w.condition.toJson) : v = w := by
  unfold FilterValue.same at same
  split at same
  · rw [Double.eq_of_equal same tree]
  · obtain ⟨low, high⟩ := Bool.and_eq_true_iff.mp same
    obtain ⟨first, rest⟩ := List.cons.inj (Json.object.inj tree)
    obtain ⟨second, _⟩ := List.cons.inj rest
    rw [Double.eq_of_equal low (Prod.mk.inj first).2, Double.eq_of_equal high (Prod.mk.inj second).2]
  · exact eq_of_beq same

/-- The tree of a document with one entry tells the tree of the entry. -/
theorem toJson_single_inj {key : String} {v w : Value}
    (tree : Document.toJson (.single key v) = Document.toJson (.single key w)) :
    v.toJson = w.toJson :=
  (Prod.mk.inj (List.cons.inj (Json.object.inj tree)).1).2

/-- The tree of documents below one key tells their trees. -/
theorem toJson_below_inj {key : String} {docs others : List Document}
    (tree : Document.toJson (.single key (.ofDocuments docs)) =
      Document.toJson (.single key (.ofDocuments others))) :
    docs.map Document.toJson = others.map Document.toJson := by
  have arrays := toJson_single_inj tree
  rw [toJson_ofDocuments, toJson_ofDocuments] at arrays
  exact Json.array.inj arrays

/-- Equal filter values on one field whose clauses have the same trees are the same. -/
theorem eq_of_values {field : String} {values others : List FilterValue}
    (same : List.Forall₂ (fun v w => FilterValue.same v w = true) values others)
    (trees : (values.map (compileClause field)).map Document.toJson =
      (others.map (compileClause field)).map Document.toJson) : values = others := by
  induction same with
  | nil => rfl
  | cons alike _ ih =>
    obtain ⟨tree, more⟩ := List.cons.inj trees
    rw [eq_of_condition alike (toJson_single_inj tree), ih more]

/-- Equal groups whose clauses have the same tree are the same. -/
theorem eq_of_group {g h : FieldGroup} (same : g.Same h)
    (tree : g.clause.toJson = h.clause.toJson) : g = h := by
  obtain ⟨field, values⟩ := g
  obtain ⟨name, others⟩ := h
  obtain rfl : field = name := same.field
  refine congrArg (FieldGroup.mk field) ?_
  obtain ⟨_, each⟩ := same
  cases each with
  | nil => rfl
  | cons alike tail => exact eq_of_values (.cons alike tail) (toJson_below_inj tree)

theorem eq_of_group_clauses {groups others : List FieldGroup}
    (same : List.Forall₂ FieldGroup.Same groups others)
    (trees : (groups.map FieldGroup.clause).map Document.toJson =
      (others.map FieldGroup.clause).map Document.toJson) : groups = others := by
  induction same with
  | nil => rfl
  | cons alike _ ih =>
    obtain ⟨tree, more⟩ := List.cons.inj trees
    rw [eq_of_group alike tree, ih more]

/-- Filters in the same groups put the same values on every field. -/
theorem valuesOn_of_groups {filters others : List Filter}
    (groups : groupFilters filters = groupFilters others) (field : String) :
    valuesOn field filters = valuesOn field others := by
  have fields := mem_fields_groupFilters filters field
  by_cases filtered : field ∈ filters.map (·.field)
  · obtain ⟨group, member, rfl⟩ := List.mem_map.mp (fields.mpr filtered)
    rw [← mem_groupFilters member, ← mem_groupFilters (groups ▸ member)]
  · have absent := mt fields.mp filtered
    rw [groups, mem_fields_groupFilters] at absent
    rw [valuesOn_eq_nil filtered, valuesOn_eq_nil absent]

/-- **The filters** of equal queries are the same if their groups are. -/
theorem eq_of_groups {filters others : List Filter} (same : List.Forall₂ Filter.Same filters others)
    (groups : groupFilters filters = groupFilters others) : filters = others := by
  have values := valuesOn_of_groups groups
  clear groups
  induction same with
  | nil => rfl
  | @cons f g rest later alike tail ih =>
    have heads : f = g := by
      have first := values f.field
      obtain ⟨field, value⟩ := f
      obtain ⟨name, other⟩ := g
      obtain rfl : field = name := alike.field
      simp only [valuesOn, decide_true, List.filter_cons_of_pos, List.map_cons] at first
      exact congrArg (Filter.mk field) (List.cons.inj first).1
    subst heads
    refine congrArg (f :: ·) (ih fun field => ?_)
    have split (filters : List Filter) :
        valuesOn field (f :: filters) = valuesOn field [f] ++ valuesOn field filters :=
      valuesOn_append field [f] filters
    have both := values field
    rw [split rest, split later] at both
    exact List.append_cancel_left both

/-- A query that does not use a pipeline has none. -/
theorem pipeline_eq_nil {q : Query} (direct : ¬q.usesPipeline = true) : q.pipeline = [] := by
  unfold Query.usesPipeline at direct
  simpa using direct

section Queries

variable {q r : Query} (same : q.Same r)

include same

/-- The tree of a filter tells the trees of its clauses. -/
theorem clauses_of_filter
    (tree : (compileMatch q).filter.toJson = (compileMatch r).filter.toJson) :
    q.clauses.map Document.toJson = r.clauses.map Document.toJson := by
  rw [filter_compileMatch, filter_compileMatch] at tree
  have clauses := same_clauses same
  cases left : q.clauses with
  | nil =>
    rw [left, List.forall₂_nil_left_iff] at clauses
    rw [clauses]
  | cons clause rest =>
    rw [left] at clauses tree
    obtain ⟨other, later, _, _, right⟩ := List.forall₂_cons_left_iff.mp clauses
    rw [right] at tree ⊢
    exact toJson_below_inj tree

/-- **Filters** and raw filters are told by the trees of the clauses. -/
theorem eq_of_clauses (trees : q.clauses.map Document.toJson = r.clauses.map Document.toJson) :
    q.filters = r.filters ∧
      q.rawFilter.toList.map Document.toJson = r.rawFilter.toList.map Document.toJson := by
  have groups := same_groupFilters same.filters
  have clauses (q : Query) : q.clauses = (compileSearch q.search q.searchFields).toList ++
      ((groupFilters q.filters).map FieldGroup.clause ++ q.rawFilter.toList) := rfl
  rw [clauses, clauses, same.search, same.searchFields] at trees
  simp only [List.map_append] at trees
  have grouped := List.append_cancel_left trees
  have lengths : (((groupFilters q.filters).map FieldGroup.clause).map Document.toJson).length =
      (((groupFilters r.filters).map FieldGroup.clause).map Document.toJson).length := by
    simp only [List.length_map]
    exact groups.length_eq
  obtain ⟨first, second⟩ := List.append_inj grouped lengths
  exact ⟨eq_of_groups same.filters (eq_of_group_clauses groups first), second⟩

/-- The tree of a plan tells the trees of its filter and of its pipeline. -/
theorem parts_of_plan (tree : (explain q).toJson = (explain r).toJson) :
    (compileMatch q).filter.toJson = (compileMatch r).filter.toJson ∧
      q.pipeline.map Document.toJson = r.pipeline.map Document.toJson := by
  have piped := usesPipeline_eq same
  obtain ⟨_, rest⟩ := List.cons.inj (Json.object.inj tree)
  have strategies := (Prod.mk.inj (List.cons.inj rest).1).2
  unfold explain at strategies
  rw [piped] at strategies
  split at strategies
  · obtain ⟨_, parts⟩ := List.cons.inj (Json.object.inj strategies)
    have stages : (matchStages q (compileMatch q) ++ pageStages q).map Document.toJson =
        (matchStages r (compileMatch r) ++ pageStages r).map Document.toJson :=
      Json.array.inj (Prod.mk.inj (List.cons.inj parts).1).2
    rw [pageStages_eq same, List.map_append, List.map_append] at stages
    have matching := List.append_cancel_right stages
    unfold matchStages at matching
    rw [List.map_append, List.map_append] at matching
    obtain ⟨pipelines, last⟩ := List.append_inj' matching rfl
    exact ⟨toJson_single_inj (List.cons.inj last).1, pipelines⟩
  · next direct =>
    obtain ⟨_, parts⟩ := List.cons.inj (Json.object.inj strategies)
    rw [pipeline_eq_nil direct, pipeline_eq_nil (piped ▸ direct)]
    exact ⟨(Prod.mk.inj (List.cons.inj parts).1).2, rfl⟩

/-- **Equal queries** whose plans have the same tree are the same. -/
theorem eq_of_explain (distinct : q.Distinct) (other : r.Distinct)
    (tree : (explain q).toJson = (explain r).toJson) : q = r := by
  obtain ⟨filter, pipelines⟩ := parts_of_plan same tree
  obtain ⟨filters, rawFilters⟩ := eq_of_clauses same (clauses_of_filter same filter)
  have raw : q.rawFilter = r.rawFilter := by
    have lists := eq_of_document_trees (same_toList same.rawFilter) distinct.rawFilter
      other.rawFilter rawFilters
    simpa using congrArg List.head? lists
  have pipeline := eq_of_document_trees same.pipeline distinct.pipeline other.pipeline pipelines
  cases q
  cases r
  rw [Query.mk.injEq]
  exact ⟨same.table, same.fields, filters, raw, same.sort, same.limit, same.offset,
    same.search, same.searchFields, pipeline⟩

end Queries

/-! ### Texts -/

/-- **The texts of plans.** Equal queries have equal plans. The plans have the same text exactly if the
queries are the same: if the keys of their documents stand in the same order, too, and the zeros in their
filters and documents have the same signs. -/
theorem explain_text {q r : Query} (same : q.Same r) (distinct : q.Distinct) (other : r.Distinct) :
    (explain q).Same (explain r) ∧
      ((explain q).toJson.print = (explain r).toJson.print ↔ q = r) := by
  refine ⟨same_explain same, fun text => ?_, fun equal => equal ▸ rfl⟩
  exact eq_of_explain same distinct other ((written_plan _).eq_of_print (written_plan _) text)

/-- A query for the documents with both of two texts, whose raw filter has them in a given order. -/
def bothTexts (first second : String × String) : Query :=
  { (default : Query) with
    table := "orders"
    fields := ["number"]
    rawFilter := some [(first.1, .string first.2), (second.1, .string second.2)] }

theorem distinct_bothTexts {first second : String × String} (apart : first.1 ≠ second.1) :
    (bothTexts first second).Distinct where
  rawFilter := by
    refine List.forall_mem_singleton.mpr (.document _ ?_ ?_)
    · exact List.nodup_cons.mpr ⟨by simpa using apart, List.pairwise_singleton _ _⟩
    · exact List.forall_mem_cons.mpr ⟨.scalar _ rfl, List.forall_mem_singleton.mpr (.scalar _ rfl)⟩
  pipeline := nofun

/-- The order of the two makes no difference to equality. -/
theorem same_bothTexts {first second : String × String} (apart : first.1 ≠ second.1) :
    (bothTexts first second).Same (bothTexts second first) where
  table := rfl
  fields := rfl
  filters := .nil
  rawFilter := .some (by
    simp [Document.Same, Value.same, Value.sameEntries, Document.get?, apart.symm])
  sort := rfl
  limit := rfl
  offset := rfl
  search := rfl
  searchFields := rfl
  pipeline := .nil

/-- Two queries that differ in the order of the keys of their raw filters. -/
theorem explain_text_orders :
    let q := bothTexts ("status", "open") ("country", "NL")
    let r := bothTexts ("country", "NL") ("status", "open")
    (q.Same r ∧ q.Distinct ∧ r.Distinct) ∧ (explain q).Same (explain r) ∧
      ((explain q).toJson.print = (explain r).toJson.print ↔ q = r) := by
  intro q r
  have same : q.Same r := same_bothTexts (by decide)
  have distinct : q.Distinct := distinct_bothTexts (by decide)
  have other : r.Distinct := distinct_bothTexts (by decide)
  exact ⟨⟨same, distinct, other⟩, explain_text same distinct other⟩

/-- Their plans have different texts. -/
theorem texts_of_equal_queries_differ :
    let q := bothTexts ("status", "open") ("country", "NL")
    let r := bothTexts ("country", "NL") ("status", "open")
    q.Same r ∧ (explain q).toJson.print ≠ (explain r).toJson.print := by
  intro q r
  have same : q.Same r := same_bothTexts (by decide)
  refine ⟨same, fun text => ?_⟩
  have equal : q = r := eq_of_explain same (distinct_bothTexts (by decide))
    (distinct_bothTexts (by decide)) ((written_plan _).eq_of_print (written_plan _) text)
  have keys : ("status", Value.string "open") = ("country", Value.string "NL") :=
    (List.cons.inj (Option.some.inj (congrArg Query.rawFilter equal))).1
  exact absurd (Prod.mk.inj keys).1 (by decide)

end DocTable
