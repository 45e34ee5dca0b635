/-
**Queries as filter documents.**

A query's filter is a conjunction of alternatives: the search term first, then one group for each
filtered field, whose filters are alternatives, then the raw filter.

* `compileSearch`, `compileFilters`, `compileMatch`: the filter document of a query;
* `compileSort`: its sort document;
* `planProjection`: its projection.
-/

import DocTable.Query.Basic
import DocTable.Regex.Escape

namespace DocTable

/-- A document with one key. -/
def Document.single (key : String) (value : Value) : Document := [(key, value)]

/-- A list of documents as a value. -/
def Value.ofDocuments (docs : List Document) : Value := .array (docs.map .document)

/-- The filters of one field. -/
structure FieldGroup where
  field : String
  values : List FilterValue
deriving Repr

/-- Adds a filter to the group of its field, or as a new group behind the others. -/
def addToGroups (filter : Filter) : List FieldGroup → List FieldGroup
  | [] => [⟨filter.field, [filter.value]⟩]
  | group :: rest =>
    if group.field = filter.field then ⟨group.field, group.values ++ [filter.value]⟩ :: rest
    else group :: addToGroups filter rest

/-- The groups of filters, in the order in which their fields first appear. -/
def groupFilters (filters : List Filter) : List FieldGroup :=
  filters.foldl (fun groups filter => addToGroups filter groups) []

/-- The condition that a filter's value puts on its field. -/
def FilterValue.condition : FilterValue → Value
  | .intRange min max => .document [("$gte", .int64 min), ("$lte", .int64 max)]
  | .floatRange min max => .document [("$gte", .double min), ("$lte", .double max)]
  | .stringSet texts => .document [("$in", .array (texts.map .string))]
  | value => value.toValue

/-- The clause of one filter. -/
def compileClause (field : String) (value : FilterValue) : Document :=
  .single field value.condition

/-- A clause that no document meets. -/
def matchNothing : Document := .single idKey (.document [("$in", .array [])])

/-- Alternatives; none of them at all is met by no document. -/
def orGroup (clauses : List Document) : Document :=
  if clauses.isEmpty then matchNothing else .single "$or" (.ofDocuments clauses)

/-- The clauses of a query's filters, all of which have to hold. -/
def compileFilters (filters : List Filter) (raw : Option Document) : List Document :=
  (groupFilters filters).map (fun group => orGroup (group.values.map (compileClause group.field)))
    ++ raw.toList

/-- The clause by which a field contains a text, whatever the case. -/
def searchClause (pattern field : String) : Document :=
  .single field (.document [("$regex", .string pattern), ("$options", .string "i")])

/-- The clause of a search: some field contains the term. -/
def compileSearch (term : String) (fields : List String) : Option Document :=
  if term = "" ∨ fields = [] then none
  else
    let pattern := String.ofList (Regex.escapeLiteral term.toList)
    some (.single "$or" (.ofDocuments (fields.map (searchClause pattern))))

/-- The filter of a query, and what it came from. -/
structure MatchPlan where
  filter : Document
  filtered : Bool
  searched : Bool
deriving Repr

/-- Whether fewer documents may match than there are. -/
def MatchPlan.needsExactCount (plan : MatchPlan) : Bool := plan.filtered || plan.searched

/-- The filter of a query. -/
def compileMatch (q : Query) : MatchPlan :=
  let search := compileSearch q.search q.searchFields
  let clauses := compileFilters q.filters q.rawFilter
  let terms := search.toList ++ clauses
  { filter := if terms.isEmpty then [] else .single "$and" (.ofDocuments terms)
    filtered := !clauses.isEmpty
    searched := search.isSome }

/-- The number of a direction. -/
def Direction.sign : Direction → Int32
  | .asc => 1
  | .desc => -1

/-- Adds a sort field unless it is there already. -/
def addSortField (spec : Document) (sort : SortField) : Document :=
  if spec.contains sort.field then spec else spec.insert sort.field (.int32 sort.direction.sign)

/-- The sort document of a query; a repeated field keeps its first direction. -/
def compileSort (sorts : List SortField) : Option Document :=
  if sorts.isEmpty then none else some (sorts.foldl addSortField [])

/-- The projection to some fields, always without the identifier. -/
def planProjection (fields : List String) : Document :=
  let others := fields.filter (· ≠ idKey)
  let kept := others.foldl (fun d field => Document.insert d field (.int32 1)) []
  Document.insert kept idKey (.int32 0)

end DocTable
