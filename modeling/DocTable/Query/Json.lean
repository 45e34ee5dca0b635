/-
**Queries and plans as JSON.**

* `Query.toJson`, `Query.ofJson?`: a query as an object with one member for each of its parts, all
  of them written, and all but the table left out at will;
* `FilterValue.toJson`, `FilterValue.ofJson?`: the name of the kind beside what it holds;
* `MatchPlan.toJson`, `ExecutionPlan.toJson`: plans, which are only written.
-/

import DocTable.Query.Plan
import DocTable.Value.Json

namespace DocTable

/-- An array of texts. -/
def Json.ofTexts (texts : List String) : Json := .array (texts.map .string)

/-- The JSON form of something that may be missing. -/
def Json.ofOption (f : α → Json) : Option α → Json
  | some a => f a
  | none => .null

/-- An array of documents. -/
def Json.ofDocuments (docs : List Document) : Json := .array (docs.map Document.toJson)

namespace FilterValue

/-- The name of a kind of filter value. -/
def kind : FilterValue → String
  | .string _ => "string"
  | .int _ => "int"
  | .float _ => "float"
  | .bool _ => "bool"
  | .intRange _ _ => "int_range"
  | .floatRange _ _ => "float_range"
  | .stringSet _ => "string_set"
  | .null => "null"

/-- What a filter value holds; null holds nothing. -/
def content? : FilterValue → Option Json
  | .string s => some (.string s)
  | .int n => some (.int n.toInt)
  | .float x => some x.toJson
  | .bool b => some (.bool b)
  | .intRange min max => some (.object [("min", .int min.toInt), ("max", .int max.toInt)])
  | .floatRange min max => some (.object [("min", min.toJson), ("max", max.toJson)])
  | .stringSet texts => some (.ofTexts texts)
  | .null => none

def toJson (v : FilterValue) : Json :=
  .object (("type", .string v.kind) :: v.content?.toList.map (("value", ·)))

/-- The bounds of a range, from an object only. -/
def boundsOfJson? (bound : Json.Reader α) : Json.Reader (α × α) := fun room j =>
  match j with
  | .object _ => do
    let fields ← Json.record ["min", "max"] room j
    return (← fields.required "min" bound, ← fields.required "max" bound)
  | _ => none

/-- The filter value of a kind with what it holds. -/
def ofContent? (kind : String) : Json.Reader FilterValue := fun room j =>
  match kind with
  | "string" => (Json.text room j).map .string
  | "int" => (Json.int64 room j).map .int
  | "float" => (Json.double room j).map .float
  | "bool" => (Json.boolean room j).map .bool
  | "int_range" => (boundsOfJson? Json.int64 room j).map fun bounds => .intRange bounds.1 bounds.2
  | "float_range" =>
    (boundsOfJson? Json.double room j).map fun bounds => .floatRange bounds.1 bounds.2
  | "string_set" => (Json.list Json.text room j).map .stringSet
  | "null" =>
    match j with
    | .null => some .null
    | _ => none
  | _ => none

/-- The filter value of a kind that holds nothing. -/
def ofKind? (kind : String) : Option FilterValue := if kind = "null" then some .null else none

/-- Reads an object with kind and content, or an array of the two. A content in front of its kind
has to be readable as a whole, because the kind could still be any. -/
def ofJson? : Json.Reader FilterValue := fun room j =>
  match j with
  | .array [kind, content] => do
    let room ← Json.enter room
    ofContent? (← Json.choice room kind) room content
  | .object _ => do
    let fields ← Json.record ["type", "value"] room j
    let kind ← fields.required "type" Json.choice
    match fields.get? "value" with
    | none => ofKind? kind
    | some content =>
      let inFront := (fields.members.head?.map (·.1)) == some "value"
      if inFront && !content.isReadable fields.room then none
      else ofContent? kind fields.room content
  | _ => none

end FilterValue

namespace Filter

def toJson (f : Filter) : Json := .object [("field", .string f.field), ("value", f.value.toJson)]

def ofJson? : Json.Reader Filter := fun room j => do
  let fields ← Json.record ["field", "value"] room j
  return ⟨← fields.required "field" Json.text, ← fields.required "value" FilterValue.ofJson?⟩

end Filter

namespace Direction

def name : Direction → String
  | .asc => "asc"
  | .desc => "desc"

/-- The direction of a name. -/
def ofName? : String → Option Direction
  | "asc" => some .asc
  | "desc" => some .desc
  | _ => none

end Direction

namespace SortField

def toJson (s : SortField) : Json :=
  .object [("field", .string s.field), ("direction", .string s.direction.name)]

def ofJson? : Json.Reader SortField := fun room j => do
  let fields ← Json.record ["field", "direction"] room j
  let field ← fields.required "field" Json.text
  let name ← fields.required "direction" Json.choice
  return ⟨field, ← Direction.ofName? name⟩

end SortField

namespace Query

def toJson (q : Query) : Json := .object
  [("table", .string q.table), ("fields", .ofTexts q.fields),
    ("filters", .array (q.filters.map Filter.toJson)),
    ("raw_filter", .ofOption Document.toJson q.rawFilter),
    ("sort", .array (q.sort.map SortField.toJson)),
    ("limit", .nat q.limit.toNat), ("offset", .nat q.offset.toNat),
    ("search", .string q.search), ("search_fields", .ofTexts q.searchFields),
    ("pipeline", .ofDocuments q.pipeline)]

/-- The members of a query's object. -/
def memberNames : List String :=
  ["table", "fields", "filters", "raw_filter", "sort", "limit", "offset", "search",
    "search_fields", "pipeline"]

def ofJson? : Json.Reader Query := fun room j => do
  let parts ← Json.record memberNames room j
  return {
    table := ← parts.required "table" Json.text
    fields := ← parts.withDefault "fields" (Json.list Json.text) []
    filters := ← parts.withDefault "filters" (Json.list Filter.ofJson?) []
    rawFilter := ← parts.withDefault "raw_filter" (Json.optional Document.ofJson?) none
    sort := ← parts.withDefault "sort" (Json.list SortField.ofJson?) []
    limit := ← parts.withDefault "limit" Json.uint64 0
    offset := ← parts.withDefault "offset" Json.uint64 0
    search := ← parts.withDefault "search" Json.text ""
    searchFields := ← parts.withDefault "search_fields" (Json.list Json.text) []
    pipeline := ← parts.withDefault "pipeline" (Json.list Document.ofJson?) [] }

end Query

/-- The query of a JSON text. -/
def Query.ofText? (text : String) : Option Query :=
  (Json.parse? text).bind (Query.ofJson? Json.nestingLimit)

/-- The filter value of a JSON text. -/
def FilterValue.ofText? (text : String) : Option FilterValue :=
  (Json.parse? text).bind (FilterValue.ofJson? Json.nestingLimit)

/-! ### Plans -/

def MatchPlan.toJson (plan : MatchPlan) : Json := .object
  [("filter", plan.filter.toJson), ("filtered", .bool plan.filtered),
    ("searched", .bool plan.searched)]

def FindOptions.toJson (options : FindOptions) : Json := .object
  [("sort", .ofOption Document.toJson options.sort),
    ("projection", .ofOption Document.toJson options.projection),
    ("skip", .nat options.skip.toNat),
    ("limit", .ofOption (fun limit => .nat limit.toNat) options.limit)]

def Strategy.toJson : Strategy → Json
  | .find filter options => .object
    [("strategy", .string "find"), ("filter", filter.toJson), ("options", options.toJson)]
  | .aggregate pipeline => .object
    [("strategy", .string "aggregate"), ("pipeline", .ofDocuments pipeline)]

def CountPlan.toJson : CountPlan → Json
  | .documents filter => .object [("kind", .string "documents"), ("filter", filter.toJson)]
  | .pipeline stages => .object
    [("kind", .string "pipeline"), ("pipeline", .ofDocuments stages)]

def ExecutionPlan.toJson (plan : ExecutionPlan) : Json := .object
  [("collection", .string plan.collection), ("strategy", plan.strategy.toJson),
    ("count", .ofOption CountPlan.toJson plan.count)]

end DocTable
