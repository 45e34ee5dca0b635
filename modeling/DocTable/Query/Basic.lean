/-
**Requests for a page of a table.**

* `FilterValue`: what a field is filtered by;
* `Query`: a whole request;
* `Query.validate`: the checks that come before any read, the first fault in a fixed order.
-/

import DocTable.Text.Quoted
import DocTable.Text.Split
import DocTable.Value.Basic

namespace DocTable

/-- What a field is filtered by. The bounds of a range may be in any order. -/
inductive FilterValue where
  | string (s : String)
  | int (n : Int64)
  | float (x : Double)
  | bool (b : Bool)
  | intRange (min max : Int64)
  | floatRange (min max : Double)
  | stringSet (texts : List String)
  | null
deriving DecidableEq, Repr, Inhabited

namespace FilterValue

/-- The value as one value of a document; a range is the pair of its bounds. -/
def toValue : FilterValue → Value
  | .string s => .string s
  | .int n => .int64 n
  | .float x => .double x
  | .bool b => .bool b
  | .intRange min max => .array [.int64 min, .int64 max]
  | .floatRange min max => .array [.double min, .double max]
  | .stringSet texts => .array (texts.map .string)
  | .null => .null

def isRange : FilterValue → Bool
  | .intRange _ _ => true
  | .floatRange _ _ => true
  | _ => false

end FilterValue

/-- A filter on one field. -/
structure Filter where
  field : String
  value : FilterValue
deriving DecidableEq, Repr, Inhabited

/-- The direction of a sort. -/
inductive Direction where
  | asc
  | desc
deriving DecidableEq, Repr, Inhabited

/-- A field to sort by. -/
structure SortField where
  field : String
  direction : Direction
deriving DecidableEq, Repr, Inhabited

/-- A request for a page of a table. -/
structure Query where
  table : String
  fields : List String
  filters : List Filter
  rawFilter : Option Document
  /-- The first field decides, the others break ties. -/
  sort : List SortField
  /-- Zero is no limit. -/
  limit : UInt64
  offset : UInt64
  search : String
  searchFields : List String
  /-- Stages that run in front of everything else. -/
  pipeline : List Document
deriving Repr, Inhabited

/-- What is wrong with a query. -/
inductive QueryError where
  | missingTable
  | invalidField (field : String)
  | invalidSort (field : String)
  | invalidWindow (offset limit : UInt64)
deriving DecidableEq, Repr

/-- The wording of an error. -/
def QueryError.message : QueryError → String
  | .missingTable => "query has no table"
  | .invalidField field => "invalid field path: " ++ Text.quoted field
  | .invalidSort field => "invalid sort field: " ++ Text.quoted field
  | .invalidWindow offset limit =>
    "invalid page window: offset " ++ toString offset.toNat ++ ", limit " ++ toString limit.toNat

/-- Whether a path has a segment and no empty one. -/
def isValidPath (path : String) : Bool := (Text.pieces '.' path).all (· ≠ "")

namespace Query

def usesPipeline (q : Query) : Bool := !q.pipeline.isEmpty

/-- The largest offset and limit. -/
def largestWindow : UInt64 := 9223372036854775807

/-- The first fault of a query. -/
def validate (q : Query) : Except QueryError Unit :=
  if q.table = "" then .error .missingTable
  else match q.fields.find? (!isValidPath ·) with
  | some field => .error (.invalidField field)
  | none =>
    match q.sort.find? (!isValidPath ·.field) with
    | some sort => .error (.invalidSort sort.field)
    | none =>
      match q.filters.find? (!isValidPath ·.field) with
      | some filter => .error (.invalidField filter.field)
      | none =>
        if largestWindow < q.offset ∨ largestWindow < q.limit then
          .error (.invalidWindow q.offset q.limit)
        else .ok ()

end Query

end DocTable
