/-
**Definitions of tables.**

The names of its columns are the only paths that a client of a table can reach.

* `TableConfig.validate`: the checks of a definition, the first fault in a fixed order;
* `TableConfig.toJson`, `TableConfig.ofJson?`: definitions as JSON.
-/

import DocTable.Query.Json
import DocTable.Table.Format
import DocTable.Table.Template

namespace DocTable

/-- A column of a table: the path it shows, and how. -/
structure Column where
  name : String
  format : Option Format
deriving DecidableEq, Repr

/-- The definition of a table. -/
structure TableConfig where
  collection : String
  /-- The largest page that a client may ask for; zero is no bound. -/
  maxRows : UInt64
  columns : List Column
  searchFields : List String
  /-- The sources of the cells' templates; without any there is one cell for each column. -/
  row : List String
  highlightSearch : Bool
  /-- Filters of every request. -/
  filters : List Filter
  rawFilter : Option Document
  /-- Stages in front of every request. -/
  pipeline : List Document
  timeoutMillis : Option UInt64
deriving Repr

/-- What is wrong with a definition. -/
inductive ConfigFault where
  /-- The text is no JSON of a definition. -/
  | unreadable
  | noCollection
  | noColumn
  | invalidColumn (name : String)
  | duplicateColumn (name : String)
  | invalidDateFormat (layout : String)
  | unknownSearchField (field : String)
  | unknownFilterField (field : String)
  | template (fault : TemplateFault)
  | unknownTemplateKey (key : String)
deriving DecidableEq, Repr

/-- The wording of a fault. -/
def ConfigFault.message : ConfigFault → String
  | .unreadable => "not the JSON of a table"
  | .noCollection => "collection must not be empty"
  | .noColumn => "at least one column is required"
  | .invalidColumn name => "invalid column name: " ++ Text.quoted name
  | .duplicateColumn name => "duplicate column: " ++ name
  | .invalidDateFormat layout => "invalid date format: " ++ layout
  | .unknownSearchField field => "search field is not a column: " ++ field
  | .unknownFilterField field => "filter field is not a column: " ++ field
  | .template fault => fault.message
  | .unknownTemplateKey key => "template references unknown column: " ++ key

/-- The fault of a format, if it has one. -/
def Format.check : Format → Except ConfigFault Unit
  | .date layout =>
    if (Format.date layout).isValid then .ok () else .error (.invalidDateFormat layout)
  | .duration => .ok ()

/-- The key under which templates find the value of a column. -/
def contextKey (name : String) : String :=
  String.ofList (name.toList.map fun c => if c = '.' then '_' else c)

namespace TableConfig

/-- The paths of the columns in their order. -/
def fields (c : TableConfig) : List String := c.columns.map (·.name)

def hasColumn (c : TableConfig) (field : String) : Bool := c.columns.any (·.name == field)

/-- Checks columns from left to right: name, uniqueness, format. -/
def checkColumns (seen : List String) : List Column → Except ConfigFault Unit
  | [] => .ok ()
  | column :: rest => do
    if !isValidPath column.name then throw (.invalidColumn column.name)
    if seen.contains column.name then throw (.duplicateColumn column.name)
    (column.format.map Format.check).getD (.ok ())
    checkColumns (column.name :: seen) rest

/-- Fails if some item is found. -/
def checkNone (found : Option α) (fault : α → ConfigFault) : Except ConfigFault Unit :=
  match found with
  | some a => .error (fault a)
  | none => .ok ()

/-- The template of a source, or what is wrong with it. -/
def templateOf (source : String) : Except ConfigFault Template :=
  match Template.ofSource source with
  | .ok t => .ok t
  | .error fault => .error (.template fault)

/-- The templates of a definition. Every source is read before any key is looked up. -/
def templates (c : TableConfig) : Except ConfigFault (List Template) := do
  let templates ← c.row.mapM templateOf
  let known := c.columns.map fun column => contextKey column.name
  checkNone ((templates.flatMap Template.keys).find? (!known.contains ·)) .unknownTemplateKey
  return templates

/-- The first fault of a definition. -/
def validate (c : TableConfig) : Except ConfigFault Unit := do
  if c.collection = "" then throw .noCollection
  if c.columns.isEmpty then throw .noColumn
  checkColumns [] c.columns
  checkNone (c.searchFields.find? (!c.hasColumn ·)) .unknownSearchField
  checkNone (c.filters.find? (!c.hasColumn ·.field)) fun filter => .unknownFilterField filter.field
  discard c.templates

end TableConfig

/-! ### JSON -/

namespace Column

def toJson (c : Column) : Json :=
  .object (("name", .string c.name) :: c.format.toList.map fun f => ("format", f.toJson))

def ofJson? : Json.Reader Column := fun room j => do
  let parts ← Json.record ["name", "format"] room j
  return ⟨← parts.required "name" Json.text,
    ← parts.withDefault "format" (Json.optional Format.ofJson?) none⟩

end Column

namespace TableConfig

def toJson (c : TableConfig) : Json := .object
  [("collection", .string c.collection), ("max_rows", .nat c.maxRows.toNat),
    ("columns", .array (c.columns.map Column.toJson)),
    ("search_fields", .ofTexts c.searchFields), ("row", .ofTexts c.row),
    ("highlight_search", .bool c.highlightSearch),
    ("filters", .array (c.filters.map Filter.toJson)),
    ("raw_filter", .ofOption Document.toJson c.rawFilter),
    ("pipeline", .ofDocuments c.pipeline),
    ("timeout_ms", .ofOption (fun n => .nat n.toNat) c.timeoutMillis)]

/-- The members of a definition's object. -/
def memberNames : List String :=
  ["collection", "max_rows", "columns", "search_fields", "row", "highlight_search", "filters",
    "raw_filter", "pipeline", "timeout_ms"]

def ofJson? : Json.Reader TableConfig := fun room j => do
  let parts ← Json.record memberNames room j
  return {
    collection := ← parts.required "collection" Json.text
    maxRows := ← parts.withDefault "max_rows" Json.uint64 0
    columns := ← parts.required "columns" (Json.list Column.ofJson?)
    searchFields := ← parts.withDefault "search_fields" (Json.list Json.text) []
    row := ← parts.withDefault "row" (Json.list Json.text) []
    highlightSearch := ← parts.withDefault "highlight_search" Json.boolean false
    filters := ← parts.withDefault "filters" (Json.list Filter.ofJson?) []
    rawFilter := ← parts.withDefault "raw_filter" (Json.optional Document.ofJson?) none
    pipeline := ← parts.withDefault "pipeline" (Json.list Document.ofJson?) []
    timeoutMillis := ← parts.withDefault "timeout_ms" (Json.optional Json.uint64) none }

/-- The definition of a JSON text, without the checks. -/
def ofText? (text : String) : Option TableConfig :=
  (Json.parse? text).bind (ofJson? Json.nestingLimit)

/-- The definition of a JSON text if all is in order with it. -/
def ofText (text : String) : Except ConfigFault TableConfig :=
  match ofText? text with
  | none => .error .unreadable
  | some c => do
    c.validate
    return c

end TableConfig

end DocTable
