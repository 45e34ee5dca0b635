/-
**Tables that answer requests.**

* `Table.ofConfig`: the table of a checked definition;
* `Table.fetch`: the displayed page of a query;
* `Table.answer`: the displayed page of a request's parameters;
* `Table.handle`: the response to a request.
-/

import DocTable.Table.Page
import DocTable.Table.Render
import DocTable.Table.Request
import DocTable.Web.Message

namespace DocTable

variable [Regex.Compiler]

/-- A page as a grid displays it. -/
structure GridPage where
  data : List (List String)
  recordsTotal : Nat
  recordsFiltered : Nat
deriving DecidableEq, Repr

namespace GridPage

/-- The displayed page of the rows and counts that were read. -/
def ofPage (renderer : Renderer) (fields : List String) (search : String) (page : Page) :
    GridPage :=
  { data := page.rows.map fun d => renderer.render (rowCells d fields) search
    recordsTotal := page.total
    recordsFiltered := page.filtered }

def toJson (g : GridPage) : Json := .object
  [("data", .array (g.data.map Json.ofTexts)), ("recordsTotal", .nat g.recordsTotal),
    ("recordsFiltered", .nat g.recordsFiltered)]

end GridPage

/-- A table that answers requests. -/
structure Table where
  config : TableConfig
  renderer : Renderer
deriving Repr

namespace Table

/-- The table of a definition, its rows displayed by the definition's templates. -/
def ofConfig (c : TableConfig) : Except ConfigFault Table := do
  c.validate
  return ⟨c, .template (← RowTemplate.ofConfig c)⟩

/-- Reads and displays the page of a query. -/
def fetch (t : Table) (s : Source) (cancelled : Bool) (q : Query) :
    List Call × Outcome GridPage :=
  let (calls, outcome) := s.execute t.config.timeoutMillis cancelled q
  (calls, outcome.map (GridPage.ofPage t.renderer q.fields q.search))

/-- Reads and displays the page that parameters ask for. -/
def answer (t : Table) (s : Source) (cancelled : Bool) (p : Web.Params) :
    List Call × Outcome GridPage :=
  match decodeRequest p t.config with
  | .error fault => ([], .failed (.invalidInput fault))
  | .ok q => t.fetch s cancelled q

/-- What a client may know of the definition. -/
def configView (t : Table) : Json := .object
  [("columns", .ofTexts t.config.fields), ("max_rows", .nat t.config.maxRows.toNat),
    ("searchable", .bool !t.config.searchFields.isEmpty)]

/-- The response that an outcome gives; a request that waits has none. -/
def response? : Outcome GridPage → Option Web.Response
  | .done g => some (.json 200 g.toJson)
  | .failed error => some (.error error.status error.message)
  | .waiting => none

/-- The response with the page that a form asks for. -/
def respond (t : Table) (s : Source) (cancelled : Bool) (form : List UInt8) :
    List Call × Option Web.Response :=
  let (calls, outcome) := t.answer s cancelled (.ofForm form)
  (calls, response? outcome)

/-- A path without the slashes at its end. -/
def trimmedPath (path : String) : List Char :=
  (path.toList.reverse.dropWhile (· = '/')).reverse

/-- The response to a request. The parameters of a page are the query of a `GET` request or the body
of a `POST` request. -/
def handle (t : Table) (s : Source) (cancelled : Bool) (r : Web.Request) :
    List Call × Option Web.Response :=
  let path := trimmedPath r.target.path
  if r.method = "GET" ∧ path = "/config".toList then ([], some (.json 200 t.configView))
  else if r.method = "GET" ∧ path = "/data".toList then
    t.respond s cancelled (Text.Utf8.encode (r.target.query.getD ""))
  else if r.method = "POST" ∧ path = "/data".toList then t.respond s cancelled r.body
  else ([], some (.error 404 "not found"))

end Table

end DocTable
