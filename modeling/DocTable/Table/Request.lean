/-
**Requests of a grid as queries.**

A grid names columns by their places in the definition of the table, so every path of a query comes
from the definition and never from the request.

* `decodeLength`: the size of a page, within the bound of the table;
* `checkColumns`: a column that a request names has its name in the definition;
* `decodeOrder`: the fields to sort by;
* `decodeRequest`: the query of a request.
-/

import DocTable.Number.Decimal
import DocTable.Table.Fault
import DocTable.Text.Blank
import DocTable.Web.Form

namespace DocTable

open Web (Params)

/-- The parameter of one thing in a numbered list. -/
def numberedKey (list : String) (index : Nat) (part : String) : String :=
  list ++ "[" ++ toString index ++ "][" ++ part ++ "]"

/-- A number that is not negative, with blanks around it. -/
def decodeNumber (name raw : String) : Except InputFault UInt64 :=
  match readUInt64? (Text.trim raw).toList with
  | some n => .ok n
  | none => .error (.notANumber name raw)

/-- The number of rows in front of the page. -/
def decodeStart (start : Option String) : Except InputFault UInt64 :=
  match start with
  | none => .ok 0
  | some raw => if raw = "" then .ok 0 else decodeNumber "start" raw

/-- The length that a request asks for; zero and minus one ask for all there is. -/
def requestedLength (length : Option String) : Except InputFault UInt64 :=
  match length with
  | none => .ok 0
  | some raw => if raw = "" ∨ raw = "-1" then .ok 0 else decodeNumber "length" raw

/-- The number of rows on the page. A bound, if there is one, stands in for a request for all. -/
def decodeLength (length : Option String) (bound : UInt64) : Except InputFault UInt64 := do
  let requested ← requestedLength length
  if bound = 0 then return requested
  else if requested = 0 then return bound
  else if bound < requested then throw (.tooLong requested.toNat bound.toNat)
  else return requested

/-- Whether a column of the definition has the name that a request gives to its place. An empty
name is none. -/
def checkColumn (c : TableConfig) (index : Nat) (name : Option String) : Except InputFault Unit :=
  match name with
  | none => .ok ()
  | some name =>
    if name = "" ∨ (c.columns[index]?.map (·.name)) = some name then .ok ()
    else .error (.wrongColumn index name)

/-- Checks the columns from an index on, up to the first one without data. The counter bounds the
number of columns. -/
def checkColumnsFrom (p : Params) (c : TableConfig) : Nat → Nat → Except InputFault Unit
  | 0, _ => .ok ()
  | fuel + 1, index =>
    if (p.get? (numberedKey "columns" index "data")).isSome then do
      checkColumn c index (p.get? (numberedKey "columns" index "name"))
      checkColumnsFrom p c fuel (index + 1)
    else .ok ()

/-- Checks the columns of a request. Each has a parameter of its own, so their number is at most
that of the parameters. -/
def checkColumns (p : Params) (c : TableConfig) : Except InputFault Unit :=
  checkColumnsFrom p c (p.entries.length + 1) 0

/-- The direction of an order entry; ascending is the default. -/
def decodeDirection (dir : Option String) : Except InputFault Direction :=
  match dir with
  | none => .ok .asc
  | some raw =>
    if raw = "" ∨ raw = "asc" then .ok .asc
    else if raw = "desc" then .ok .desc
    else .error (.invalidDirection raw)

/-- The column that an order entry names by its place. -/
def decodeOrderColumn (c : TableConfig) (raw : String) : Except InputFault (Nat × Column) := do
  let index ← decodeNumber "order column" raw
  match c.columns[index.toNat]? with
  | some column => return (index.toNat, column)
  | none => throw (.noSuchColumn index.toNat)

/-- Whether a request takes a column out of sorting. -/
def isUnorderable (p : Params) (column : Nat) : Bool :=
  p.get? (numberedKey "columns" column "orderable") == some "false"

/-- Adds a field to sort by unless it is there already. -/
def addSort (sorts : List SortField) (sort : SortField) : List SortField :=
  if sorts.any (·.field == sort.field) then sorts else sorts ++ [sort]

/-- Adds what one order entry asks for. -/
def addOrderEntry (p : Params) (c : TableConfig) (sorts : List SortField) (entry : Nat)
    (raw : String) : Except InputFault (List SortField) := do
  let (index, column) ← decodeOrderColumn c raw
  if isUnorderable p index then return sorts
  else
    let direction ← decodeDirection (p.get? (numberedKey "order" entry "dir"))
    return addSort sorts ⟨column.name, direction⟩

/-- Reads the order entries from an index on, up to the first one without a column. The counter
bounds the number of entries. -/
def decodeOrderFrom (p : Params) (c : TableConfig) :
    Nat → Nat → List SortField → Except InputFault (List SortField)
  | 0, _, sorts => .ok sorts
  | fuel + 1, entry, sorts =>
    match p.get? (numberedKey "order" entry "column") with
    | none => .ok sorts
    | some raw =>
      if raw = "" then .ok sorts
      else do
        decodeOrderFrom p c fuel (entry + 1) (← addOrderEntry p c sorts entry raw)

/-- The fields that a request sorts by. Each order entry has a parameter of its own, so their number
is at most that of the parameters. -/
def decodeOrder (p : Params) (c : TableConfig) : Except InputFault (List SortField) :=
  decodeOrderFrom p c (p.entries.length + 1) 0 []

/-- The query of a request. -/
def decodeRequest (p : Params) (c : TableConfig) : Except InputFault Query := do
  let offset ← decodeStart (p.get? "start")
  let limit ← decodeLength (p.get? "length") c.maxRows
  checkColumns p c
  let sort ← decodeOrder p c
  return {
    table := c.collection
    fields := c.fields
    filters := c.filters
    rawFilter := c.rawFilter
    sort
    limit
    offset
    search := (p.get? "search[value]").getD ""
    searchFields := c.searchFields
    pipeline := c.pipeline }

end DocTable
