/-
**Cells and their texts.**

* `rowCells`: the cells of a document, one for each path, with null where a path leads nowhere;
* `Value.cellText`: what a cell shows.
-/

import DocTable.Value.Json
import DocTable.Value.Path

namespace DocTable

/-- The entry of a value that is a document. -/
def Value.entry? (v : Value) (key : String) : Option Value := v.entries?.bind (·.get? key)

/-- Goes from a document through its entries, one segment of the path after the other. -/
def Document.walk? (d : Document) (path : String) : Option Value :=
  (segments path).foldlM Value.entry? (.document d)

/-- The cell of a path. -/
def Document.cell (d : Document) (path : String) : Value := (d.walk? path).getD .null

/-- The cells of a document, in the order of the paths. -/
def rowCells (d : Document) (paths : List String) : List Value := paths.map d.cell

/-- What a cell shows. Null shows nothing, nor does an instant that no calendar reaches. Values
without a text of their own show their JSON form. -/
def Value.cellText : Value → String
  | .null => ""
  | .undefined => ""
  | .string s => s
  | .int32 n => toString n.toInt
  | .int64 n => toString n.toInt
  | .double x => x.render .display
  | .bool b => if b then "true" else "false"
  | .objectId id => id.toHex
  | .dateTime millis => ((Calendar.Moment.ofMillis? millis.toInt).map (·.toUtc)).getD ""
  | v => v.toJson.print

end DocTable
