/-
**Rows as displayed texts.**

* `RowTemplate.render`: one text for each template, or one for each column where there are none;
* `plainTexts`: the texts of the cells as they are;
* `Renderer.render`: either of the two.
-/

import DocTable.Table.Config

namespace DocTable

/-- A column of a row: the key of its value in the context, and how the value is shown. -/
structure RowColumn where
  key : String
  format : Option Format
deriving DecidableEq, Repr

/-- What turns cells into displayed texts. -/
structure RowTemplate where
  columns : List RowColumn
  templates : List Template
  highlight : Bool
deriving DecidableEq, Repr

namespace RowTemplate

/-- The row template of a definition. -/
def ofConfig (c : TableConfig) : Except ConfigFault RowTemplate := do
  let templates ← c.templates
  return {
    columns := c.columns.map fun column => ⟨contextKey column.name, column.format⟩
    templates
    highlight := c.highlightSearch }

/-- A cell in the format of its column. -/
def formatted (column : RowColumn) (cell : Value) : Value :=
  match column.format with
  | some format => format.apply cell
  | none => cell

/-- The values of the cells by the keys of their columns. Of columns with one key the last
counts. -/
def context (t : RowTemplate) (cells : List Value) : Document :=
  (t.columns.zip cells).foldl
    (fun d columnAndCell =>
      Document.insert d columnAndCell.1.key (formatted columnAndCell.1 columnAndCell.2)) []

/-- The text of a column's value. A formatted value shows its text. -/
def columnText (column : RowColumn) (v : Value) : String :=
  match column.format, v with
  | some _, .document d => ((Document.get? d formattedKey).map Value.cellText).getD ""
  | _, v => v.cellText

/-- The displayed text of a column. -/
def renderColumn (context : Document) (highlighter : Option Highlighter) (column : RowColumn) :
    String :=
  String.ofList (displayed highlighter (columnText column ((context.get? column.key).getD .null)))

/-- The displayed texts of a row. -/
def render [Regex.Compiler] (t : RowTemplate) (cells : List Value) (search : String) : List String :=
  let context := t.context cells
  let highlighter := if t.highlight then Highlighter.ofTerm? search else none
  if t.templates.isEmpty then t.columns.map (renderColumn context highlighter)
  else t.templates.map (·.render context highlighter)

end RowTemplate

/-- The texts of cells without templates, formats or escapes. -/
def plainTexts (cells : List Value) : List String := cells.map Value.cellText

/-- How the rows of a table are displayed. -/
inductive Renderer where
  | plain
  | template (t : RowTemplate)
deriving DecidableEq, Repr

/-- The displayed texts of a row. -/
def Renderer.render [Regex.Compiler] (r : Renderer) (cells : List Value)
    (search : String) : List String :=
  match r with
  | .plain => plainTexts cells
  | .template t => t.render cells search

end DocTable
