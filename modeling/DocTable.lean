import DocTable.Calendar.Basic
import DocTable.Calendar.Digits
import DocTable.Calendar.Layout
import DocTable.Calendar.Timestamp
import DocTable.Condition.Basic
import DocTable.Condition.Parser
import DocTable.Json.Basic
import DocTable.Json.Number
import DocTable.Json.Parser
import DocTable.Json.Reader
import DocTable.Main
import DocTable.Number.Decimal
import DocTable.Number.Double
import DocTable.Number.Shortest
import DocTable.Proofs.AddedFields
import DocTable.Proofs.Alternatives
import DocTable.Proofs.Answering
import DocTable.Proofs.Bounds
import DocTable.Proofs.CaseFold
import DocTable.Proofs.Checked
import DocTable.Proofs.Columns
import DocTable.Proofs.Comparisons
import DocTable.Proofs.Composition
import DocTable.Proofs.Counting
import DocTable.Proofs.DecimalText
import DocTable.Proofs.Decoding
import DocTable.Proofs.Document
import DocTable.Proofs.EqualQueries
import DocTable.Proofs.Escaping
import DocTable.Proofs.Except
import DocTable.Proofs.Exclusion
import DocTable.Proofs.FilterWidths
import DocTable.Proofs.Filtering
import DocTable.Proofs.Finding
import DocTable.Proofs.Formats
import DocTable.Proofs.Groups
import DocTable.Proofs.History
import DocTable.Proofs.Identifier
import DocTable.Proofs.JsonReading
import DocTable.Proofs.JsonText
import DocTable.Proofs.KeptIdentifier
import DocTable.Proofs.Literal
import DocTable.Proofs.Marking
import DocTable.Proofs.Markup
import DocTable.Proofs.Meaning
import DocTable.Proofs.NamedColumns
import DocTable.Proofs.Numbered
import DocTable.Proofs.OneValue
import DocTable.Proofs.Order
import DocTable.Proofs.OwnCells
import DocTable.Proofs.Paging
import DocTable.Proofs.ParsedFilter
import DocTable.Proofs.PathLaws
import DocTable.Proofs.Paths
import DocTable.Proofs.Pipeline
import DocTable.Proofs.Placeholder
import DocTable.Proofs.PlanText
import DocTable.Proofs.Projection
import DocTable.Proofs.Protocol
import DocTable.Proofs.QueryText
import DocTable.Proofs.Reading
import DocTable.Proofs.Removal
import DocTable.Proofs.Rendering
import DocTable.Proofs.RequestedOrder
import DocTable.Proofs.Room
import DocTable.Proofs.Rounding
import DocTable.Proofs.Rounds
import DocTable.Proofs.Selection
import DocTable.Proofs.Sort
import DocTable.Proofs.SortFields
import DocTable.Proofs.Sorted
import DocTable.Proofs.Strategies
import DocTable.Proofs.TemplateSource
import DocTable.Proofs.ValueText
import DocTable.Proofs.WholeNumbers
import DocTable.Proofs.Widths
import DocTable.Query.Basic
import DocTable.Query.Compile
import DocTable.Query.Json
import DocTable.Query.Plan
import DocTable.Regex.Basic
import DocTable.Regex.CharSet
import DocTable.Regex.Class
import DocTable.Regex.Escape
import DocTable.Regex.Parser
import DocTable.Regex.Property
import DocTable.Regex.Room
import DocTable.Server.Routes
import DocTable.Server.Seed
import DocTable.Server.Startup
import DocTable.Store.Basic
import DocTable.Store.Fault
import DocTable.Store.Pipeline
import DocTable.Store.Projection
import DocTable.Store.Sort
import DocTable.Table.Cell
import DocTable.Table.Config
import DocTable.Table.Fault
import DocTable.Table.Format
import DocTable.Table.Grid
import DocTable.Table.Highlight
import DocTable.Table.Page
import DocTable.Table.Render
import DocTable.Table.Request
import DocTable.Table.Template
import DocTable.Text.Base64
import DocTable.Text.Blank
import DocTable.Text.CaseFold
import DocTable.Text.Category
import DocTable.Text.Hex
import DocTable.Text.Hidden
import DocTable.Text.Html
import DocTable.Text.Marked
import DocTable.Text.Quoted
import DocTable.Text.Ranges
import DocTable.Text.Script
import DocTable.Text.Split
import DocTable.Text.Usage
import DocTable.Text.Utf8
import DocTable.Text.Word
import DocTable.Value.Basic
import DocTable.Value.Display
import DocTable.Value.Json
import DocTable.Value.Order
import DocTable.Value.Path
import DocTable.Web.Form
import DocTable.Web.Message
import DocTable.Web.Uri
