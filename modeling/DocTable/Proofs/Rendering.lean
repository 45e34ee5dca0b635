/-
**The texts of a row.**

Templates and plain columns show values in one way only: escaped, and with tags around marked parts if
a search term is to be marked. Everything else in a row is the text of the templates.

* `parts_of_ofConfig`: what a row template takes from the definition of a table;
* `becomes_render`: what the segments of a template become;
* `render_escaped`: what the texts of a row are made of.
-/

import DocTable.Proofs.Checked
import DocTable.Proofs.Markup
import DocTable.Regex.Room
import DocTable.Table.Render

namespace DocTable

/-- The column of a row for a column of a table. -/
def RowColumn.ofColumn (column : Column) : RowColumn := ⟨contextKey column.name, column.format⟩

/-- A row template takes columns, templates and highlighting from the definition of a table. -/
theorem parts_of_ofConfig {c : TableConfig} {t : RowTemplate}
    (built : RowTemplate.ofConfig c = .ok t) :
    c.templates = .ok t.templates ∧ t.columns = c.columns.map RowColumn.ofColumn ∧
      t.highlight = c.highlightSearch := by
  obtain ⟨templates, read, built⟩ := bind_eq_ok.mp built
  cases built
  exact ⟨read, rfl, rfl⟩

/-- A definition that passed its checks makes a row template. -/
theorem exists_rowTemplate {c : TableConfig} (valid : c.validate = .ok ()) :
    ∃ t, RowTemplate.ofConfig c = .ok t := by
  obtain ⟨_, _, _, _, _, templates, read⟩ := TableConfig.parts_of_validate valid
  exact ⟨_, bind_eq_ok.mpr ⟨templates, read, rfl⟩⟩

/-- The text of the value that a placeholder names, empty if there is no such value. -/
def placeholderText (context : Document) (key : String) (path : List String) : String :=
  (((context.get? key).bind (·.at? path)).map Value.cellText).getD ""

/-- What a segment of a template may become: text stays as it is, and a placeholder displays the text
of its value. -/
def Segment.Becomes (context : Document) : Segment → List Char → Prop
  | .text chars, html => html = chars
  | .value key path, html => Displays html (placeholderText context key path)

section Highlighted

variable {highlighter : Option Highlighter} (terms : ∀ h ∈ highlighter, h.term ≠ [])

include terms

/-- **Segments** become what they may. -/
theorem becomes_render (context : Document) (segment : Segment) :
    segment.Becomes context (segment.render context highlighter) := by
  cases segment with
  | text chars => rfl
  | value key path =>
    rw [Segment.Becomes, Segment.render, placeholderText]
    cases (context.get? key).bind (·.at? path) with
    | none => exact displays_htmlEscape ""
    | some v => exact displays_displayed terms v.cellText

/-- A template becomes what its segments do, one behind the other. -/
theorem exists_pieces (context : Document) (template : Template) :
    ∃ pieces, List.Forall₂ (Segment.Becomes context) template.segments pieces ∧
      (template.render context highlighter).toList = pieces.flatten := by
  refine ⟨template.segments.map (·.render context highlighter), ?_, ?_⟩
  · rw [List.forall₂_map_right_iff, List.forall₂_same]
    exact fun segment _ => becomes_render terms context segment
  · unfold Template.render
    rw [String.toList_ofList, List.flatMap_def]

/-- A column displays the text of its value. -/
theorem displays_renderColumn (context : Document) (column : RowColumn) :
    Displays (RowTemplate.renderColumn context highlighter column).toList
      (RowTemplate.columnText column ((context.get? column.key).getD .null)) := by
  unfold RowTemplate.renderColumn
  rw [String.toList_ofList]
  exact displays_displayed terms _

end Highlighted

/-- **Rows are safe to insert into a page.** Whatever the cells and the search term are, each text of
a row is made of the text of its template and of displayed values in their places, or is a displayed
value where the table has no templates: the escaped text of the value, with tags around marked parts
and nothing else in it. -/
theorem render_escaped [Regex.Compiler] (c : TableConfig) (t : RowTemplate)
    (built : RowTemplate.ofConfig c = .ok t)
    (cells : List Value) (search : String) :
    (c.row = [] → List.Forall₂
      (fun column html => Displays (String.toList html) (RowTemplate.columnText
        (.ofColumn column) (((t.context cells).get? (contextKey column.name)).getD .null)))
      c.columns (t.render cells search)) ∧
    (c.row ≠ [] → List.Forall₂
      (fun source html => ∃ template pieces, Template.ofSource source = .ok template ∧
        List.Forall₂ (Segment.Becomes (t.context cells)) template.segments pieces ∧
        String.toList html = pieces.flatten)
      c.row (t.render cells search)) := by
  obtain ⟨read, columns, _⟩ := parts_of_ofConfig built
  have sources := TableConfig.forall₂_templates read
  have terms : ∀ h ∈ (if t.highlight then Highlighter.ofTerm? search else none), h.term ≠ [] := by
    intro h made
    split at made
    · exact term_ne_nil made
    · cases made
  refine ⟨fun none => ?_, fun some_source => ?_⟩
  · rw [none, List.forall₂_nil_left_iff] at sources
    unfold RowTemplate.render
    simp only [sources, List.isEmpty_nil, if_true, columns]
    rw [List.map_map, List.forall₂_map_right_iff, List.forall₂_same]
    exact fun column _ => displays_renderColumn terms (t.context cells) (.ofColumn column)
  · have some_template : t.templates.isEmpty = false := by
      refine Bool.eq_false_iff.mpr fun empty => some_source ?_
      rw [List.isEmpty_iff.mp empty, List.forall₂_nil_right_iff] at sources
      exact sources
    unfold RowTemplate.render
    simp only [some_template, Bool.false_eq_true, if_false]
    rw [List.forall₂_map_right_iff]
    refine sources.imp fun source template parsed => ?_
    obtain ⟨pieces, become, whole⟩ := exists_pieces terms (t.context cells) template
    exact ⟨template, pieces, parsed, become, whole⟩

/-- A name with markup in it and a search for one of its letters, in a template and in a column. -/
theorem render_escaped_people :
    let c : TableConfig :=
      { collection := "people", maxRows := 0, columns := [⟨"name", none⟩], searchFields := []
        row := ["<b>\x7b\x7b name \x7d\x7d</b>"], highlightSearch := true, filters := []
        rawFilter := none, pipeline := [], timeoutMillis := none }
    let t : RowTemplate :=
      ⟨[⟨"name", none⟩], [⟨[.text "<b>".toList, .value "name" [], .text "</b>".toList]⟩], true⟩
    let cells : List Value := [.string "<Bo>"]
    (RowTemplate.ofConfig c = .ok t ∧ c.row ≠ [] ∧
      t.render cells "b" = ["<b>&lt;<span class=\"textHighlighted\">B</span>o&gt;</b>"] ∧
      List.Forall₂ (fun source html => ∃ template pieces, Template.ofSource source = .ok template ∧
        List.Forall₂ (Segment.Becomes (t.context cells)) template.segments pieces ∧
        String.toList html = pieces.flatten) c.row (t.render cells "b")) ∧
    RowTemplate.ofConfig { c with row := [] } = .ok { t with templates := [] } ∧
      ∃ html, RowTemplate.render { t with templates := [] } cells "b" = [html] ∧
        Displays html.toList "<Bo>" := by
  intro c t cells
  have built : RowTemplate.ofConfig c = .ok t := rfl
  have plain : RowTemplate.ofConfig { c with row := [] } = .ok { t with templates := [] } := rfl
  have some_source : c.row ≠ [] := List.cons_ne_nil _ _
  have texts := (render_escaped _ _ plain cells "b").1 rfl
  exact ⟨⟨built, some_source, rfl, (render_escaped c t built cells "b").2 some_source⟩, plain,
    _, rfl, (List.forall₂_cons.mp texts).1⟩

end DocTable
