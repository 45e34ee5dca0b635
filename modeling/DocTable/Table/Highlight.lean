/-
**Marking a search term in displayed text.**

The text has been escaped for HTML, so the term is escaped in the same way before it is looked for.

* `Highlighter.ofTerm?`: the highlighter of a search term;
* `Highlighter.apply`: wraps every occurrence of the first match, as it is spelled there.
-/

import DocTable.Regex.Parser
import DocTable.Text.Html
import DocTable.Text.Marked

namespace DocTable

/-- A search term that is marked where it is displayed. -/
structure Highlighter where
  /-- The term, escaped for HTML. -/
  term : List Char
deriving DecidableEq, Repr

/-- The class of marked text. -/
def highlightClass : String := "textHighlighted"

namespace Highlighter

/-- The highlighter of a term. An empty term marks nothing, nor does one whose pattern is too large once
it is escaped. -/
def ofTerm? [Regex.Compiler] (search : String) : Option Highlighter :=
  let term := Text.htmlEscape search.toList
  if search = "" then none
  else (Regex.compile? .caseless (Regex.escapeLiteral term)).map fun _ => ⟨term⟩

/-- The tags around marked text. -/
def openTag : List Char := ("<span class=\"" ++ highlightClass ++ "\">").toList
def closeTag : List Char := "</span>".toList

/-- A fragment as HTML. -/
def markup : Text.Fragment → List Char
  | .plain c => [c]
  | .marked text => openTag ++ text ++ closeTag

/-- Marks the term in escaped text. What is marked has the spelling of the first match; other
spellings stay as they are. -/
def apply (h : Highlighter) (escaped : List Char) : List Char :=
  match Text.firstMatch? h.term escaped with
  | some needle => (Text.mark needle escaped).flatMap markup
  | none => escaped

end Highlighter

end DocTable
