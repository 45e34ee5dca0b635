/-
**Templates of cells.**

A template is text with placeholders. A placeholder is a path between two pairs of braces: words of
ASCII letters, digits and underscores with dots between them, and blanks around the whole.

* `Template.ofSource`: the template of a source, which holds no pair of braces outside placeholders;
* `Template.render`: the text with the values of a context, escaped for HTML.
-/

import DocTable.Table.Cell
import DocTable.Table.Highlight
import DocTable.Text.Blank

namespace DocTable

/-- A part of a template. -/
inductive Segment where
  | text (chars : List Char)
  /-- A value of the context: its key and the path that goes on from it. -/
  | value (key : String) (path : List String)
deriving DecidableEq, Repr

/-- Text with placeholders. -/
structure Template where
  segments : List Segment
deriving DecidableEq, Repr

/-- The value at the end of a path, every value on the way being a document. -/
def Value.at? : Value → List String → Option Value
  | v, [] => some v
  | .document d, key :: path => (Document.get? d key).bind (at? · path)
  | _, _ :: _ => none

/-- A text as it is displayed: escaped for HTML, and with the search term marked. -/
def displayed (highlighter : Option Highlighter) (text : String) : List Char :=
  let escaped := Text.htmlEscape text.toList
  match highlighter with
  | some h => h.apply escaped
  | none => escaped

namespace Segment

/-- A character of a word or a dot between words. -/
def isPathChar (c : Char) : Bool := c.isAlphanum || c = '_' || c = '.'

/-- The value that words between dots name. -/
def ofWords? (words : List (List Char)) : Option Segment :=
  match words with
  | key :: path =>
    if words.all (· ≠ []) then some (.value (String.ofList key) (path.map String.ofList)) else none
  | [] => none

/-- The placeholder at the front of a source, and what follows it. -/
def placeholder? : List Char → Option (Segment × List Char)
  | '\x7b' :: '\x7b' :: rest =>
    let inner := rest.dropWhile Text.isBlank
    match (inner.dropWhile isPathChar).dropWhile Text.isBlank with
    | '\x7d' :: '\x7d' :: tail =>
      (ofWords? (Text.splitOn '.' (inner.takeWhile isPathChar))).map (·, tail)
    | _ => none
  | _ => none

/-- Puts a character in front of segments. -/
def pushChar (c : Char) : List Segment → List Segment
  | .text chars :: rest => .text (c :: chars) :: rest
  | segments => .text [c] :: segments

/-- The segments of a source. The counter is the number of characters of the current placeholder
still to be passed over. -/
def ofSourceFrom : Nat → List Char → List Segment
  | _, [] => []
  | covered + 1, _ :: rest => ofSourceFrom covered rest
  | 0, c :: rest =>
    match placeholder? (c :: rest) with
    | some (found, tail) => found :: ofSourceFrom (rest.length - tail.length) rest
    | none => pushChar c (ofSourceFrom 0 rest)

/-- Whether a text holds a pair of equal braces. -/
def hasBracePair : List Char → Bool
  | a :: b :: rest => (a = b && (a = '\x7b' || a = '\x7d')) || hasBracePair (b :: rest)
  | _ => false

/-- The text of a segment in which braces are left over. -/
def malformed? : Segment → Option (List Char)
  | .text chars => if hasBracePair chars then some chars else none
  | .value _ _ => none

/-- The key of a placeholder. -/
def key? : Segment → Option String
  | .text _ => none
  | .value key _ => some key

/-- A segment with the values of a context. What the context does not have shows nothing. -/
def render (context : Document) (highlighter : Option Highlighter) : Segment → List Char
  | .text chars => chars
  | .value key path =>
    match (context.get? key).bind (·.at? path) with
    | some v => displayed highlighter v.cellText
    | none => []

end Segment

/-- Why a source is no template. -/
inductive TemplateFault where
  | malformedPlaceholder (text : String)
deriving DecidableEq, Repr

/-- The wording of a fault. -/
def TemplateFault.message : TemplateFault → String
  | .malformedPlaceholder text => "malformed placeholder in: " ++ text

namespace Template

/-- The template of a source. The first text with braces left over is its fault. -/
def ofSource (source : String) : Except TemplateFault Template :=
  let segments := Segment.ofSourceFrom 0 source.toList
  match segments.findSome? Segment.malformed? with
  | some text => .error (.malformedPlaceholder (String.ofList text))
  | none => .ok ⟨segments⟩

/-- The keys of the placeholders. -/
def keys (t : Template) : List String := t.segments.filterMap Segment.key?

/-- The template with the values of a context. Its own text is neither escaped nor marked. -/
def render (t : Template) (context : Document) (highlighter : Option Highlighter) : String :=
  String.ofList (t.segments.flatMap (·.render context highlighter))

end Template

end DocTable
