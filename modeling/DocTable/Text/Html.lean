/-
**Text as HTML character data and attribute values.**
-/

namespace DocTable.Text

/-- The written form of one character. -/
def htmlChar (c : Char) : List Char :=
  match c with
  | '&' => "&amp;".toList
  | '<' => "&lt;".toList
  | '>' => "&gt;".toList
  | '"' => "&quot;".toList
  | '\'' => "&#x27;".toList
  | '/' => "&#x2F;".toList
  | _ => [c]

/-- Escapes the characters that could end or open markup. -/
def htmlEscape (chars : List Char) : List Char := chars.flatMap htmlChar

end DocTable.Text
