/-
**Dotted paths into nested documents.**

A path names an entry of a document, then an entry of the document found there, and so on. An array
is not a document, so a path never goes through one.

* `Document.lookup`: the value at a path;
* `Document.setPath`: puts a value at a path and makes the documents on the way;
* `Document.removePath`: removes the value at a path.
-/

import DocTable.Text.Split
import DocTable.Value.Basic

namespace DocTable

/-- The segments of a path: the texts between its dots. -/
def segments (path : String) : List String := Text.pieces '.' path

/-- The entries of a document; no other value has any. -/
def Value.entries? : Value → Option Document
  | .document d => some d
  | _ => none

namespace Document

/-- Follows segments from a document. -/
def follow (d : Document) : List String → Option Value
  | [] => none
  | [key] => d.get? key
  | key :: rest => ((d.get? key).bind Value.entries?).bind (follow · rest)

/-- Puts a value where the segments lead. A value on the way that is no document is replaced. -/
def setAt (d : Document) : List String → Value → Document
  | [], _ => d
  | [key], value => d.insert key value
  | key :: rest, value =>
    let inner := ((d.get? key).bind Value.entries?).getD []
    d.insert key (.document (setAt inner rest value))

/-- Removes the value that the segments lead to. -/
def removeAt (d : Document) : List String → Document
  | [] => d
  | [key] => d.erase key
  | key :: rest =>
    match (d.get? key).bind Value.entries? with
    | some inner => d.insert key (.document (removeAt inner rest))
    | none => d

/-- The value at a path. -/
def lookup (d : Document) (path : String) : Option Value := d.follow (segments path)

/-- Sets the value at a path. -/
def setPath (d : Document) (path : String) (value : Value) : Document :=
  d.setAt (segments path) value

/-- Removes the value at a path, if there is one. -/
def removePath (d : Document) (path : String) : Document := d.removeAt (segments path)

end Document

end DocTable
