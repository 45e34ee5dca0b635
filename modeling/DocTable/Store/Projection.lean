/-
**Projections.**

A projection document either names the paths to keep or the paths to drop. The identifier is kept
in both cases unless its own entry says otherwise.

* `Projection.modeOf`: which of the two a projection is;
* `project`: a document seen through a projection.
-/

import DocTable.Store.Fault

namespace DocTable

/-- What a path of a projection, or a whole projection, does. -/
inductive ProjectionMode where
  | keep
  | drop
deriving DecidableEq, Repr

/-- The path that a text beginning with a dollar sign refers to. -/
def referencedPath? (s : String) : Option String :=
  match s.toList with
  | '$' :: path => some (String.ofList path)
  | _ => none

/-- The path that a value refers to. -/
def Value.reference? : Value → Option String
  | .string s => referencedPath? s
  | _ => none

namespace Projection

/-- What one entry does: references and true numbers include, false ones exclude. -/
def entryMode (spec : Value) : Except StoreError ProjectionMode :=
  let included (b : Bool) : ProjectionMode := if b then .keep else .drop
  match spec with
  | .int32 n => .ok (included (n ≠ 0))
  | .int64 n => .ok (included (n ≠ 0))
  | .double x => .ok (included !(x.equal Double.zero))
  | .bool b => .ok (included b)
  | spec =>
    match spec.reference? with
    | some _ => .ok .keep
    | none => .error (.invalidPipeline (.badProjection spec))

/-- Reads the entries: the mode that the paths agree on, and whether the identifier is kept. -/
def modeOf (mode : Option ProjectionMode) (keepId : Bool) :
    List (String × Value) → Except StoreError (Option ProjectionMode × Bool)
  | [] => .ok (mode, keepId)
  | (path, spec) :: rest => do
    let entry ← entryMode spec
    if path = idKey then modeOf mode (entry == .keep) rest
    else match mode with
      | none => modeOf (some entry) keepId rest
      | some agreed =>
        if agreed = entry then modeOf mode keepId rest
        else .error (.invalidPipeline (.mixedProjection path))

/-- The value that an entry takes from a document. -/
def valueOf (d : Document) (path : String) (spec : Value) : Option Value :=
  match spec.reference? with
  | some other => d.lookup other
  | none => d.lookup path

/-- Adds the value of one entry to the result. -/
def includeEntry (d out : Document) (entry : String × Value) : Document :=
  if entry.1 = idKey then out
  else match valueOf d entry.1 entry.2 with
    | some value => out.setPath entry.1 value
    | none => out

/-- The identifier of a document as a document of its own. -/
def idOnly (d : Document) : Document :=
  match d.get? idKey with
  | some id => [(idKey, id)]
  | none => []

end Projection

open Projection

/-- A document seen through a projection. -/
def project (d projection : Document) : Except StoreError Document :=
  if projection.isEmpty then .ok d
  else do
    let (mode, keepId) ← modeOf none true projection
    match mode with
    | some .keep =>
      return projection.foldl (includeEntry d) (if keepId then idOnly d else [])
    | some .drop =>
      return projection.foldl (fun out entry => out.removePath entry.1) d
    | none => return if keepId then d else d.erase idKey

end DocTable
