/-
**Sorting documents.**

* `SortKey.ofDocument`: the keys that a sort document states, in its order;
* `compareBy`: the order of two documents by keys, earlier keys first;
* `sortDocuments`: stable insertion from the left. Where the keys put the documents in order, every
  stable sort does the same.
-/

import DocTable.Store.Fault

namespace DocTable

/-- A path to sort by and its direction. -/
structure SortKey where
  path : String
  descending : Bool
deriving DecidableEq, Repr

/-- Whether a direction is descending, if it is a direction. -/
def descending? : Value → Option Bool
  | .int32 n => if n = 1 then some false else if n = -1 then some true else none
  | .int64 n => if n = 1 then some false else if n = -1 then some true else none
  | .double x =>
    if x.equal (Double.ofInt 1) then some false
    else if x.equal (Double.ofInt (-1)) then some true
    else none
  | _ => none

/-- The key of one entry of a sort document. -/
def SortKey.ofEntry (path : String) (direction : Value) : Except StoreError SortKey :=
  match descending? direction with
  | some descending => .ok ⟨path, descending⟩
  | none => .error (.invalidPipeline (.badDirection path direction))

/-- The keys of a sort document, of which there is at least one. -/
def SortKey.ofDocument (spec : Document) : Except StoreError (List SortKey) :=
  match spec with
  | [] => .error (.invalidPipeline .emptySort)
  | spec => spec.mapM fun (path, direction) => SortKey.ofEntry path direction

/-- The order of two documents by one key. -/
def SortKey.compare (key : SortKey) (a b : Document) : Ordering :=
  let order := sortCompare (a.lookup key.path) (b.lookup key.path)
  if key.descending then order.swap else order

/-- The order of two documents by several keys: the first that tells them apart decides. -/
def compareBy : List SortKey → Document → Document → Ordering
  | [], _, _ => .eq
  | key :: rest, a, b => (key.compare a b).then (compareBy rest a b)

/-- Puts a document behind those of a reversed sorted list that it is not in front of. -/
def insertBehind (keys : List SortKey) (d : Document) : List Document → List Document
  | [] => [d]
  | last :: rest =>
    if compareBy keys d last = .lt then last :: insertBehind keys d rest else d :: last :: rest

/-- The documents in the order of the keys; documents that tie keep their order. -/
def sortDocuments (keys : List SortKey) (docs : List Document) : List Document :=
  (docs.foldl (fun sorted d => insertBehind keys d sorted) []).reverse

end DocTable
