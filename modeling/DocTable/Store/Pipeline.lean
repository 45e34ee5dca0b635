/-
**Pipelines.**

A pipeline is a list of stages, each a document with one key. A stage is read when its turn comes,
so a fault in it shows only if the stages before it went through.

* `Stage.run`: what one stage makes of the documents;
* `runPipeline`: the stages one after the other.
-/

import DocTable.Store.Projection
import DocTable.Store.Sort

namespace DocTable

variable [Regex.Compiler]

namespace Stage

/-- The document that a stage needs. -/
def document (stage : String) : Value → Except StoreError Document
  | .document d => .ok d
  | _ => .error (.invalidPipeline (.notADocument stage))

/-- The whole number of a value; one written with a point counts if nothing stands behind it. -/
def integer? : Value → Option Int
  | .int32 n => some n.toInt
  | .int64 n => some n.toInt
  | .double x => if x.isWhole then some (x.clamped (-2 ^ 63) (2 ^ 63 - 1)) else none
  | _ => none

/-- The number of documents that a stage needs. -/
def count (stage : String) (spec : Value) : Except StoreError Nat :=
  match integer? spec with
  | none => .error (.invalidPipeline (.notAnInteger stage))
  | some n =>
    if n < 0 then .error (.invalidPipeline (.negativeCount stage)) else .ok n.toNat

/-- The condition that a filter document states. -/
def condition (filter : Document) : Except StoreError Condition :=
  match Condition.ofDocument filter with
  | .ok c => .ok c
  | .error fault => .error (.invalidFilter fault)

/-- The field that the number of documents goes into. -/
def countField? : Value → Option String
  | .string s => if s = "" ∨ (referencedPath? s).isSome then none else some s
  | _ => none

/-- Sets one field: to a literal, or to what a reference finds in the document as it is now. A
reference that finds nothing sets nothing. -/
def addField (d : Document) (entry : String × Value) : Document :=
  match entry.2.reference? with
  | some path =>
    match d.lookup path with
    | some found => d.setPath entry.1 found
    | none => d
  | none => d.setPath entry.1 entry.2

/-- Sets fields one after the other. -/
def addFields (d fields : Document) : Document := fields.foldl addField d

/-- The single entry of a stage. -/
def entry : Document → Except StoreError (String × Value)
  | [(name, spec)] => .ok (name, spec)
  | _ => .error (.invalidPipeline .notOneKey)

/-- What a stage makes of the documents, given its name. -/
def apply (name : String) (spec : Value) (docs : List Document) :
    Except StoreError (List Document) :=
  match name with
  | "$match" => do
    let c ← condition (← document name spec)
    return docs.filter (c.holds ·)
  | "$sort" => do
    let keys ← SortKey.ofDocument (← document name spec)
    return sortDocuments keys docs
  | "$skip" => do return docs.drop (← count name spec)
  | "$limit" => do
    let n ← count name spec
    if n = 0 then throw (.invalidPipeline .zeroLimit) else return docs.take n
  | "$count" =>
    match countField? spec with
    | none => throw (.invalidPipeline .noCountField)
    | some field =>
      return if docs.isEmpty then [] else [[(field, .int64 (Int64.ofNat docs.length))]]
  | "$project" => do
    let projection ← document name spec
    docs.mapM (project · projection)
  | "$addFields" => do
    let fields ← document name spec
    return docs.map (addFields · fields)
  | "$set" => do
    let fields ← document name spec
    return docs.map (addFields · fields)
  | other => throw (.invalidPipeline (.unsupportedStage other))

/-- What a stage makes of the documents. -/
def run (stage : Document) (docs : List Document) : Except StoreError (List Document) := do
  let (name, spec) ← entry stage
  apply name spec docs

end Stage

/-- What the stages make of the documents, one after the other. -/
def runPipeline (docs : List Document) : List Document → Except StoreError (List Document)
  | [] => .ok docs
  | stage :: rest => do runPipeline (← Stage.run stage docs) rest

end DocTable
