/-
**Starting a service from files.**

* `startUp`: the table and the store of a definition and an optional seed, the first fault in the
  order definition, seed.
-/

import DocTable.Server.Seed
import DocTable.Store.Basic
import DocTable.Table.Grid

namespace DocTable

/-- Why the text of a file cannot be had. -/
inductive FileFault where
  | notFound
  | notText
  | other (reason : String)
deriving DecidableEq, Repr

/-- The wording of a fault. -/
def FileFault.message : FileFault → String
  | .notFound => "No such file or directory (os error 2)"
  | .notText => "stream did not contain valid UTF-8"
  | .other reason => reason

/-- A file by its path, with its bytes if it could be read. -/
structure SourceFile where
  path : String
  content : Except FileFault (List UInt8)

/-- Why a service does not start. -/
inductive StartupError where
  | file (path : String) (fault : FileFault)
  | config (fault : ConfigFault)
  | seed (path : String) (fault : SeedFault)
deriving DecidableEq, Repr

/-- The wording of a failure. -/
def StartupError.message : StartupError → String
  | .file path fault => "failed to read " ++ path ++ ": " ++ fault.message
  | .config fault => (TableError.config fault).message
  | .seed path fault => "invalid seed file " ++ path ++ ": " ++ fault.message

namespace SourceFile

/-- The text of a file. -/
def text (f : SourceFile) : Except StartupError String :=
  match f.content with
  | .error fault => .error (.file f.path fault)
  | .ok bytes =>
    match Text.Utf8.decode? bytes with
    | some s => .ok s
    | none => .error (.file f.path .notText)

end SourceFile

/-- A table, its store, and the number of documents that the store began with. -/
structure Service where
  table : Table
  store : Store
  seeded : Option Nat
deriving Repr

/-- The definition in a file. -/
def loadConfig (f : SourceFile) : Except StartupError TableConfig := do
  match TableConfig.ofText (← f.text) with
  | .ok c => return c
  | .error fault => throw (.config fault)

/-- The documents of a seed in a file. -/
def loadSeed (f : SourceFile) : Except StartupError (List Document) := do
  match readSeed (← f.text) with
  | .ok docs => return docs
  | .error fault => throw (.seed f.path fault)

/-- Starts a service. The seed goes into the collection of the table. -/
def startUp (firstId : ObjectId) (config : SourceFile) (seed : Option SourceFile) :
    Except StartupError Service := do
  let c ← loadConfig config
  let docs ← seed.mapM loadSeed
  let store := match docs with
    | some docs => (Store.empty firstId).insertMany c.collection docs
    | none => Store.empty firstId
  match Table.ofConfig c with
  | .ok table => return ⟨table, store, docs.map List.length⟩
  | .error fault => throw (.config fault)

end DocTable
