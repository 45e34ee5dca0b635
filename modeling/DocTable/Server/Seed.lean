/-
**Documents that a store begins with.**

A seed is a JSON array. Each of its objects is a document whose keys are sorted.

* `readSeed`: the documents of a seed, or the first entry that is none.
-/

import DocTable.Value.Json

namespace DocTable

/-- What is wrong with a seed. -/
inductive SeedFault where
  /-- The text is no JSON array. -/
  | unreadable
  /-- A key with a type has no value of that type. -/
  | invalidValue (index : Nat)
  | notADocument (index : Nat)
deriving DecidableEq, Repr

/-- The wording of a fault. -/
def SeedFault.message : SeedFault → String
  | .unreadable => "not a JSON array"
  | .invalidValue index => "entry " ++ toString index ++ ": invalid value"
  | .notADocument index => "entry " ++ toString index ++ " is not a document"

/-- The document of one entry. -/
def seedDocument (index : Nat) (entry : Json) : Except SeedFault Document :=
  match Value.ofSortedJson? entry with
  | none => .error (.invalidValue index)
  | some (.document d) => .ok d
  | some _ => .error (.notADocument index)

/-- The documents of entries, the first of which has the given index. -/
def seedDocuments (index : Nat) : List Json → Except SeedFault (List Document)
  | [] => .ok []
  | entry :: rest => do
    let d ← seedDocument index entry
    return d :: (← seedDocuments (index + 1) rest)

/-- The documents of a seed. All of it has to be readable before any entry counts. -/
def readSeed (text : String) : Except SeedFault (List Document) :=
  match Json.parse? text with
  | some (.array entries) =>
    if (Json.array entries).isReadable Json.nestingLimit then seedDocuments 0 entries
    else .error .unreadable
  | _ => .error .unreadable

end DocTable
