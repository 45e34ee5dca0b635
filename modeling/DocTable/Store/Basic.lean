/-
**A store of documents in memory.**

A store maps names to lists of documents. Reads never change it; writes give a new one.

* `Store.insertMany`, `Store.drop`: writes;
* `Store.find`, `Store.aggregate`, `Store.countDocuments`, `Store.size`: reads.
-/

import DocTable.Store.Pipeline

namespace DocTable

/-- Named collections in ascending order of their names, and the identifier that the next document
without one receives. -/
structure Store where
  collections : List (String × List Document)
  nextId : ObjectId
deriving Repr

/-- How the documents of a read are arranged and cut. -/
structure FindOptions where
  sort : Option Document
  projection : Option Document
  skip : UInt64
  /-- Zero is no limit either. -/
  limit : Option UInt64
deriving Repr

namespace FindOptions

/-- Everything, as stored. -/
def unbounded : FindOptions := ⟨none, none, 0, none⟩

end FindOptions

/-- The identifier behind another one. -/
def ObjectId.next (id : ObjectId) : ObjectId := ⟨id.bits + 1⟩

namespace Store

/-- No collection; identifiers are given out from the given one on. -/
def empty (firstId : ObjectId) : Store := ⟨[], firstId⟩

/-- The entry of a collection, if the store has it. -/
def collection? (s : Store) (name : String) : Option (List Document) :=
  (s.collections.find? (·.1 == name)).map (·.2)

/-- The documents of a collection; one that does not exist has none. -/
def documents (s : Store) (name : String) : List Document := (s.collection? name).getD []

/-- Sets a collection, keeping the names in order. -/
def put (name : String) (docs : List Document) :
    List (String × List Document) → List (String × List Document)
  | [] => [(name, docs)]
  | (other, old) :: rest =>
    if other = name then (name, docs) :: rest
    else if name < other then (name, docs) :: (other, old) :: rest
    else (other, old) :: put name docs rest

/-- Gives identifiers to the documents that have none. -/
def identify (id : ObjectId) : List Document → List Document × ObjectId
  | [] => ([], id)
  | d :: rest =>
    if d.contains idKey then
      let (docs, last) := identify id rest
      (d :: docs, last)
    else
      let (docs, last) := identify id.next rest
      (d.insert idKey (.objectId id) :: docs, last)

/-- Appends documents to a collection, which exists from then on. -/
def insertMany (s : Store) (name : String) (docs : List Document) : Store :=
  let (identified, nextId) := identify s.nextId docs
  ⟨put name (s.documents name ++ identified) s.collections, nextId⟩

def insertOne (s : Store) (name : String) (d : Document) : Store := s.insertMany name [d]

/-- Removes a collection, and says whether there was one. -/
def drop (s : Store) (name : String) : Store × Bool :=
  (⟨s.collections.filter (·.1 ≠ name), s.nextId⟩, (s.collection? name).isSome)

/-- The names of the collections in ascending order. -/
def names (s : Store) : List String := s.collections.map (·.1)

variable [Regex.Compiler]

/-- The documents of a collection that meet a filter. -/
def selected (s : Store) (name : String) (filter : Document) : Except StoreError (List Document) :=
  do
    let c ← Stage.condition filter
    return (s.documents name).filter (c.holds ·)

/-- Sorts documents if there is something to sort by. -/
def arrange (sort : Option Document) (docs : List Document) : Except StoreError (List Document) :=
  match sort with
  | none => return docs
  | some spec => do return sortDocuments (← SortKey.ofDocument spec) docs

/-- The part of a list that begins behind `skip` items and has at most `limit` ones. -/
def cut (skip : UInt64) (limit : Option UInt64) (docs : List Document) : List Document :=
  let rest := docs.drop skip.toNat
  match limit with
  | none => rest
  | some limit => if limit = 0 then rest else rest.take limit.toNat

/-- Reads documents: selects, sorts, cuts and projects them in this order. -/
def find (s : Store) (name : String) (filter : Document) (options : FindOptions) :
    Except StoreError (List Document) := do
  let docs ← s.selected name filter
  let sorted ← arrange options.sort docs
  let page := cut options.skip options.limit sorted
  match options.projection with
  | none => return page
  | some projection => page.mapM (project · projection)

/-- Runs a pipeline over a collection. -/
def aggregate (s : Store) (name : String) (pipeline : List Document) :
    Except StoreError (List Document) :=
  runPipeline (s.documents name) pipeline

/-- The number of documents that meet a filter. -/
def countDocuments (s : Store) (name : String) (filter : Document) : Except StoreError Nat :=
  (s.selected name filter).map List.length

/-- The number of documents of a collection. -/
def size (s : Store) (name : String) : Nat := (s.documents name).length

end Store

end DocTable
