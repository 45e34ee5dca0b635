/-
**The history of a store.**

A store that began empty is asked to insert, to drop and to read, in any order. What it holds afterwards
can be told from what it was asked: in each collection the documents inserted since it was last
dropped, in their order.

* `Operation`, `Store.perform`, `Store.after`: what a store is asked, and runs of it;
* `batches`, `batches_append`: what a run inserts into a collection behind its last drop;
* `StoredAs`, `forall₂_identify`: a document and what is stored of it;
* `Store.collection?_insertMany_self` and its siblings: what a write does to the collections;
* `HeldAs.append`, `Store.Reflects.perform`: one operation more in a history;
* `reflects_after`: a whole run;
* `reads_after_run`: what is read from a store after any run.
-/

import DocTable.Proofs.Document
import DocTable.Regex.Room
import DocTable.Store.Basic
import Mathlib.Data.List.Basic
import Mathlib.Data.List.Forall2
import Mathlib.Data.List.Induction

namespace DocTable

/-! ### Operations -/

/-- What a store is asked to do. -/
inductive Operation where
  | insertMany (name : String) (docs : List Document)
  | insertOne (name : String) (d : Document)
  | drop (name : String)
  | find (name : String) (filter : Document) (options : FindOptions)
  | aggregate (name : String) (pipeline : List Document)
  | count (name : String) (filter : Document)
  | size (name : String)
  | names

/-- What a store answers. -/
inductive Answer where
  | inserted (count : Nat)
  | done
  | dropped (existed : Bool)
  | documents (result : Except StoreError (List Document))
  | number (result : Except StoreError Nat)
  | names (names : List String)

/-- Does what is asked, and answers. A read that fails is an answer too. -/
def Store.perform [Regex.Compiler] (s : Store) : Operation → Store × Answer
  | .insertMany name docs => (s.insertMany name docs, .inserted docs.length)
  | .insertOne name d => (s.insertOne name d, .done)
  | .drop name => let (left, existed) := s.drop name; (left, .dropped existed)
  | .find name filter options => (s, .documents (s.find name filter options))
  | .aggregate name pipeline => (s, .documents (s.aggregate name pipeline))
  | .count name filter => (s, .number (s.countDocuments name filter))
  | .size name => (s, .number (.ok (s.size name)))
  | .names => (s, .names s.names)

/-- The store behind a run of operations. -/
def Store.after [Regex.Compiler] (s : Store) (run : List Operation) : Store :=
  run.foldl (fun s operation => (s.perform operation).1) s

namespace Operation

/-- The documents that an operation inserts into a collection, if it inserts into it at all. -/
def batch? (name : String) : Operation → Option (List Document)
  | .insertMany other docs => if other = name then some docs else none
  | .insertOne other d => if other = name then some [d] else none
  | _ => none

/-- Whether an operation drops a collection. -/
def drops (name : String) : Operation → Bool
  | .drop other => other = name
  | _ => false

/-- The collection that an operation writes to. Reads write to none. -/
def written? : Operation → Option String
  | .insertMany name _ => some name
  | .insertOne name _ => some name
  | .drop name => some name
  | _ => none

end Operation

/-- The batches that a run inserts into a collection behind the last drop of it. -/
def batches (name : String) (run : List Operation) : List (List Document) :=
  (run.reverse.takeWhile (!·.drops name)).reverse.filterMap (·.batch? name)

/-- One operation more ends the batches or adds its own one. -/
theorem batches_append (name : String) (run : List Operation) (operation : Operation) :
    batches name (run ++ [operation]) =
      if operation.drops name then [] else batches name run ++ (operation.batch? name).toList := by
  unfold batches
  rw [List.reverse_append, List.reverse_singleton, List.singleton_append, List.takeWhile_cons]
  by_cases dropped : operation.drops name
  · rw [dropped]
    rfl
  · rw [Bool.not_eq_true] at dropped
    rw [dropped, Bool.not_false, if_pos rfl, if_neg Bool.false_ne_true, List.reverse_cons,
      List.filterMap_append]
    congr 1

/-! ### Stored documents -/

/-- How a document is stored: as it is, or with an identifier behind its other entries if it has
none. -/
def StoredAs (d stored : Document) : Prop :=
  if d.contains idKey then stored = d else ∃ id, stored = d ++ [(idKey, .objectId id)]

/-- Every document of a batch is stored, in its place. -/
theorem forall₂_identify (id : ObjectId) (docs : List Document) :
    List.Forall₂ StoredAs docs (Store.identify id docs).1 := by
  induction docs generalizing id with
  | nil => exact .nil
  | cons d rest ih =>
    unfold Store.identify
    by_cases known : d.contains idKey
    · rw [if_pos known]
      exact .cons (by rw [StoredAs, if_pos known]) (ih id)
    · rw [if_neg known]
      refine .cons ?_ (ih id.next)
      rw [StoredAs, if_neg known]
      exact ⟨id, Document.insert_of_not_contains known _⟩

/-- A stored document has an identifier. -/
theorem StoredAs.contains {d stored : Document} (as : StoredAs d stored) :
    stored.contains idKey = true := by
  unfold StoredAs at as
  split at as
  · next known =>
    rw [as]
    exact known
  · next unknown =>
    obtain ⟨id, rfl⟩ := as
    rw [← Document.insert_of_not_contains unknown, Document.contains, Document.get?_insert_self]
    rfl

theorem contains_of_stored {docs stored : List Document} (as : List.Forall₂ StoredAs docs stored) :
    ∀ d ∈ stored, d.contains idKey = true := by
  induction as with
  | nil => exact fun _ member => nomatch member
  | cons first _ ih => exact List.forall_mem_cons.mpr ⟨first.contains, ih⟩

/-! ### Writes -/

namespace Store

variable {name other : String} {docs : List Document}

/-- Setting a collection puts it behind entries of other names, in the place of its old entry if it has
one. -/
theorem exists_put (name : String) (docs : List Document)
    (collections : List (String × List Document)) :
    ∃ front back, (∀ entry ∈ front, entry.1 ≠ name) ∧
      put name docs collections = front ++ (name, docs) :: back ∧
      (collections = front ++ back ∨ ∃ old, collections = front ++ (name, old) :: back) := by
  induction collections with
  | nil => exact ⟨[], [], List.forall_mem_nil _, rfl, Or.inl rfl⟩
  | cons entry rest ih =>
    obtain ⟨first, old⟩ := entry
    unfold put
    split
    · next here => exact ⟨[], rest, List.forall_mem_nil _, rfl, Or.inr ⟨old, here ▸ rfl⟩⟩
    · next apart =>
      split
      · exact ⟨[], (first, old) :: rest, List.forall_mem_nil _, rfl, Or.inl rfl⟩
      · obtain ⟨front, back, passed, set, was⟩ := ih
        exact ⟨(first, old) :: front, back, List.forall_mem_cons.mpr ⟨apart, passed⟩,
          congrArg _ set, was.imp (congrArg _) (Exists.imp fun _ => congrArg _)⟩

theorem find?_put_self (collections : List (String × List Document)) :
    (put name docs collections).find? (·.1 == name) = some (name, docs) := by
  obtain ⟨front, back, passed, set, _⟩ := exists_put name docs collections
  have none : front.find? (·.1 == name) = none := List.find?_eq_none.mpr (by simpa using passed)
  rw [set, List.find?_append, none, Option.none_or, List.find?_cons_of_pos (by simp)]

theorem find?_put_of_ne (distinct : name ≠ other) (collections : List (String × List Document)) :
    (put name docs collections).find? (·.1 == other) = collections.find? (·.1 == other) := by
  have passed (docs : List Document) (rest : List (String × List Document)) :
      ((name, docs) :: rest).find? (·.1 == other) = rest.find? (·.1 == other) :=
    List.find?_cons_of_neg (by simpa using distinct)
  obtain ⟨front, back, _, set, rfl | ⟨old, rfl⟩⟩ := exists_put name docs collections
  · rw [set, List.find?_append, List.find?_append, passed]
  · rw [set, List.find?_append, List.find?_append, passed, passed]

theorem mem_names_put (collections : List (String × List Document)) :
    other ∈ (put name docs collections).map Prod.fst ↔
      other = name ∨ other ∈ collections.map Prod.fst := by
  obtain ⟨front, back, _, set, rfl | ⟨old, rfl⟩⟩ := exists_put name docs collections
  · simp only [set, List.map_append, List.map_cons, List.mem_append, List.mem_cons, or_left_comm]
  · simp only [set, List.map_append, List.map_cons, List.mem_append, List.mem_cons]
    tauto

/-- Setting a collection keeps the names in order. -/
theorem pairwise_put {collections : List (String × List Document)}
    (ascending : (collections.map Prod.fst).Pairwise (· < ·)) :
    ((put name docs collections).map Prod.fst).Pairwise (· < ·) := by
  induction collections with
  | nil => exact List.pairwise_singleton _ _
  | cons entry rest ih =>
    obtain ⟨first, old⟩ := entry
    obtain ⟨behind, later⟩ := List.pairwise_cons.mp ascending
    unfold put
    split
    · next here => exact here ▸ ascending
    · next apart =>
      split
      · next before =>
        refine List.pairwise_cons.mpr ⟨fun one member => ?_, ascending⟩
        rcases List.mem_cons.mp member with rfl | inside
        · exact before
        · exact String.lt_trans before (behind one inside)
      · next notBefore =>
        refine List.pairwise_cons.mpr ⟨fun one member => ?_, ih later⟩
        rcases (mem_names_put rest).mp member with rfl | inside
        · exact String.not_le.mp fun le => apart (String.le_antisymm (String.not_lt.mp notBefore) le)
        · exact behind one inside

variable (s : Store)

/-- Inserting appends to what a collection has. -/
theorem collection?_insertMany_self :
    (s.insertMany name docs).collection? name =
      some ((s.collection? name).getD [] ++ (identify s.nextId docs).1) := by
  show ((put name _ s.collections).find? (·.1 == name)).map (·.2) = _
  rw [find?_put_self]
  rfl

theorem collection?_insertMany_of_ne (distinct : name ≠ other) :
    (s.insertMany name docs).collection? other = s.collection? other := by
  show ((put name _ s.collections).find? (·.1 == other)).map (·.2) = _
  rw [find?_put_of_ne distinct]
  rfl

/-- A dropped collection is not there. -/
theorem collection?_drop_self : (s.drop name).1.collection? name = none := by
  show ((s.collections.filter (·.1 ≠ name)).find? (·.1 == name)).map (·.2) = none
  rw [List.find?_filter, List.find?_eq_none.mpr fun entry _ => by simp]
  rfl

theorem collection?_drop_of_ne (distinct : name ≠ other) :
    (s.drop name).1.collection? other = s.collection? other := by
  show ((s.collections.filter (·.1 ≠ name)).find? (·.1 == other)).map (·.2) = _
  rw [List.find?_filter]
  unfold collection?
  congr 2
  funext entry
  by_cases here : entry.1 = other
  · simp [here, distinct.symm]
  · simp [here]

/-- The names of a store are those of its collections. -/
theorem mem_names : other ∈ s.names ↔ (s.collection? other).isSome := by
  unfold names collection?
  rw [Option.isSome_map, List.find?_isSome, List.mem_map]
  simp only [beq_iff_eq]

end Store

/-! ### One operation -/

/-- How a collection is held that batches were inserted into: not at all if there was none, else with
their documents in order. -/
def HeldAs (inserted : List (List Document)) : Option (List Document) → Prop
  | none => inserted = []
  | some docs => inserted ≠ [] ∧ List.Forall₂ StoredAs inserted.flatten docs

/-- A collection is there if there was a batch, be it an empty one. -/
theorem HeldAs.isSome_iff {inserted : List (List Document)} {held : Option (List Document)}
    (as : HeldAs inserted held) : held.isSome ↔ inserted ≠ [] := by
  cases held with
  | none => exact iff_of_false Bool.false_ne_true (not_not_intro as)
  | some docs => exact iff_of_true rfl as.1

/-- The documents of a collection are those of its batches. -/
theorem HeldAs.stored {inserted : List (List Document)} {held : Option (List Document)}
    (as : HeldAs inserted held) : List.Forall₂ StoredAs inserted.flatten (held.getD []) := by
  cases held with
  | none =>
    rw [show inserted = [] from as]
    exact .nil
  | some docs => exact as.2

/-- **A batch more.** -/
theorem HeldAs.append {inserted : List (List Document)} {held : Option (List Document)}
    (as : HeldAs inserted held) {docs identified : List Document}
    (stored : List.Forall₂ StoredAs docs identified) :
    HeldAs (inserted ++ [docs]) (some (held.getD [] ++ identified)) := by
  refine ⟨List.append_ne_nil_of_right_ne_nil _ (List.cons_ne_nil _ _), ?_⟩
  rw [List.flatten_append, List.flatten_singleton]
  exact List.rel_append as.stored stored

/-- **A store reflects a run** if its names ascend and each collection holds what the run has inserted
into it. -/
structure Store.Reflects (s : Store) (run : List Operation) : Prop where
  ascending : s.names.Pairwise (· < ·)
  held : ∀ name, HeldAs (batches name run) (s.collection? name)

/-- What is not written to stays as it is. -/
theorem Store.collection?_perform [Regex.Compiler] (s : Store) {operation : Operation} {name : String}
    (apart : operation.written? ≠ some name) :
    (s.perform operation).1.collection? name = s.collection? name := by
  cases operation with
  | insertMany other docs =>
    exact s.collection?_insertMany_of_ne fun same => apart (congrArg some same)
  | insertOne other d =>
    exact s.collection?_insertMany_of_ne fun same => apart (congrArg some same)
  | drop other => exact s.collection?_drop_of_ne fun same => apart (congrArg some same)
  | _ => rfl

/-- What is not written to has the batches that it had. -/
theorem batches_append_of_ne {operation : Operation} {name : String}
    (apart : operation.written? ≠ some name) (run : List Operation) :
    batches name (run ++ [operation]) = batches name run := by
  have neither : operation.drops name = false ∧ operation.batch? name = none := by
    cases operation with
    | insertMany other docs => exact ⟨rfl, if_neg fun same => apart (congrArg some same)⟩
    | insertOne other d => exact ⟨rfl, if_neg fun same => apart (congrArg some same)⟩
    | drop other => exact ⟨decide_eq_false fun same => apart (congrArg some same), rfl⟩
    | _ => exact ⟨rfl, rfl⟩
  rw [batches_append, neither.1, neither.2, if_neg Bool.false_ne_true, Option.toList_none,
    List.append_nil]

namespace Store.Reflects

variable [Regex.Compiler] {s : Store} {run : List Operation}

/-- What an operation makes of the collection that it writes to, if the names still ascend, is all that
there is to look at. -/
theorem of_written (reflects : s.Reflects run) {operation : Operation}
    (ascending : (s.perform operation).1.names.Pairwise (· < ·))
    (written : ∀ name, operation.written? = some name →
      HeldAs (batches name (run ++ [operation])) ((s.perform operation).1.collection? name)) :
    (s.perform operation).1.Reflects (run ++ [operation]) := by
  refine ⟨ascending, fun name => ?_⟩
  by_cases here : operation.written? = some name
  · exact written name here
  · rw [batches_append_of_ne here, s.collection?_perform here]
    exact reflects.held name

/-- An operation that inserts a batch is reflected: the collection holds it behind what it held. -/
theorem of_inserted (reflects : s.Reflects run) {operation : Operation} {name : String}
    {docs : List Document} (acts : (s.perform operation).1 = s.insertMany name docs)
    (written : operation.written? = some name) (kept : operation.drops name = false)
    (batch : operation.batch? name = some docs) :
    (s.perform operation).1.Reflects (run ++ [operation]) := by
  refine reflects.of_written ?_ fun other same => ?_
  · rw [acts]
    exact pairwise_put reflects.ascending
  · obtain rfl : name = other := Option.some.inj (written.symm.trans same)
    rw [acts, s.collection?_insertMany_self, batches_append, kept, batch,
      if_neg Bool.false_ne_true, Option.toList_some]
    exact (reflects.held name).append (forall₂_identify s.nextId docs)

/-- An operation that drops a collection is reflected: nothing is held. -/
theorem of_dropped (reflects : s.Reflects run) (name : String) :
    (s.perform (.drop name)).1.Reflects (run ++ [.drop name]) := by
  refine reflects.of_written ?_ fun other same => ?_
  · have fewer : (s.drop name).1.names.Sublist s.names := List.filter_sublist.map _
    exact reflects.ascending.sublist fewer
  · obtain rfl : name = other := Option.some.inj same
    have dropped : (Operation.drop name).drops name = true := decide_eq_true rfl
    rw [batches_append, if_pos dropped]
    exact s.collection?_drop_self ▸ rfl

/-- **One operation** is reflected. -/
theorem perform (reflects : s.Reflects run) (operation : Operation) :
    (s.perform operation).1.Reflects (run ++ [operation]) := by
  cases operation with
  | insertMany name docs => exact reflects.of_inserted rfl rfl rfl (if_pos rfl)
  | insertOne name d => exact reflects.of_inserted rfl rfl rfl (if_pos rfl)
  | drop name => exact reflects.of_dropped name
  | _ => exact reflects.of_written reflects.ascending fun _ none => nomatch none

end Store.Reflects

/-! ### Runs -/

/-- **Any run** is reflected by the store behind it, whatever operation it ends with. -/
theorem reflects_after [Regex.Compiler] (firstId : ObjectId) (run : List Operation) :
    ((Store.empty firstId).after run).Reflects run := by
  induction run using List.reverseRecOn with
  | nil => exact ⟨.nil, fun _ => rfl⟩
  | append_singleton run operation ih =>
    unfold Store.after
    rw [List.foldl_append]
    exact ih.perform operation

/-! ### Reads -/

namespace Store

variable [Regex.Compiler] (s : Store) (name : String)

/-- The empty filter selects everything. -/
theorem selected_nil : s.selected name [] = .ok (s.documents name) :=
  congrArg Except.ok (List.filter_true (s.documents name))

/-- An unbounded read with the empty filter gives a collection as it is. -/
theorem find_unbounded : s.find name [] .unbounded = .ok (s.documents name) := by
  unfold find
  rw [selected_nil]
  rfl

theorem countDocuments_nil : s.countDocuments name [] = .ok (s.size name) := by
  unfold countDocuments
  rw [selected_nil]
  rfl

end Store

/-- **What is read after a run.** A store that began empty and has done what it was asked, in whatever
order and whether or not its reads failed, gives for each collection the documents inserted since
the last drop of it, in order and each with an identifier; counts them; names in ascending order
the collections inserted into since; and no read, nor a write to another collection, changes one. -/
theorem reads_after_run [Regex.Compiler] (firstId : ObjectId) (run : List Operation) (name : String) :
    let s := (Store.empty firstId).after run
    let inserted := (batches name run).flatten
    (∃ stored, s.perform (.find name [] .unbounded) = (s, .documents (.ok stored)) ∧
      List.Forall₂ StoredAs inserted stored ∧ ∀ d ∈ stored, d.contains idKey = true) ∧
    s.perform (.size name) = (s, .number (.ok inserted.length)) ∧
    s.perform (.count name []) = (s, .number (.ok inserted.length)) ∧
    (∃ names, s.perform .names = (s, .names names) ∧ names.Pairwise (· < ·) ∧
      ∀ other, other ∈ names ↔ batches other run ≠ []) ∧
    ∀ operation, operation.written? ≠ some name →
      (s.perform operation).1.collection? name = s.collection? name := by
  intro s inserted
  have reflects : s.Reflects run := reflects_after firstId run
  have stored : List.Forall₂ StoredAs inserted (s.documents name) := (reflects.held name).stored
  have size : s.size name = inserted.length := stored.length_eq.symm
  refine ⟨⟨s.documents name, ?_, stored, fun d member => ?_⟩, ?_, ?_,
    ⟨s.names, rfl, reflects.ascending, fun other => ?_⟩, fun operation => s.collection?_perform⟩
  · rw [Store.perform, Store.find_unbounded]
  · exact contains_of_stored stored d member
  · rw [Store.perform, size]
  · rw [Store.perform, Store.countDocuments_nil, size]
  · rw [Store.mem_names, (reflects.held other).isSome_iff]

/-- Two people inserted behind the last drop of theirs, one with an identifier, beside a read that
fails and a collection that an empty batch has made. -/
theorem reads_after_run_people :
    let ada : Document := [("name", .string "Ada")]
    let bob : Document := [("_id", .int32 7), ("name", .string "Bob")]
    let wrong : Document := [("name", .document [("$near", .int32 1)])]
    let run : List Operation := [.insertMany "people" [bob, ada], .insertMany "places" [],
      .find "people" wrong .unbounded, .drop "people", .insertOne "people" ada,
      .drop "planets", .insertMany "people" [bob]]
    let s := (Store.empty ⟨1⟩).after run
    ((s.perform (.find "people" wrong .unbounded)).2 matches .documents (.error _)) ∧
    (∃ stored, s.perform (.find "people" [] .unbounded) = (s, .documents (.ok stored)) ∧
      List.Forall₂ StoredAs [ada, bob] stored) ∧
    s.perform (.count "people" []) = (s, .number (.ok 2)) ∧
    (∃ names, s.perform .names = (s, .names names) ∧ "people" ∈ names ∧ "places" ∈ names ∧
      "planets" ∉ names) ∧
    (Operation.drop "places").written? ≠ some "people" ∧
      (s.perform (.drop "places")).1.collection? "people" = s.collection? "people" := by
  intro ada bob wrong run s
  obtain ⟨⟨stored, found, as, -⟩, -, count, ⟨names, named, -, members⟩, kept⟩ :=
    reads_after_run ⟨1⟩ run "people"
  have apart : (Operation.drop "places").written? ≠ some "people" := by decide
  exact ⟨rfl, ⟨stored, found, as⟩, count, ⟨names, named, (members "people").mpr nofun,
    (members "places").mpr nofun, fun inside => (members "planets").mp inside rfl⟩, apart,
    kept _ apart⟩

end DocTable
