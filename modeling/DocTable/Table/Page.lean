/-
**Reading one page.**

The reads of a page start together, in the order rows, size, exact count. The first one that fails
ends the request, and the ones behind it are not made. A read that never answers holds the request
up until its time is over.

* `Source`: what the reads are made from, and how each of them ends;
* `Source.run`: the reads of a plan;
* `Source.execute`: a checked query within its time.
-/

import DocTable.Query.Plan
import DocTable.Table.Fault

namespace DocTable

/-- How a read ends. -/
inductive Reply (α : Type) where
  | answered (a : α)
  | failed (error : StoreError)
  /-- The read never ends. -/
  | hanging
deriving Repr

/-- The reply of a read that ends at once. -/
def Reply.ofExcept : Except StoreError α → Reply α
  | .ok a => .answered a
  | .error error => .failed error

/-- A read of a collection. -/
inductive Read where
  | find (filter : Document) (options : FindOptions)
  | aggregate (pipeline : List Document)
  | size
  | count (filter : Document)
deriving Repr

/-- A read and the collection that it is made from. -/
structure Call where
  collection : String
  read : Read
deriving Repr

/-- What answers the reads of a request. -/
structure Source where
  find : String → Document → FindOptions → Reply (List Document)
  aggregate : String → List Document → Reply (List Document)
  size : String → Reply Nat
  count : String → Document → Reply Nat

/-- The reads that a store answers. -/
def Store.source [Regex.Compiler] (s : Store) : Source where
  find name filter options := .ofExcept (s.find name filter options)
  aggregate name pipeline := .ofExcept (s.aggregate name pipeline)
  size name := .answered (s.size name)
  count name filter := .ofExcept (s.countDocuments name filter)

/-- The rows of a page and the counts beside them. -/
structure Page where
  rows : List Document
  /-- The size of the collection. -/
  total : Nat
  /-- The number of documents that match. -/
  filtered : Nat
deriving Repr

/-- How a request ends. -/
inductive Outcome (α : Type) where
  | done (a : α)
  | failed (error : TableError)
  /-- A read hangs and nothing limits its time. -/
  | waiting
deriving Repr

namespace Outcome

def map (f : α → β) : Outcome α → Outcome β
  | .done a => .done (f a)
  | .failed error => .failed error
  | .waiting => .waiting

end Outcome

/-- The number that a counting pipeline gave. No document means that nothing matched. -/
def countOfStage (d : Option Document) : Nat :=
  match d.bind (·.get? countKey) with
  | some (.int32 n) => n.toInt.toNat
  | some (.int64 n) => n.toInt.toNat
  | some (.double x) => (x.clamped 0 (2 ^ 64 - 1)).toNat
  | _ => 0

namespace Strategy

/-- The read of the rows. -/
def read : Strategy → Read
  | .find filter options => .find filter options
  | .aggregate pipeline => .aggregate pipeline

end Strategy

namespace CountPlan

/-- The read of the exact count. -/
def read : CountPlan → Read
  | .documents filter => .count filter
  | .pipeline stages => .aggregate stages

end CountPlan

namespace Reply

def map (f : α → β) : Reply α → Reply β
  | .answered a => .answered (f a)
  | .failed error => .failed error
  | .hanging => .hanging

end Reply

namespace Source

/-- The reply with the rows. -/
def rows (s : Source) (collection : String) : Strategy → Reply (List Document)
  | .find filter options => s.find collection filter options
  | .aggregate pipeline => s.aggregate collection pipeline

/-- The reply with the exact count. -/
def exactCount (s : Source) (collection : String) : CountPlan → Reply Nat
  | .documents filter => s.count collection filter
  | .pipeline stages => (s.aggregate collection stages).map fun docs => countOfStage docs.head?

/-- The page of replies, none of which failed. -/
def pageOf (rows : Reply (List Document)) (total : Reply Nat) (count : Option (Reply Nat)) :
    Outcome Page :=
  match rows, total, count with
  | .answered rows, .answered total, none => .done ⟨rows, total, total⟩
  | .answered rows, .answered total, some (.answered filtered) => .done ⟨rows, total, filtered⟩
  | _, _, _ => .waiting

/-- Makes the reads of a plan up to the first failure. -/
def run (s : Source) (plan : ExecutionPlan) : List Call × Outcome Page :=
  let call (read : Read) : Call := ⟨plan.collection, read⟩
  let first := [call plan.strategy.read]
  match s.rows plan.collection plan.strategy with
  | .failed error => (first, .failed (.store error))
  | rows =>
    let both := first ++ [call .size]
    match s.size plan.collection with
    | .failed error => (both, .failed (.store error))
    | total =>
      match plan.count with
      | none => (both, pageOf rows total none)
      | some count =>
        let all := both ++ [call count.read]
        match s.exactCount plan.collection count with
        | .failed error => (all, .failed (.countFailed error))
        | filtered => (all, pageOf rows total (some filtered))

/-- What is left of an outcome when its time is over. A limit of no time at all still lets reads
end that do not hang. -/
def withDeadline (timeoutMillis : Option UInt64) : Outcome Page → Outcome Page
  | .waiting => if timeoutMillis.isSome then .failed .deadlineExceeded else .waiting
  | outcome => outcome

/-- Runs a query and lists the calls that it made. The checks of the query come first; a request
that is cancelled by then makes no call. -/
def execute (s : Source) (timeoutMillis : Option UInt64) (cancelled : Bool) (q : Query) :
    List Call × Outcome Page :=
  match q.validate with
  | .error fault => ([], .failed (.invalidInput (.query fault)))
  | .ok () =>
    if cancelled then ([], .failed .cancelled)
    else
      let (calls, outcome) := s.run (explain q)
      (calls, withDeadline timeoutMillis outcome)

end Source

end DocTable
