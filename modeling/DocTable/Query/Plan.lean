/-
**Execution plans.**

A plan holds every read that a query makes, and is built without a store. A query without a pipeline
finds its rows and counts documents; one with a pipeline aggregates both.

* `explain`: the plan of a query.
-/

import DocTable.Query.Compile
import DocTable.Store.Basic

namespace DocTable

/-- How the rows are read. -/
inductive Strategy where
  | find (filter : Document) (options : FindOptions)
  | aggregate (pipeline : List Document)
deriving Repr

/-- How the matching documents are counted. -/
inductive CountPlan where
  | documents (filter : Document)
  | pipeline (stages : List Document)
deriving Repr

/-- The reads of a query. -/
structure ExecutionPlan where
  collection : String
  strategy : Strategy
  /-- Missing where every document matches. -/
  count : Option CountPlan
deriving Repr

/-- The field that a count pipeline writes its number to. -/
def countKey : String := "count"

/-- A bound of the page window as a stage has it. -/
def windowValue (n : UInt64) : Value :=
  .int64 (if n ≤ Query.largestWindow then n.toInt64 else Query.largestWindow.toInt64)

/-- The plan of a query without a pipeline. -/
def findPlan (q : Query) (matched : MatchPlan) : ExecutionPlan :=
  { collection := q.table
    strategy := .find matched.filter
      { sort := compileSort q.sort
        projection := some (planProjection q.fields)
        skip := q.offset
        limit := if q.limit = 0 then none else some q.limit }
    count := if matched.needsExactCount then some (.documents matched.filter) else none }

/-- The stages in front of the page window. -/
def matchStages (q : Query) (matched : MatchPlan) : List Document :=
  q.pipeline ++ [.single "$match" (.document matched.filter)]

/-- The stages that sort, cut and project what has matched. -/
def pageStages (q : Query) : List Document :=
  (compileSort q.sort).toList.map (fun spec => .single "$sort" (.document spec))
    ++ [.single "$skip" (windowValue q.offset)]
    ++ (if q.limit = 0 then [] else [.single "$limit" (windowValue q.limit)])
    ++ [.single "$project" (.document (planProjection q.fields))]

/-- The plan of a query with a pipeline. -/
def aggregatePlan (q : Query) (matched : MatchPlan) : ExecutionPlan :=
  { collection := q.table
    strategy := .aggregate (matchStages q matched ++ pageStages q)
    count :=
      if matched.needsExactCount then
        some (.pipeline (matchStages q matched ++ [.single "$count" (.string countKey)]))
      else none }

/-- The plan of a query. -/
def explain (q : Query) : ExecutionPlan :=
  if q.usesPipeline then aggregatePlan q (compileMatch q) else findPlan q (compileMatch q)

end DocTable
