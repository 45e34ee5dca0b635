/-
**Why a read of a store fails.**
-/

import DocTable.Condition.Parser
import DocTable.Value.Display

namespace DocTable

/-- What is wrong with a stage of a pipeline, a sort document or a projection. -/
inductive PipelineFault where
  | notOneKey
  | notADocument (stage : String)
  | notAnInteger (stage : String)
  | negativeCount (stage : String)
  | zeroLimit
  | noCountField
  | unsupportedStage (stage : String)
  | emptySort
  | badDirection (path : String) (direction : Value)
  | mixedProjection (path : String)
  | badProjection (spec : Value)
  /-- A fault in the words of a store. -/
  | reported (reason : String)
deriving Repr

/-- The wording of a fault. -/
def PipelineFault.message : PipelineFault → String
  | .notOneKey => "each stage must have exactly one key"
  | .notADocument stage => stage ++ " requires a document"
  | .notAnInteger stage => stage ++ " requires an integer"
  | .negativeCount stage => stage ++ " must not be negative"
  | .zeroLimit => "$limit must be positive"
  | .noCountField => "$count requires a non-empty field name"
  | .unsupportedStage stage => "unsupported stage: " ++ stage
  | .emptySort => "$sort must have at least one key"
  | .badDirection path direction =>
    "sort direction for " ++ path ++ " must be 1 or -1, got " ++ direction.display
  | .mixedProjection path =>
    "cannot mix inclusion and exclusion in projection (at " ++ path ++ ")"
  | .badProjection spec => "unsupported projection value: " ++ spec.display
  | .reported reason => reason

/-- Why a read of a store fails. -/
inductive StoreError where
  | invalidFilter (fault : FilterFault)
  | invalidPipeline (fault : PipelineFault)
  | unavailable (reason : String)
deriving Repr

/-- The wording of a failure. -/
def StoreError.message : StoreError → String
  | .invalidFilter fault => "invalid filter: " ++ fault.message
  | .invalidPipeline fault => "invalid pipeline: " ++ fault.message
  | .unavailable reason => "store unavailable: " ++ reason

end DocTable
