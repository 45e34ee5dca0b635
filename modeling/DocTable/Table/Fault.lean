/-
**Why a request to a table fails.**

* `TableError.message`: the wording of a failure;
* `TableError.status`: its status as the answer to a request.
-/

import DocTable.Store.Fault
import DocTable.Table.Config

namespace DocTable

/-- What is wrong with the parameters of a request. -/
inductive InputFault where
  | notANumber (name raw : String)
  | tooLong (length bound : Nat)
  | wrongColumn (index : Nat) (name : String)
  | noSuchColumn (index : Nat)
  | invalidDirection (raw : String)
  | query (fault : QueryError)
deriving DecidableEq, Repr

/-- The wording of a fault. -/
def InputFault.message : InputFault → String
  | .notANumber name raw => name ++ " is not a non-negative integer: " ++ Text.quoted raw
  | .tooLong length bound =>
    "length " ++ toString length ++ " exceeds the maximum of " ++ toString bound
  | .wrongColumn index name => "column " ++ toString index ++ " is not " ++ Text.quoted name
  | .noSuchColumn index => "order column " ++ toString index ++ " is out of range"
  | .invalidDirection raw => "order direction must be asc or desc, got " ++ Text.quoted raw
  | .query fault => fault.message

/-- Why a request to a table fails. -/
inductive TableError where
  | invalidInput (fault : InputFault)
  | config (fault : ConfigFault)
  | store (error : StoreError)
  /-- The exact count failed after the rows were read. -/
  | countFailed (error : StoreError)
  | cancelled
  | deadlineExceeded
deriving Repr

namespace TableError

/-- The wording of a failure. -/
def message : TableError → String
  | .invalidInput fault => "invalid input: " ++ fault.message
  | .config fault => "invalid table config: " ++ fault.message
  | .store error => "store error: " ++ error.message
  | .countFailed error => "filtered count failed: " ++ error.message
  | .cancelled => "request cancelled"
  | .deadlineExceeded => "request deadline exceeded"

/-- The status of a failure that a store reports. -/
def storeStatus : StoreError → Nat
  | .unavailable _ => 502
  | .invalidFilter _ => 500
  | .invalidPipeline _ => 500

/-- The status of a failure as the answer to a request. -/
def status : TableError → Nat
  | .invalidInput _ => 400
  | .config _ => 500
  | .store error => storeStatus error
  | .countFailed error => storeStatus error
  | .cancelled => 503
  | .deadlineExceeded => 504

end TableError

end DocTable
