/-!
# Errors of a store
-/

namespace QuadTxn

/-- Why a store refuses a request. -/
inductive StoreError where
  /-- the request does not fit the state or the data -/
  | invalidOperation (reason : String)
  /-- a write, a commit or a rollback without a native transaction -/
  | notActive
  /-- a second native transaction on one session -/
  | alreadyActive
  /-- the storage layer failed -/
  | storage (reason : String)
  /-- a failure that was asked for -/
  | injected (what : String)
  deriving DecidableEq, Repr, Inhabited

/-- The text of an error. -/
def StoreError.message : StoreError → String
  | .invalidOperation reason => "Invalid operation: " ++ reason
  | .notActive => "No native transaction is active"
  | .alreadyActive => "A native transaction is already active"
  | .storage reason => "Storage error: " ++ reason
  | .injected what => "Injected fault: " ++ what

end QuadTxn
