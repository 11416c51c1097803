import QuadTxn.Store.Error
import QuadTxn.Text.Duration
import QuadTxn.Txn.Read

/-!
# Change sets, conflicts and errors

What a commit publishes, what makes it conflict with a read, and why a call on a connection fails.
-/

namespace QuadTxn

/-- The name that identifies a connection. -/
abbrev ConnectionId := String

/-- The net effect of one commit. -/
structure ChangeSet where
  /-- the connection that committed -/
  source : ConnectionId
  /-- the statements that are there since the commit -/
  added : Model
  /-- the statements that are gone since the commit -/
  removed : Model
  deriving DecidableEq, Inhabited

/-- Whether the commit changed no statement. -/
def ChangeSet.isEmpty (c : ChangeSet) : Bool := c.added.isEmpty && c.removed.isEmpty

/-- The side of a change set that affects a read. -/
inductive Direction where
  | added
  | removed
  deriving DecidableEq, Repr, Inhabited

/-- The word for a side of a change set. -/
def Direction.word : Direction → String
  | .added => "added"
  | .removed => "removed"

/-- A commit of another connection affects a read. -/
structure Conflict where
  /-- the connection that committed -/
  committer : ConnectionId
  /-- the read that is affected -/
  observed : Read
  /-- the side of the change set that affects it -/
  direction : Direction
  deriving DecidableEq, Inhabited

/-- The text of a conflict. -/
def Conflict.message (c : Conflict) : String :=
  "connection " ++ c.committer ++ " " ++ c.direction.word ++ " statements observed by `" ++
    c.observed.render ++ "`"

/-- Why a call on a connection fails. -/
inductive TxnError where
  /-- a commit of another connection affects a read of a serializable transaction -/
  | conflict (c : Conflict)
  /-- a read made after a conflicting commit depends on that commit -/
  | phantom (observed : Read) (cause : Conflict)
  /-- the store failed -/
  | storage (cause : StoreError)
  /-- a begin while a transaction runs -/
  | alreadyActive
  /-- a write while no transaction runs -/
  | notActive
  /-- a write after the transaction was prepared -/
  | prepared
  /-- a write of a malformed statement -/
  | invalidStatement (reason : String)
  /-- a change of isolation that has to wait for the end of the transaction -/
  | isolationLocked (reason : String)
  /-- the commit gate was not granted within the given number of milliseconds -/
  | lockTimeout (ms : Nat)
  /-- a configuration that cannot be used -/
  | config (reason : String)
  deriving DecidableEq, Inhabited

namespace TxnError

/-- Whether the transaction may be tried again because all that is wrong is a commit of another
connection. -/
def isConflict : TxnError → Bool
  | .conflict _ | .phantom .. => true
  | _ => false

/-- The conflict that the error reports, if it reports one. -/
def conflict? : TxnError → Option Conflict
  | .conflict c | .phantom _ c => some c
  | _ => none

/-- The text of an error. -/
def message : TxnError → String
  | .conflict c => "transaction conflict: " ++ c.message
  | .phantom r _ => "phantom read: `" ++ r.render ++ "` depends on a concurrent commit"
  | .storage e => "storage error: " ++ e.message
  | .alreadyActive => "transaction already active"
  | .notActive => "no active transaction"
  | .prepared => "transaction is prepared, no further writes accepted"
  | .invalidStatement reason => "invalid statement: " ++ reason
  | .isolationLocked reason => "isolation cannot change now: " ++ reason
  | .lockTimeout ms =>
    "timed out after " ++ Text.duration ms ++ " waiting for the exclusive lock"
  | .config reason => "invalid configuration: " ++ reason

/-- The text of what the error was caused by, where it names a cause. -/
def cause? : TxnError → Option String
  | .phantom _ c => some c.message
  | .storage e => some e.message
  | _ => none

end TxnError

end QuadTxn
