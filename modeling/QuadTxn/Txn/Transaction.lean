import QuadTxn.Txn.Retry
import QuadTxn.Txn.System

/-!
# Whole transactions

A piece of work is run inside a transaction that begins before it and is committed after it, or
rolled back if the work fails. After a conflict the work can be run again.

The work may be done on a larger state that contains a system (`HasSystem`), so that it can keep
account of what it does.
-/

namespace QuadTxn

/-- States of type `t` contain a system. -/
class HasSystem (t : Type) (σ : outParam Type) where
  /-- the system -/
  system : t → System σ
  /-- the state with its system replaced -/
  withSystem : System σ → t → t

instance (σ : Type) : HasSystem (System σ) σ where
  system sys := sys
  withSystem sys _ := sys

namespace System

variable {t σ α : Type} [Backend σ] [HasSystem t σ]

omit [Backend σ] in
/-- Make a call on the system that a state contains. -/
def inside (call : Action (System σ) α) : Action t α :=
  call.zoom HasSystem.system HasSystem.withSystem

/-- Run `body` inside a transaction of a connection: commit if it answers, end the transaction
without a commit if it fails. -/
def transaction (id : ConnectionId) (body : Action t α) : Action t α := do
  inside (begin id)
  match ← body.attempt with
  | .ok a =>
    inside (commit id)
    return a
  | .error e =>
    let _ ← (inside (rollback id) : Action t Unit).attempt
    throw e

/-- Run `body` inside a transaction, and again after a conflict, at most `retries` times. `body` is
given the number of its run. -/
def retrying (id : ConnectionId) (body : Nat → Action t α) (run : Nat) : Nat → Action t α
  | 0 => transaction id (body run)
  | retries + 1 => do
    match ← (transaction id (body run)).attempt with
    | .ok a => return a
    | .error e => if e.isConflict then retrying id body (run + 1) retries else throw e

/-- Run `body` inside a transaction, and again after a conflict as often as the policy allows. The
waits between the runs (`RetryPolicy.backoff`) change nothing in the state. -/
def transactionWithRetry (id : ConnectionId) (policy : RetryPolicy) (body : Nat → Action t α) :
    Action t α :=
  retrying id body 0 policy.maxRetries.toNat

end System

end QuadTxn
