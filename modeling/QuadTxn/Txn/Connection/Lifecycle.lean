import QuadTxn.Txn.Connection.Writes

/-!
# The life of a transaction

A transaction begins, may be prepared, and ends by a commit or a rollback. A begin, a preparation or
a commit that fails has ended the transaction: there is nothing left to roll back.
-/

namespace QuadTxn.Connection

variable {σ : Type}

/-- Forget the transaction, give the gate back and release the slot. -/
def settle : Call σ Unit := do
  Call.update reset
  Call.release .exclusive
  Call.coordinate Coordinator.finish

variable [Backend σ]

/-- Roll the native transaction back if there is one, whether that works or not. -/
def discard : Call σ Unit := do
  if Backend.isActive (← Call.self).session then
    let _ ← (Call.native Backend.rollback).attempt

/-- End the transaction without a commit. -/
def abandon : Call σ Unit := do
  discard
  settle

/-- Run a step of the transaction that ends it if it fails. -/
def orAbandon {α : Type} (step : Call σ α) : Call σ α := do
  match ← step.attempt with
  | .ok a => return a
  | .error e =>
    abandon
    throw e

/-- Take the gate and start the native transaction. -/
def startDirect : Call σ Unit := do
  Call.acquireGate
  Call.native Backend.begin
  Call.update fun c => { c with phase := .direct }

/-- Begin a transaction. Unless writes are to be staged, it takes the gate and starts the native
transaction. -/
def begin : Call σ Unit := do
  let c ← Call.self
  if c.isActive then throw .alreadyActive
  Call.update fun c => { c.reset with phase := .staging, tracking := c.isolation.snapshot }
  Call.coordinate fun k id => k.begin id id
  if !c.isolation.readSnapshot then orAbandon startDirect

/-- Fail if the ledger holds what the isolation does not allow. -/
def checkLedger : Call σ Unit := do
  let c ← Call.self
  if c.isolation.serializable then
    if let some conflict := c.ledger.firstConflict? then throw (.conflict conflict)
  else if c.isolation.snapshot then
    if let some e := c.ledger.phantom? Read.affectedBy then throw e

/-- Take the gate unless it is held, check the ledger, write what is staged to the store and make
the native transaction ready for commit. -/
def tryPrepare : Call σ Unit := do
  let held := Call.holdsGate (← get)
  if !held then Call.acquireGate
  checkLedger
  if !(← isDirect) then Call.native Backend.begin
  flush
  Call.native Backend.prepare
  Call.update fun c => { c with phase := .prepared }

/-- Prepare the transaction for commit, unless none runs or it is prepared already. -/
def prepare : Call σ Unit := do
  match (← Call.self).phase with
  | .idle | .prepared => return
  | .staging | .direct => orAbandon tryPrepare

/-- End the transaction with a commit, and give what is to be published. If it would reach nobody,
the change set is empty. -/
def conclude : Call σ ChangeSet := do
  let st ← get
  let net := if st.coordinator.isWatched then st.self.net else ∅
  Call.coordinate Coordinator.markCommitted
  settle
  return ⟨st.self.id, net.added, net.removed⟩

/-- Commit the transaction, and give what is to be published; nothing happens if none runs. -/
def commit : Call σ (Option ChangeSet) := do
  if !(← Call.self).isActive then return none
  prepare
  orAbandon (Call.native Backend.commit)
  some <$> conclude

/-- End the transaction without a commit; nothing happens if none runs. If the native transaction
could not be rolled back at once, that is reported, but the transaction has ended. -/
def rollback : Call σ Unit := do
  let c ← Call.self
  if c.isActive then
    let r ← if Backend.isActive c.session then (Call.native Backend.rollback).attempt
      else pure (.ok ())
    abandon
    Action.ofExcept r

/-! ## Changes of isolation -/

/-- Turn a staging transaction into a direct one: take the gate, start the native transaction and
write all that is staged. If that fails the transaction goes on as before. -/
def switchToDirect : Call σ Unit := do
  if (← Call.self).phase = .prepared then throw (.isolationLocked "transaction is prepared")
  Call.acquireGate
  try Call.native Backend.begin
  catch e =>
    Call.release .exclusive
    throw e
  try flush
  catch e =>
    let _ ← (Call.native Backend.rollback).attempt
    Call.update fun c => { c with net := ∅ }
    Call.release .exclusive
    throw e
  Call.update fun c =>
    { c.unstage with
      phase := .direct
      isolation := { c.isolation with readSnapshot := false } }

/-- Choose between staged writes and direct ones. Inside a transaction only the change from staged
to direct is possible. -/
def setReadSnapshot (on : Bool) : Call σ Unit := do
  let c ← Call.self
  if !c.isActive then
    Call.update fun c => { c with isolation := { c.isolation with readSnapshot := on } }
  else
    match c.isolation.readSnapshot, on with
    | true, false => switchToDirect
    | false, true =>
      throw (.isolationLocked "cannot stage writes in a write-through transaction")
    | _, _ => return

omit [Backend σ] in
/-- Turn the tracking of reads on or off. Without it a connection is not serializable. -/
def setSnapshot (on : Bool) : Call σ Unit := do
  let c ← Call.self
  if c.isActive ∧ c.isolation.snapshot ≠ on then
    throw (.isolationLocked "snapshot tracking is fixed while a transaction runs")
  Call.update fun c =>
    { c with isolation :=
      { c.isolation with snapshot := on, serializable := on && c.isolation.serializable } }

omit [Backend σ] in
/-- Turn serializable isolation on or off. It comes with the tracking of reads. -/
def setSerializable (on : Bool) : Call σ Unit := do
  let c ← Call.self
  if c.isActive ∧ c.isolation.serializable ≠ on then
    throw (.isolationLocked "serializable is fixed while a transaction runs")
  Call.update fun c =>
    { c with isolation :=
      { c.isolation with serializable := on, snapshot := on || c.isolation.snapshot } }

omit [Backend σ] in
/-- Set all flags from a level. -/
def setIsolation (level : IsolationLevel) : Call σ Unit := do
  let c ← Call.self
  if c.isActive ∧ c.level ≠ level then
    throw (.isolationLocked ("cannot switch to " ++ level.name ++ " while a transaction runs"))
  Call.update fun c => { c with isolation := level.flags }

end QuadTxn.Connection
