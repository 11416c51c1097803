import QuadTxn.Txn.Coordinator
import QuadTxn.Txn.Isolation
import QuadTxn.Txn.Ledger
import QuadTxn.Txn.Outcome
import QuadTxn.Txn.Overlay.Graphs
import QuadTxn.Txn.Overlay.Namespaces
import QuadTxn.Txn.Staging

/-!
# Connections

A connection wraps a session and runs one transaction at a time:

* it is `idle` until a transaction begins;
* the writes of a `staging` transaction are staged, those of a `direct` one go to the store at once;
* a `prepared` transaction has all its writes in the native transaction of the session, and takes no
  more.

A transaction that is direct or prepared holds the commit gate and runs a native transaction.

A call on a connection can see and change a `Frame`: the connection itself, the store and the
coordinator, but no other connection.
-/

namespace QuadTxn

/-- How far the transaction of a connection is. -/
inductive Phase where
  /-- no transaction runs -/
  | idle
  /-- a transaction runs, and its writes are staged -/
  | staging
  /-- a transaction runs, and its writes go to the store at once -/
  | direct
  /-- a transaction is ready for commit -/
  | prepared
  deriving DecidableEq, Repr, Inhabited

/-- The statements that a transaction has added to and removed from its native transaction, on
balance. -/
structure NetChanges where
  /-- the statements that were missing and are there now -/
  added : Model
  /-- the statements that were there and are missing now -/
  removed : Model
  deriving DecidableEq, Inhabited

namespace NetChanges

/-- Nothing has changed. -/
def empty : NetChanges := ⟨∅, ∅⟩

instance : EmptyCollection NetChanges := ⟨empty⟩

/-- A missing statement was added: it was removed before, or it is new. -/
def recordAdd (n : NetChanges) (s : Statement) : NetChanges :=
  if s ∈ n.removed then { n with removed := n.removed.erase s }
  else { n with added := n.added.insert s }

/-- A present statement was removed: it was added before, or it is gone. -/
def recordRemove (n : NetChanges) (s : Statement) : NetChanges :=
  if s ∈ n.added then { n with added := n.added.erase s }
  else { n with removed := n.removed.insert s }

end NetChanges

/-- What a connection reports while it works. -/
inductive Event where
  /-- a listener was told that a statement was added -/
  | added (listener : String) (s : Statement)
  /-- a listener was told that a statement was removed -/
  | removed (listener : String) (s : Statement)
  /-- a query was answered from the store together with staged writes -/
  | merged (q : Query)
  deriving DecidableEq, Inhabited

/-- The text of an event: the listener, a sign and the statement, or the merged query. -/
def Event.render : Event → String
  | .added listener s => listener ++ " + " ++ s.render
  | .removed listener s => listener ++ " - " ++ s.render
  | .merged q => "merge " ++ q.render

/-- Whether the event reports a merged query. -/
def Event.isMerged : Event → Bool
  | .merged _ => true
  | .added .. | .removed .. => false

/-- A connection over sessions of type `σ`. -/
structure Connection (σ : Type) where
  /-- its name -/
  id : ConnectionId
  /-- the session with the store -/
  session : σ
  /-- the isolation flags -/
  isolation : Isolation
  /-- how far the transaction is -/
  phase : Phase
  /-- whether commits of other connections are checked against the ledger -/
  tracking : Bool
  /-- the tracked reads and the commits that affected them -/
  ledger : Ledger
  /-- the staged statements -/
  staging : Staging
  /-- the graphs that staged statements touch -/
  graphs : GraphOverlay
  /-- the staged namespace bindings -/
  namespaces : NamespaceOverlay
  /-- what has changed in the native transaction -/
  net : NetChanges
  /-- the listeners that are told of writes, each as often as it was registered -/
  listeners : List String
  /-- what was reported so far, in order -/
  events : List Event
  /-- for how many milliseconds a request for the whole gate waits, `none` for ever -/
  lockTimeout : Option Nat
  deriving Inhabited

/-- What a staging area holds: the number of batches, of additions and of removals. -/
structure Pending where
  /-- number of batches -/
  batches : Nat
  /-- number of statements to add -/
  adds : Nat
  /-- number of statements to remove -/
  removes : Nat
  deriving DecidableEq, Repr, Inhabited

/-- Whether nothing is to be added or removed. -/
def Pending.isEmpty (p : Pending) : Bool := p.adds = 0 && p.removes = 0

namespace Connection

variable {σ : Type}

/-- A connection that has run no transaction. -/
def new [Backend σ] (id : ConnectionId) (level : IsolationLevel) : Connection σ where
  id := id
  session := Backend.new
  isolation := level.flags
  phase := .idle
  tracking := false
  ledger := ∅
  staging := ∅
  graphs := ∅
  namespaces := ∅
  net := ∅
  listeners := []
  events := []
  lockTimeout := none

/-- Whether a transaction runs. -/
def isActive (c : Connection σ) : Bool := c.phase ≠ .idle

/-- The level that the isolation flags count as. -/
def level (c : Connection σ) : IsolationLevel := c.isolation.level

/-- What is staged. -/
def pending (c : Connection σ) : Pending :=
  ⟨c.staging.batches.length, c.staging.addCount, c.staging.removeCount⟩

/-- Number of commits of other connections that affected a tracked read. -/
def inconsistencies (c : Connection σ) : Nat := c.ledger.size

/-- The connection without anything of its transaction, except the session. -/
def reset (c : Connection σ) : Connection σ :=
  { c with
    phase := .idle
    tracking := false
    ledger := ∅
    staging := ∅
    graphs := ∅
    namespaces := ∅
    net := ∅ }

/-- Forget what is staged. -/
def unstage (c : Connection σ) : Connection σ :=
  { c with staging := ∅, graphs := ∅, namespaces := ∅ }

/-- Another connection has committed. -/
def noteCommit (change : ChangeSet) (c : Connection σ) : Connection σ :=
  if c.tracking then { c with ledger := (c.ledger.changed Read.affectedBy change).2 } else c

instance : Participant (Connection σ) where
  tracksReads c := c.tracking
  changed := noteCommit

/-- Register a listener of writes. -/
def listen (listener : String) (c : Connection σ) : Connection σ :=
  { c with listeners := c.listeners ++ [listener] }

/-- Take every registration of a listener back, and say whether there was one. -/
def unlisten (listener : String) (c : Connection σ) : Bool × Connection σ :=
  (c.listeners.contains listener, { c with listeners := c.listeners.filter (· ≠ listener) })

end Connection

/-- What a call on a connection can see and change. -/
structure Frame (σ : Type) where
  /-- the connection -/
  self : Connection σ
  /-- the store -/
  store : Store
  /-- the coordinator -/
  coordinator : Coordinator ConnectionId

/-- A call on a connection. -/
abbrev Call (σ : Type) := Action (Frame σ)

namespace Call

variable {σ α : Type}

/-- Look at the connection. -/
def self : Call σ (Connection σ) := return (← get).self

/-- Change the connection. -/
def update (f : Connection σ → Connection σ) : Call σ Unit :=
  modify fun st => { st with self := f st.self }

/-- Change the coordinator, given the name of the connection. -/
def coordinate (f : Coordinator ConnectionId → ConnectionId → Coordinator ConnectionId) :
    Call σ Unit :=
  modify fun st => { st with coordinator := f st.coordinator st.self.id }

/-- Let the session work on the store. -/
def native (m : SessionM σ α) : Call σ α := fun st =>
  match m (st.self.session, st.store) with
  | .ok a (session, store) => .ok a { st with self := { st.self with session }, store }
  | .error e (session, store) =>
    .error (.storage e) { st with self := { st.self with session }, store }

/-! ## The commit gate -/

/-- Whether the connection holds the whole gate. -/
def holdsGate (st : Frame σ) : Bool := st.coordinator.gate.writer = some st.self.id

/-- Give a hold of the gate back. -/
def release (mode : GateMode) : Call σ Unit :=
  coordinate fun c id => { c with gate := c.gate.release id mode }

/-- Take a hold of the gate as soon as the gate admits it. -/
def acquire (mode : GateMode) (timeout : Option Nat) : Call σ Unit := fun st =>
  let hold (st : Frame σ) : Frame σ :=
    { st with coordinator :=
      { st.coordinator with gate := st.coordinator.gate.hold st.self.id mode } }
  match st.coordinator.gate.request st.self.id mode timeout with
  | .granted _ => .ok () (hold st)
  | .timedOut ms => .error (.lockTimeout ms) st
  | .mustWait => .waits st mode fun st => .ok () (hold st)

/-- Take the whole gate, waiting for as long as the connection allows. -/
def acquireGate : Call σ Unit := do
  acquire .exclusive (← self).lockTimeout

/-- Run a call as one of the readers that share the gate. -/
def shared (m : Call σ α) : Call σ α := do
  acquire .shared none
  let r ← m.attempt
  release .shared
  Action.ofExcept r

end Call

end QuadTxn
