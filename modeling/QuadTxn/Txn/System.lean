import QuadTxn.Txn.Connection.Lifecycle

/-!
# Systems of connections

Any number of connections work on one store under one coordinator. A call on a connection works on
that connection's part of the system, its frame; a commit is then announced to the others.

A call that nobody has opened a connection for finds a new one, of the weakest isolation that tracks
reads.
-/

namespace QuadTxn

/-- Connections over one store and one coordinator. -/
structure System (σ : Type) where
  /-- the store -/
  store : Store
  /-- the coordinator -/
  coordinator : Coordinator ConnectionId
  /-- the connections by name -/
  connections : SortedMap ConnectionId (Connection σ)

namespace System

variable {σ α : Type} [Backend σ]

/-- An empty store without connections. -/
def new : System σ := ⟨.new, .new, ∅⟩

/-- The connection of a name. -/
def connection (sys : System σ) (id : ConnectionId) : Connection σ :=
  (sys.connections.get? id).getD (.new id .snapshot)

/-- The part of the system that a call on a connection works on. -/
def frame (id : ConnectionId) (sys : System σ) : Frame σ :=
  ⟨sys.connection id, sys.store, sys.coordinator⟩

omit [Backend σ] in
/-- Put a connection's part of the system back. -/
def setFrame (id : ConnectionId) (st : Frame σ) (sys : System σ) : System σ :=
  { store := st.store
    coordinator := st.coordinator
    connections := sys.connections.insert id st.self }

/-- Make a call on a connection. -/
def on (id : ConnectionId) (call : Call σ α) : Action (System σ) α :=
  call.zoom (frame id) (setFrame id)

omit [Backend σ] in
/-- Announce a change set to the other connections and to the commit listeners. -/
def publish (change : ChangeSet) : Action (System σ) Unit :=
  modify fun sys =>
    let (coordinator, connections) := sys.coordinator.publish sys.connections change
    { sys with coordinator, connections }

/-- Begin a transaction of a connection. -/
def begin (id : ConnectionId) : Action (System σ) Unit := on id Connection.begin

/-- Commit the transaction of a connection and announce what it changed. -/
def commit (id : ConnectionId) : Action (System σ) Unit := do
  if let some change ← on id Connection.commit then publish change

/-- End the transaction of a connection without a commit. -/
def rollback (id : ConnectionId) : Action (System σ) Unit := on id Connection.rollback

omit [Backend σ] in
/-- Add a connection, in the place of one with the same name. -/
def connect (c : Connection σ) : Action (System σ) Unit :=
  modify fun sys => { sys with connections := sys.connections.insert c.id c }

/-- Take a connection out; its transaction ends without a commit. -/
def disconnect (id : ConnectionId) : Action (System σ) Unit := do
  let _ ← (rollback id).attempt
  modify fun sys => { sys with connections := sys.connections.erase id }

omit [Backend σ] in
/-- Change the store directly, outside all transactions. -/
def onStore (f : Store → Store) : Action (System σ) Unit :=
  modify fun sys => { sys with store := f sys.store }

omit [Backend σ] in
/-- Add a commit listener. -/
def watch : Action (System σ) Unit :=
  modify fun sys => { sys with coordinator := sys.coordinator.watch }

end System

end QuadTxn
