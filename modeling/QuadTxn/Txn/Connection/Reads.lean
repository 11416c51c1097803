import QuadTxn.Txn.Connection.Basic

/-!
# Reads of a connection

A read is answered from the view: what the session reads, with the staged writes on top. While a
transaction runs, a read holds the gate, shared unless the transaction has all of it, so that no
commit falls into it; and if the isolation asks for it, the read is registered in the ledger once it
has succeeded.
-/

namespace QuadTxn.Connection

variable {σ α : Type}

/-- Register a read if the isolation asks for it. -/
def observe (r : Read) : Call σ Unit :=
  Call.update fun c => if c.isolation.snapshot then { c with ledger := c.ledger.observe r } else c

/-- Answer inside a transaction, and register the read that the answer depends on. -/
def tracked (r : Read) (answer : Call σ α) : Call σ α := do
  let a ← if Call.holdsGate (← get) then answer else Call.shared answer
  observe r
  return a

/-- Answer, and if a transaction runs, register the read that the answer depends on. -/
def reading (r : Read) (answer : Call σ α) : Call σ α := do
  if (← Call.self).isActive then tracked r answer else answer

variable [Backend σ]

/-- The statements that a pattern selects in the view. -/
def view (p : Pattern) (inferred : Bool) : Call σ (List Statement) := do
  let c ← Call.self
  Call.native <| c.staging.onTopOf (fun p => Backend.statements p inferred) p

/-- The statements that a pattern selects. -/
def getStatements (p : Pattern) (inferred : Bool) : Call σ (List Statement) :=
  reading (.ofPattern p inferred) (view p inferred)

/-- Whether a pattern selects a statement. -/
def hasStatement (p : Pattern) (inferred : Bool) : Call σ Bool :=
  reading (.ofPattern p inferred) do
    return !(← view p inferred).isEmpty

/-- The number of statements in the given graphs (in all if none are given). -/
def size (graphs : List GraphName) : Call σ Nat :=
  reading (.ofGraphs graphs) do
    return (← view (.within graphs) false).length

/-- The named graphs that hold a statement, in order. -/
def graphNames : Call σ (List Term) :=
  reading (.ofGraphs []) do
    let c ← Call.self
    Call.native do
      let stored ← Backend.graphNames
      c.graphs.resolve stored fun g => do
        let found ← c.staging.onTopOf (fun p => Backend.statements p false) (.within [some g])
        return !found.isEmpty

/-- The solutions of a query. Nothing staged means that the session alone answers. -/
def evaluate (q : Query) (d : Dataset) (b : Bindings) (inferred : Bool) : Call σ (List Bindings) :=
  reading (.ofQuery q d b inferred) do
    let c ← Call.self
    let stored : Query.Source (SessionM σ) := fun p => Backend.statements p inferred
    if c.staging.hasChanges then
      Call.update fun c => { c with events := c.events ++ [.merged q] }
      Call.native <| Query.evaluate (c.staging.onTopOf stored) q d b
    else
      Call.native <| Query.evaluate stored q d b

/-! ## Namespace bindings

Namespace bindings are no part of what is tracked. -/

/-- The namespace bindings, in the order of their labels. -/
def getNamespaces : Call σ (List Namespace) := do
  let c ← Call.self
  let stored ← Call.native Backend.namespaces
  return c.namespaces.view stored

/-- The namespace of a label. -/
def namespaceOf (label : String) : Call σ (Option String) := do
  let c ← Call.self
  Call.native <| c.namespaces.lookup label Backend.namespaceOf

end QuadTxn.Connection
