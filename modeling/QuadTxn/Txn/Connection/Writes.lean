import QuadTxn.Txn.Connection.Reads

/-!
# Writes of a connection

Writes need a running transaction that is not prepared. A staging transaction stages them, a direct
one does them in the native transaction of its session. Each written statement is told to the
listeners of the connection, one statement after the other.
-/

namespace QuadTxn.Connection

variable {σ : Type}

/-- Refuse a write unless a transaction runs that is not prepared. -/
def checkWritable : Call σ Unit := do
  match (← Call.self).phase with
  | .idle => throw .notActive
  | .prepared => throw .prepared
  | .staging | .direct => return

/-- Whether writes go to the store at once. -/
def isDirect : Call σ Bool := return (← Call.self).phase = .direct

/-- Report an event for every listener. -/
def notify (event : String → Event) : Call σ Unit :=
  Call.update fun c => { c with events := c.events ++ c.listeners.map event }

section Statements

variable [Backend σ]

/-- Add a statement in the native transaction, unless it is there. -/
def storeAdd (s : Statement) : Call σ Unit := do
  unless ← Call.native (Backend.contains s) do
    Call.native (Backend.add s)
    Call.update fun c => { c with net := c.net.recordAdd s }

/-- Remove a statement in the native transaction. -/
def storeRemove (s : Statement) : Call σ Unit := do
  if ← Call.native (Backend.remove s) then
    Call.update fun c => { c with net := c.net.recordRemove s }

/-- Add one statement. -/
def addOne (kind : BatchKind) (s : Statement) : Call σ Unit := do
  if ← isDirect then storeAdd s
  else
    Call.update fun c =>
      { c with staging := c.staging.add kind s, graphs := c.graphs.noteAdd s.graph }
  notify (.added · s)

/-- Remove one statement. -/
def removeOne (kind : BatchKind) (s : Statement) : Call σ Unit := do
  if ← isDirect then storeRemove s
  else
    Call.update fun c =>
      { c with staging := c.staging.remove kind s, graphs := c.graphs.noteRemove s.graph }
  notify (.removed · s)

/-- Add a triple to each of the given graphs (to the default graph if none are given). -/
def add (kind : BatchKind) (subject predicate object : Term) (graphs : List GraphName) :
    Call σ Unit := do
  if !subject.isResource then
    throw (.invalidStatement ("subject " ++ subject.render ++ " is a literal"))
  if !predicate.isIri then
    throw (.invalidStatement ("predicate " ++ predicate.render ++ " is not an IRI"))
  checkWritable
  let graphs := if graphs.isEmpty then [none] else graphs
  (graphs.map fun g => ⟨subject, predicate, object, g⟩).forM (addOne kind)

/-- Add a statement. -/
def addStatement (s : Statement) : Call σ Unit :=
  add .explicit s.subject s.predicate s.object [s.graph]

/-- Remove the statements that a pattern selects in the view, and say how many there were. Finding
them is a read of the transaction. -/
def remove (kind : BatchKind) (p : Pattern) : Call σ Nat := do
  checkWritable
  let selected ← tracked (.ofPattern p false) (view p false)
  selected.forM (removeOne kind)
  return selected.length

/-- Remove a statement, and say how many were removed. -/
def removeStatement (s : Statement) : Call σ Nat := remove .explicit (.exact s)

/-- Remove everything in the given graphs (in all if none are given), and say how much it was. -/
def clear (graphs : List GraphName) : Call σ Nat := remove .explicit (.within graphs)

end Statements

/-! ## Namespace bindings -/

variable [Backend σ]

/-- Write namespace bindings: by a change of the staged ones, or through the session. -/
def writeNamespaces (staged : NamespaceOverlay → NamespaceOverlay) (stored : SessionM σ Unit) :
    Call σ Unit := do
  checkWritable
  if ← isDirect then Call.native stored
  else Call.update fun c => { c with namespaces := staged c.namespaces }

/-- Bind a label to a namespace. -/
def bindLabel (label name : String) : Call σ Unit :=
  writeNamespaces (·.bind label name) (Backend.bindLabel label name)

/-- Remove the binding of a label. -/
def unbindLabel (label : String) : Call σ Unit :=
  writeNamespaces (·.unbind label) (Backend.unbindLabel label)

/-- Remove every binding. -/
def unbindAll : Call σ Unit := writeNamespaces (·.clear) Backend.unbindAll

/-- Write all that is staged through the session: the namespace bindings, then batch by batch the
removals before the additions. What is staged is kept. -/
def flush : Call σ Unit := do
  let c ← Call.self
  Call.native c.namespaces.flush
  c.staging.batches.forM fun b => do
    b.removes.toList.forM storeRemove
    b.adds.toList.forM storeAdd

end QuadTxn.Connection
