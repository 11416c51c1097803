import QuadTxn.Txn.System

/-!
# Requests

Every call that can be made on a connection, as a value, with what it answers. A history of a system
is then a list of requests (`System.handle` makes one).
-/

namespace QuadTxn

/-- A call on a connection. -/
inductive Request where
  /-- begin a transaction -/
  | begin
  /-- prepare the transaction for commit -/
  | prepare
  /-- commit the transaction -/
  | commit
  /-- end the transaction without a commit -/
  | rollback
  /-- add a triple to graphs -/
  | add (kind : BatchKind) (subject predicate object : Term) (graphs : List GraphName)
  /-- add a statement -/
  | addStatement (s : Statement)
  /-- remove what a pattern selects -/
  | remove (kind : BatchKind) (p : Pattern)
  /-- remove a statement -/
  | removeStatement (s : Statement)
  /-- remove everything in the given graphs -/
  | clear (graphs : List GraphName)
  /-- bind a label to a namespace -/
  | bindLabel (label name : String)
  /-- remove the binding of a label -/
  | unbindLabel (label : String)
  /-- remove every binding -/
  | unbindAll
  /-- list the statements that a pattern selects -/
  | getStatements (p : Pattern) (inferred : Bool)
  /-- ask whether a pattern selects a statement -/
  | hasStatement (p : Pattern) (inferred : Bool)
  /-- solve a query -/
  | evaluate (q : Query) (d : Dataset) (b : Bindings) (inferred : Bool)
  /-- count the statements of graphs -/
  | size (graphs : List GraphName)
  /-- list the named graphs -/
  | graphNames
  /-- list the namespace bindings -/
  | getNamespaces
  /-- look a label up -/
  | namespaceOf (label : String)
  /-- choose between staged and direct writes -/
  | setReadSnapshot (on : Bool)
  /-- turn the tracking of reads on or off -/
  | setSnapshot (on : Bool)
  /-- turn serializable isolation on or off -/
  | setSerializable (on : Bool)
  /-- set the isolation from a level -/
  | setIsolation (level : IsolationLevel)
  /-- register a listener of writes -/
  | listen (listener : String)
  /-- take the registrations of a listener back -/
  | unlisten (listener : String)
  deriving Inhabited

/-- What a call on a connection answers. -/
inductive Answer where
  /-- nothing -/
  | none
  /-- a truth value -/
  | truth (b : Bool)
  /-- a number -/
  | count (n : Nat)
  /-- statements -/
  | statements (l : List Statement)
  /-- solutions of a query -/
  | solutions (l : List Bindings)
  /-- named graphs -/
  | graphs (l : List Term)
  /-- namespace bindings -/
  | namespaces (l : List Namespace)
  /-- the namespace of a label, if it has one -/
  | namespaceName (name : Option String)
  deriving DecidableEq, Inhabited

namespace System

variable {σ : Type} [Backend σ]

/-- Make the call that a request asks for. -/
def handle (id : ConnectionId) : Request → Action (System σ) Answer
  | .begin => do begin id; return .none
  | .prepare => do on id Connection.prepare; return .none
  | .commit => do commit id; return .none
  | .rollback => do rollback id; return .none
  | .add kind s p o graphs => do on id (Connection.add kind s p o graphs); return .none
  | .addStatement s => do on id (Connection.addStatement s); return .none
  | .remove kind p => .count <$> on id (Connection.remove kind p)
  | .removeStatement s => .count <$> on id (Connection.removeStatement s)
  | .clear graphs => .count <$> on id (Connection.clear graphs)
  | .bindLabel label name => do on id (Connection.bindLabel label name); return .none
  | .unbindLabel label => do on id (Connection.unbindLabel label); return .none
  | .unbindAll => do on id Connection.unbindAll; return .none
  | .getStatements p inferred => .statements <$> on id (Connection.getStatements p inferred)
  | .hasStatement p inferred => .truth <$> on id (Connection.hasStatement p inferred)
  | .evaluate q d b inferred => .solutions <$> on id (Connection.evaluate q d b inferred)
  | .size graphs => .count <$> on id (Connection.size graphs)
  | .graphNames => .graphs <$> on id Connection.graphNames
  | .getNamespaces => .namespaces <$> on id Connection.getNamespaces
  | .namespaceOf label => .namespaceName <$> on id (Connection.namespaceOf label)
  | .setReadSnapshot b => do on id (Connection.setReadSnapshot b); return .none
  | .setSnapshot b => do on id (Connection.setSnapshot b); return .none
  | .setSerializable b => do on id (Connection.setSerializable b); return .none
  | .setIsolation level => do on id (Connection.setIsolation level); return .none
  | .listen listener => do on id (Call.update (Connection.listen listener)); return .none
  | .unlisten listener => .truth <$> on id do
      let (found, c) := (← Call.self).unlisten listener
      Call.update fun _ => c
      return found

end System

end QuadTxn
