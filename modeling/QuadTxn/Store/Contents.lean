import QuadTxn.Data.SortedMap
import QuadTxn.Rdf.Model

/-!
# Contents of a store

A store holds statements and namespace bindings. A `Write` is one change of these; a list of writes
is applied in order (`Contents.replay`).
-/

namespace QuadTxn

/-- A label bound to a namespace IRI. -/
structure Namespace where
  /-- the label, such as `foaf` -/
  label : String
  /-- the namespace IRI -/
  name : String
  deriving DecidableEq, Repr, Inhabited

/-- The written form of a binding. -/
def Namespace.render (n : Namespace) : String := n.label ++ ": <" ++ n.name ++ ">"

/-- The namespace that each bound label stands for. -/
abbrev NamespaceTable := SortedMap String String

/-- The bindings of a table, in the order of their labels. -/
def NamespaceTable.bindings (t : NamespaceTable) : List Namespace :=
  t.entries.map fun e => ⟨e.1, e.2⟩

/-- What a store holds. -/
structure Contents where
  /-- the statements -/
  statements : Model
  /-- the namespace bindings -/
  namespaces : NamespaceTable
  deriving DecidableEq, Inhabited

/-- One change of a store. -/
inductive Write where
  /-- add a statement -/
  | add (s : Statement)
  /-- remove a statement -/
  | remove (s : Statement)
  /-- bind a label to a namespace -/
  | bind (label name : String)
  /-- remove the binding of a label -/
  | unbind (label : String)
  /-- remove every binding -/
  | unbindAll
  deriving DecidableEq, Repr, Inhabited

namespace Contents

/-- The contents after one write. -/
def apply (c : Contents) : Write → Contents
  | .add s => { c with statements := c.statements.insert s }
  | .remove s => { c with statements := c.statements.erase s }
  | .bind label name => { c with namespaces := c.namespaces.insert label name }
  | .unbind label => { c with namespaces := c.namespaces.erase label }
  | .unbindAll => { c with namespaces := ∅ }

/-- The contents after a list of writes, in order. -/
def replay (c : Contents) (ws : List Write) : Contents := ws.foldl apply c

@[simp] theorem replay_nil (c : Contents) : c.replay [] = c := rfl

@[simp] theorem replay_cons (c : Contents) (w : Write) (ws : List Write) :
    c.replay (w :: ws) = (c.apply w).replay ws := rfl

theorem replay_append (c : Contents) (ws ws' : List Write) :
    c.replay (ws ++ ws') = (c.replay ws).replay ws' := List.foldl_append

end Contents

end QuadTxn
