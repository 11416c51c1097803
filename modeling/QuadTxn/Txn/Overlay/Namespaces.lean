import QuadTxn.Store.Backend

/-!
# Staged namespace bindings

The order in which bindings were set, removed and cleared is not kept, only their joint effect:
whether everything was cleared, which labels are to be removed, and which are to be bound. The
effect is applied in that order.
-/

namespace QuadTxn

/-- The namespace bindings that a transaction has staged. -/
structure NamespaceOverlay where
  /-- whether the bindings of the store no longer count -/
  cleared : Bool
  /-- the labels to bind -/
  bound : NamespaceTable
  /-- the labels to unbind -/
  unbound : SortedSet String
  deriving DecidableEq, Inhabited

namespace NamespaceOverlay

/-- Nothing is staged. -/
def empty : NamespaceOverlay := ⟨false, ∅, ∅⟩

instance : EmptyCollection NamespaceOverlay := ⟨empty⟩

/-- Stage a binding. -/
def bind (o : NamespaceOverlay) (label name : String) : NamespaceOverlay :=
  { o with unbound := o.unbound.erase label, bound := o.bound.insert label name }

/-- Stage the removal of a label's binding. -/
def unbind (o : NamespaceOverlay) (label : String) : NamespaceOverlay :=
  { o with bound := o.bound.erase label, unbound := o.unbound.insert label }

/-- Stage the removal of every binding. -/
def clear (_ : NamespaceOverlay) : NamespaceOverlay := ⟨true, ∅, ∅⟩

/-- Whether nothing is staged. -/
def isEmpty (o : NamespaceOverlay) : Bool := !o.cleared && o.bound.isEmpty && o.unbound.isEmpty

/-- The namespace of a label; the store is asked only if nothing staged decides it. -/
def lookup {m : Type → Type} [Monad m] (o : NamespaceOverlay) (label : String)
    (stored : String → m (Option String)) : m (Option String) :=
  match o.bound.get? label with
  | some name => return some name
  | none => if o.cleared || label ∈ o.unbound then return none else stored label

/-- The bindings in effect, in the order of their labels, from those of the store. -/
def view (o : NamespaceOverlay) (stored : List Namespace) : List Namespace :=
  let kept := if o.cleared then [] else stored.filter fun n => n.label ∉ o.unbound
  let base : NamespaceTable := .ofList (kept.map fun n => (n.label, n.name))
  NamespaceTable.bindings (base.insertMany o.bound.entries)

/-- Write what is staged through a session: first the clearing, then the removals, then the
bindings. -/
def flush {σ : Type} [Backend σ] (o : NamespaceOverlay) : SessionM σ Unit := do
  if o.cleared then Backend.unbindAll
  o.unbound.toList.forM Backend.unbindLabel
  o.bound.entries.forM fun e => Backend.bindLabel e.1 e.2

end NamespaceOverlay

end QuadTxn
