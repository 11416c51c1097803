import QuadTxn.Store.Contents
import QuadTxn.Store.Error

/-!
# Stores and what a session offers

A `Store` is shared by any number of sessions. A session runs at most one native transaction at a
time; what it offers is the class `Backend`, in which every operation may fail and may change the
session and the store. A session that simply works on the store is in `QuadTxn.Store.Session`, one
that fails on demand in `QuadTxn.Store.Faulty`.
-/

namespace QuadTxn

/-- A store that sessions share. -/
structure Store where
  /-- the committed contents -/
  contents : Contents
  /-- how many native commits and direct insertions there were -/
  version : Nat
  /-- whether the next native prepare fails -/
  failPrepare : Bool
  /-- whether the next native commit fails -/
  failCommit : Bool
  deriving DecidableEq, Inhabited

namespace Store

/-- A store that holds nothing. -/
def new : Store := ⟨⟨∅, ∅⟩, 0, false, false⟩

/-- Put a statement in directly, outside all transactions. -/
def insert (st : Store) (s : Statement) : Store :=
  { st with
    contents := st.contents.apply (.add s)
    version := st.version + 1 }

end Store

/-- What an operation of a session does to the session and to the store. -/
abbrev SessionM (σ : Type) := EStateM StoreError (σ × Store)

/-- Do an operation with a session and a store. -/
def SessionM.perform {σ α : Type} (m : SessionM σ α) (start : σ × Store) :
    Except StoreError α × σ × Store :=
  match m start with
  | .ok a st => (.ok a, st)
  | .error e st => (.error e, st)

/-- The operations of a session with a store. -/
class Backend (σ : Type) where
  /-- a session without a native transaction -/
  new : σ
  /-- whether a native transaction runs -/
  isActive : σ → Bool
  /-- the statements that a pattern selects; the flag asks for derived statements as well -/
  statements : Pattern → Bool → SessionM σ (List Statement)
  /-- the named graphs that hold a statement -/
  graphNames : SessionM σ (List Term)
  /-- the namespace bindings -/
  namespaces : SessionM σ (List Namespace)
  /-- the namespace of a label -/
  namespaceOf : String → SessionM σ (Option String)
  /-- add a statement -/
  add : Statement → SessionM σ Unit
  /-- remove a statement, and say whether it was there -/
  remove : Statement → SessionM σ Bool
  /-- bind a label to a namespace -/
  bindLabel : String → String → SessionM σ Unit
  /-- remove the binding of a label -/
  unbindLabel : String → SessionM σ Unit
  /-- remove every binding -/
  unbindAll : SessionM σ Unit
  /-- start a native transaction -/
  begin : SessionM σ Unit
  /-- make the native transaction ready for commit -/
  prepare : SessionM σ Unit
  /-- commit the native transaction -/
  commit : SessionM σ Unit
  /-- abandon the native transaction -/
  rollback : SessionM σ Unit

namespace Backend

variable {σ : Type} [Backend σ]

/-- Whether a statement is there. -/
def contains (s : Statement) : SessionM σ Bool := do
  let found ← statements (.exact s) false
  return !found.isEmpty

/-- The number of statements in the given graphs (in all if none are given). -/
def size (graphs : List GraphName) : SessionM σ Nat := do
  let found ← statements (.within graphs) false
  return found.length

end Backend

end QuadTxn
