import QuadTxn.Store.Session

/-!
# Sessions that fail on demand

Every operation of a session can be armed to fail once: some of its next calls pass, the following
one fails without doing anything, and later ones pass again.
-/

namespace QuadTxn

/-- The operations of a session that can be armed. -/
inductive Operation where
  | statements
  | graphNames
  | namespaces
  | namespaceOf
  | add
  | remove
  | bindLabel
  | unbindLabel
  | unbindAll
  | begin
  | prepare
  | commit
  | rollback
  deriving DecidableEq, Repr, Inhabited

/-- The name of an operation in the text of its failure. -/
def Operation.name : Operation → String
  | .statements => "statements"
  | .graphNames => "context_ids"
  | .namespaces => "namespaces"
  | .namespaceOf => "namespace"
  | .add => "add_statement"
  | .remove => "remove_statement"
  | .bindLabel => "set_namespace"
  | .unbindLabel => "remove_namespace"
  | .unbindAll => "clear_namespaces"
  | .begin => "begin"
  | .prepare => "prepare"
  | .commit => "commit"
  | .rollback => "rollback"

/-- The operation of a name. -/
def Operation.ofName (s : String) : Option Operation :=
  [statements, graphNames, namespaces, namespaceOf, add, remove, bindLabel, unbindLabel, unbindAll,
    begin, prepare, commit, rollback].find? (·.name = s)

/-- Every operation has its name back. -/
theorem Operation.ofName_name (op : Operation) : ofName op.name = some op := by
  cases op <;> simp [ofName, name]

/-- A session with armed failures. -/
structure FaultySession where
  /-- the session that does the work -/
  session : Session
  /-- for each armed operation, how many calls pass before the one that fails -/
  armed : Operation → Option Nat

namespace FaultySession

/-- A session in which nothing is armed. -/
def new : FaultySession := ⟨.new, fun _ => none⟩

/-- Let an operation fail once, after the given number of calls. -/
def arm (s : FaultySession) (op : Operation) (after : Nat) : FaultySession :=
  { s with armed := fun o => if o = op then some after else s.armed o }

/-- Take an operation's arming off. -/
def disarm (s : FaultySession) (op : Operation) : FaultySession :=
  { s with armed := fun o => if o = op then none else s.armed o }

/-- Do an operation of the session that does the work. -/
def lift {α : Type} (m : SessionM Session α) : SessionM FaultySession α := fun (s, st) =>
  match m (s.session, st) with
  | .ok a (w, st) => .ok a ({ s with session := w }, st)
  | .error e (w, st) => .error e ({ s with session := w }, st)

/-- Do an operation, or fail if it is its turn to. -/
def guarded {α : Type} (op : Operation) (m : SessionM Session α) : SessionM FaultySession α :=
  fun (s, st) =>
    match s.armed op with
    | none => lift m (s, st)
    | some 0 => .error (.storage (op.name ++ " failed")) (s.disarm op, st)
    | some (n + 1) => lift m (s.arm op n, st)

instance : Backend FaultySession where
  new := new
  isActive s := s.session.isActive
  statements p inferred := guarded .statements (Backend.statements p inferred)
  graphNames := guarded .graphNames Backend.graphNames
  namespaces := guarded .namespaces Backend.namespaces
  namespaceOf label := guarded .namespaceOf (Backend.namespaceOf label)
  add x := guarded .add (Session.add x)
  remove x := guarded .remove (Session.remove x)
  bindLabel label name := guarded .bindLabel (Backend.bindLabel label name)
  unbindLabel label := guarded .unbindLabel (Backend.unbindLabel label)
  unbindAll := guarded .unbindAll Backend.unbindAll
  begin := guarded .begin Session.begin
  prepare := guarded .prepare Session.prepare
  commit := guarded .commit Session.commit
  rollback := guarded .rollback Session.rollback

end FaultySession

end QuadTxn
