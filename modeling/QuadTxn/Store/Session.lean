import QuadTxn.Store.Backend

/-!
# Sessions

A session's native transaction works on a copy of the contents that it took at its begin, and keeps
a journal of its writes. Inside a native transaction the session reads the copy, outside the
committed contents. A commit replays the journal on the committed contents, which other sessions
may have changed meanwhile; a rollback drops copy and journal.
-/

namespace QuadTxn

/-- A running native transaction. -/
structure NativeTxn where
  /-- the contents at the begin with the journal replayed on them -/
  working : Contents
  /-- the writes so far, in order -/
  journal : List Write
  /-- whether it is ready for commit, and takes no more writes -/
  prepared : Bool
  deriving DecidableEq, Inhabited

/-- A session with a store. -/
structure Session where
  /-- the running native transaction, if any -/
  txn : Option NativeTxn
  deriving DecidableEq, Inhabited

namespace Session

/-- A session without a native transaction. -/
def new : Session := ⟨none⟩

/-- Whether a native transaction runs. -/
def isActive (s : Session) : Bool := s.txn.isSome

/-- Number of writes in the journal. -/
def journalSize (s : Session) : Nat := (s.txn.map (·.journal.length)).getD 0

/-- The contents that the session reads. -/
def visible (s : Session) (st : Store) : Contents :=
  match s.txn with
  | some t => t.working
  | none => st.contents

/-- Answer from the contents that the session reads. -/
def read {α : Type} (f : Contents → α) : SessionM Session α := fun (s, st) =>
  .ok (f (s.visible st)) (s, st)

/-- Do a write in the running native transaction, which must not be prepared. -/
def write (w : Write) : SessionM Session Unit := fun (s, st) =>
  match s.txn with
  | none => .error .notActive (s, st)
  | some t =>
    if t.prepared then
      .error (.invalidOperation "cannot write to a prepared native transaction") (s, st)
    else
      .ok () (⟨some { t with working := t.working.apply w, journal := t.journal ++ [w] }⟩, st)

/-- Add a statement, which must be well formed. -/
def add (x : Statement) : SessionM Session Unit :=
  if x.WellFormed then write (.add x)
  else throw (.invalidOperation ("malformed statement " ++ x.render))

/-- Remove a statement, and say whether it was there. -/
def remove (x : Statement) : SessionM Session Bool := do
  let present ← read fun c => decide (x ∈ c.statements)
  write (.remove x)
  return present

/-- Start a native transaction on a copy of the committed contents. -/
def begin : SessionM Session Unit := fun (s, st) =>
  match s.txn with
  | some _ => .error .alreadyActive (s, st)
  | none => .ok () (⟨some ⟨st.contents, [], false⟩⟩, st)

/-- Make the native transaction ready for commit, unless a failure was asked for. -/
def prepare : SessionM Session Unit := fun (s, st) =>
  match s.txn with
  | none => .error .notActive (s, st)
  | some t =>
    if st.failPrepare then .error (.injected "prepare") (s, { st with failPrepare := false })
    else .ok () (⟨some { t with prepared := true }⟩, st)

/-- Replay the journal on the committed contents, unless a failure was asked for; the native
transaction ends either way. -/
def commit : SessionM Session Unit := fun (s, st) =>
  match s.txn with
  | none => .error .notActive (s, st)
  | some t =>
    if st.failCommit then .error (.injected "commit") (⟨none⟩, { st with failCommit := false })
    else .ok () (⟨none⟩,
      { st with contents := st.contents.replay t.journal, version := st.version + 1 })

/-- Drop the native transaction. -/
def rollback : SessionM Session Unit := fun (s, st) =>
  match s.txn with
  | none => .error .notActive (s, st)
  | some _ => .ok () (⟨none⟩, st)

instance : Backend Session where
  new := new
  isActive := isActive
  statements p _ := read fun c => c.statements.select p
  graphNames := read fun c => c.statements.namedGraphs.toList
  namespaces := read fun c => c.namespaces.bindings
  namespaceOf label := read fun c => c.namespaces.get? label
  add := add
  remove := remove
  bindLabel label name := write (.bind label name)
  unbindLabel label := write (.unbind label)
  unbindAll := write .unbindAll
  begin := begin
  prepare := prepare
  commit := commit
  rollback := rollback

end Session

end QuadTxn
