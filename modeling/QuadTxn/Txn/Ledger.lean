import QuadTxn.Txn.Error

/-!
# The ledger of a transaction

A ledger keeps the reads of one transaction and the commits of other connections that affected
them. For each such commit it also keeps the reads that were registered after it: if one of those is
affected too, the transaction has seen the data on both sides of the commit.

When a set of changed statements affects a read is a parameter of the operations that ask for it.
-/

namespace QuadTxn

/-- A commit of another connection that affected a registered read. -/
structure RecordedChange where
  /-- the change set of the commit -/
  change : ChangeSet
  /-- the conflict with the first read that it affected -/
  conflict : Conflict
  /-- the distinct reads registered since, in the order of their first registration -/
  later : List Read
  deriving DecidableEq, Inhabited

/-- The reads of a transaction and the commits that affected them. -/
structure Ledger where
  /-- the distinct reads, in the order of their first registration -/
  reads : List Read
  /-- the recorded commits, in the order they came -/
  changes : List RecordedChange
  deriving DecidableEq, Inhabited

namespace Ledger

/-- The ledger of a transaction that has read nothing. -/
def empty : Ledger := ⟨[], []⟩

instance : EmptyCollection Ledger := ⟨empty⟩

/-- Append a read to a list of distinct reads, unless it is there. -/
def note (r : Read) (rs : List Read) : List Read := if r ∈ rs then rs else rs ++ [r]

/-- Register a read. -/
def observe (l : Ledger) (r : Read) : Ledger :=
  { reads := note r l.reads
    changes := l.changes.map fun c => { c with later := note r c.later } }

section Effects

variable (effects : Model → Read → Bool)

/-- The side of a change set that affects a read; the added statements are looked at first. -/
def direction? (change : ChangeSet) (r : Read) : Option Direction :=
  if effects change.added r then some .added
  else if effects change.removed r then some .removed
  else none

/-- The conflict of a change set with the first read that it affects. -/
def conflict? (l : Ledger) (change : ChangeSet) : Option Conflict :=
  l.reads.findSome? fun r => (direction? effects change r).map fun d => ⟨change.source, r, d⟩

/-- Record a commit of another connection if it affects a registered read, and say whether it
did. -/
def changed (l : Ledger) (change : ChangeSet) : Bool × Ledger :=
  match l.conflict? effects change with
  | some c => (true, { l with changes := l.changes ++ [⟨change, c, []⟩] })
  | none => (false, l)

/-- The first recorded commit that affects a read registered after it, as an error that names the
first such read. -/
def phantom? (l : Ledger) : Option TxnError :=
  l.changes.findSome? fun c =>
    (c.later.find? fun r => effects c.change.added r || effects c.change.removed r).map
      fun r => .phantom r c.conflict

end Effects

/-- The conflict of the first recorded commit. -/
def firstConflict? (l : Ledger) : Option Conflict := l.changes.head?.map (·.conflict)

/-- Number of recorded commits. -/
def size (l : Ledger) : Nat := l.changes.length

end Ledger

end QuadTxn
