import QuadTxn.Txn.Gate

/-!
# The coordinator

The coordinator is what connections share besides the store: the commit gate, the registry of
running transactions, the counters, and the listeners that are told of every commit.

A slot of the registry refers to the participant that registered it. The participants themselves
are kept elsewhere, and one that is gone is not reached any more, though its slot may still be
there. A published change set goes to every participant that is registered under another name, is
still alive and tracks its reads, and then to every commit listener (`Coordinator.publish`).
-/

namespace QuadTxn

/-- A participant in transactions, as the coordinator sees it. -/
class Participant (π : Type) where
  /-- whether it keeps account of its reads -/
  tracksReads : π → Bool
  /-- another connection has committed -/
  changed : ChangeSet → π → π

/-- The registration of a running transaction. -/
structure Slot (ρ : Type) where
  /-- the participant that registered -/
  participant : ρ
  /-- whether the transaction has committed -/
  committed : Bool
  deriving DecidableEq, Inhabited

/-- The shared state of connections, whose participants are referred to by `ρ`. -/
structure Coordinator (ρ : Type) where
  /-- the commit gate -/
  gate : Gate
  /-- the running transactions by connection -/
  slots : SortedMap ConnectionId (Slot ρ)
  /-- number of commit listeners -/
  listeners : Nat
  /-- what the commit listeners were told so far, in order, each entry with the listener's number -/
  told : List (Nat × ChangeSet)
  /-- number of running transactions -/
  active : Nat
  /-- number of transactions started so far -/
  started : Nat
  /-- number of transactions that ended with a commit -/
  committed : Nat
  /-- number of transactions that ended without one -/
  aborted : Nat
  deriving DecidableEq, Inhabited

namespace Coordinator

variable {ρ : Type}

/-- A coordinator without transactions and listeners. -/
def new : Coordinator ρ := ⟨.free, ∅, 0, [], 0, 0, 0, 0⟩

/-- Register a transaction. A connection that is registered already has its slot replaced, and
nothing is counted. -/
def begin (c : Coordinator ρ) (id : ConnectionId) (participant : ρ) : Coordinator ρ :=
  let fresh := if c.slots.contains id then 0 else 1
  { c with
    slots := c.slots.insert id ⟨participant, false⟩
    active := c.active + fresh
    started := c.started + fresh }

/-- Release a slot, and count its transaction as committed or aborted. A connection without a slot
changes nothing. -/
def finish (c : Coordinator ρ) (id : ConnectionId) : Coordinator ρ :=
  match c.slots.get? id with
  | none => c
  | some slot =>
    { c with
      slots := c.slots.erase id
      active := c.active - 1
      committed := c.committed + if slot.committed then 1 else 0
      aborted := c.aborted + if slot.committed then 0 else 1 }

/-- Mark the slot of a connection as committed, if it has one. -/
def markCommitted (c : Coordinator ρ) (id : ConnectionId) : Coordinator ρ :=
  match c.slots.get? id with
  | none => c
  | some slot => { c with slots := c.slots.insert id { slot with committed := true } }

/-- One more commit listener. -/
def watch (c : Coordinator ρ) : Coordinator ρ := { c with listeners := c.listeners + 1 }

/-- Whether a published change set would reach anybody: there is a commit listener, or more than
one transaction runs. -/
def isWatched (c : Coordinator ρ) : Bool := c.listeners > 0 || c.slots.size > 1

/-- The connections that are registered, in order. -/
def registered (c : Coordinator ρ) : List ConnectionId := c.slots.keys

/-- Number of transactions that have ended. -/
def completed (c : Coordinator ρ) : Nat := c.committed + c.aborted

/-- The share of the started transactions that have committed; zero if none was started. -/
def commitRate (c : Coordinator ρ) : Float :=
  if c.started > 0 then Float.ofNat c.committed / Float.ofNat c.started else 0

/-- What a commit listener was told so far, in order. -/
def toldTo (c : Coordinator ρ) (listener : Nat) : List ChangeSet :=
  c.told.filterMap fun e => if e.1 = listener then some e.2 else none

section Publish

variable {π : Type} [Participant π] [Ord ρ] [DecidableEq ρ]

/-- The participants that a commit of `source` is announced to, out of those that are alive. -/
def audience (c : Coordinator ρ) (live : SortedMap ρ π) (source : ConnectionId) : List ρ :=
  (c.slots.entries.filter fun e => e.1 ≠ source).map (·.2.participant) |>.filter fun r =>
    (live.get? r).any Participant.tracksReads

/-- Announce a change set: first to the participants, then to the commit listeners in the order in
which they were added. -/
def publish (c : Coordinator ρ) (live : SortedMap ρ π) (change : ChangeSet) :
    Coordinator ρ × SortedMap ρ π :=
  let told := (List.range c.listeners).map fun i => (i, change)
  ({ c with told := c.told ++ told },
    (c.audience live change.source).foldl (fun m r => m.modify r (Participant.changed change)) live)

end Publish

end Coordinator

end QuadTxn
