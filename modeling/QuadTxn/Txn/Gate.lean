import QuadTxn.Txn.Error

/-!
# The commit gate

The gate is held by any number of readers or by one writer. A reader holds it while it composes its
answer; a writer holds it from its begin, its preparation or its switch to direct writes up to the
end of its transaction. The gate does not know its holders apart: a request of a holder is treated
like any other.
-/

namespace QuadTxn

/-- The ways to hold the gate. -/
inductive GateMode where
  /-- together with other readers -/
  | shared
  /-- alone -/
  | exclusive
  deriving DecidableEq, Repr, Inhabited

/-- The state of the gate. -/
structure Gate where
  /-- the writer, if there is one -/
  writer : Option ConnectionId
  /-- the readers, one entry for each hold -/
  readers : List ConnectionId
  deriving DecidableEq, Inhabited

/-- What comes of a request for the gate. -/
inductive Grant where
  /-- the gate is granted -/
  | granted (g : Gate)
  /-- the gate was not free within the given number of milliseconds -/
  | timedOut (ms : Nat)
  /-- the request has to wait until the gate is free -/
  | mustWait
  deriving DecidableEq

namespace Gate

/-- A gate that nobody holds. -/
def free : Gate := ⟨none, []⟩

/-- Whether a hold can be granted now. -/
def admits (g : Gate) : GateMode → Bool
  | .shared => g.writer.isNone
  | .exclusive => g.writer.isNone && g.readers.isEmpty

/-- The gate with one more hold. -/
def hold (g : Gate) (id : ConnectionId) : GateMode → Gate
  | .shared => { g with readers := id :: g.readers }
  | .exclusive => { g with writer := some id }

/-- The gate with one hold less. -/
def release (g : Gate) (id : ConnectionId) : GateMode → Gate
  | .shared => { g with readers := g.readers.erase id }
  | .exclusive => { g with writer := if g.writer = some id then none else g.writer }

/-- The way in which a connection holds the gate, if it does. -/
def modeOf (g : Gate) (id : ConnectionId) : Option GateMode :=
  if g.writer = some id then some .exclusive
  else if id ∈ g.readers then some .shared
  else none

/-- Ask for a hold, for at most the given number of milliseconds if a number is given. Nobody else
moves while a request waits, so that a hold that cannot be granted now is not granted in time. -/
def request (g : Gate) (id : ConnectionId) (mode : GateMode) (timeout : Option Nat) : Grant :=
  if g.admits mode then .granted (g.hold id mode)
  else
    match timeout with
    | some ms => .timedOut ms
    | none => .mustWait

end Gate

end QuadTxn
