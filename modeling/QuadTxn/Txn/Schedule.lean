import QuadTxn.Txn.Outcome

/-!
# Waiting calls

Calls are made one after the other, each on one connection. A call that has to wait for the gate
stays with its connection, which is then busy, while calls on other connections go on. Once the gate
admits what the call waits for, it can be taken up again from the state of that moment
(`Schedule.join`).
-/

namespace QuadTxn

/-- A call that waits for the gate. -/
structure Waiting (s α : Type) where
  /-- what it waits for -/
  mode : GateMode
  /-- the rest of the call -/
  resume : s → Outcome s α

/-- What is known of a call. -/
inductive Progress (α : Type) where
  /-- it has answered -/
  | answered (a : α)
  /-- it has failed -/
  | failed (e : TxnError)
  /-- it waits for the gate -/
  | waiting
  /-- it was not made, because an earlier call on the connection still waits -/
  | busy
  /-- no call on the connection waits -/
  | nothing
  deriving Inhabited

/-- A state and the calls on it that wait. -/
structure Schedule (s α : Type) where
  /-- the state -/
  state : s
  /-- the waiting calls by connection -/
  waiting : List (ConnectionId × Waiting s α)

namespace Schedule

variable {s α : Type}

/-- A state on which no call waits. -/
def start (st : s) : Schedule s α := ⟨st, []⟩

/-- Take down what a call on a connection has come to. -/
def settle (sch : Schedule s α) (id : ConnectionId) : Outcome s α → Progress α × Schedule s α
  | .ok a st => (.answered a, { sch with state := st })
  | .error e st => (.failed e, { sch with state := st })
  | .waits st mode resume => (.waiting, ⟨st, (id, ⟨mode, resume⟩) :: sch.waiting⟩)

/-- Make a call on a connection, unless an earlier one still waits. -/
def call (sch : Schedule s α) (id : ConnectionId) (m : Action s α) :
    Progress α × Schedule s α :=
  match sch.waiting.lookup id with
  | some _ => (.busy, sch)
  | none => sch.settle id (m sch.state)

/-- Take up the waiting call on a connection if the gate admits what it waits for. -/
def join (sch : Schedule s α) (gate : s → Gate) (id : ConnectionId) :
    Progress α × Schedule s α :=
  match sch.waiting.lookup id with
  | none => (.nothing, sch)
  | some w =>
    if (gate sch.state).admits w.mode then
      let others := { sch with waiting := sch.waiting.filter (·.1 ≠ id) }
      others.settle id (w.resume sch.state)
    else (.waiting, sch)

end Schedule

end QuadTxn
