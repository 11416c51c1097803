import QuadTxn.Txn.Coordinator

/-!
# Recorders

A recorder is a participant that only keeps account of the commits it is told of. A registry is a
coordinator whose participants are recorders. Each name has at most one recorder that is alive, the
one enrolled last; an earlier one, or one that was dismissed, is not reached any more, though the
slot that it registered may still be there.
-/

namespace QuadTxn

/-- A participant that keeps account of the commits it was told of. -/
structure Recorder where
  /-- whether it wants to be told of commits -/
  tracking : Bool
  /-- whose commits it was told of, in order -/
  heard : List ConnectionId
  deriving DecidableEq, Repr, Inhabited

instance : Participant Recorder where
  tracksReads r := r.tracking
  changed change r := { r with heard := r.heard ++ [change.source] }

/-- A coordinator and the recorders that are alive. -/
structure Registry where
  /-- the coordinator, which knows recorders by number -/
  coordinator : Coordinator Nat
  /-- the recorders that are alive, by number -/
  live : SortedMap Nat Recorder
  /-- the numbers of the recorders that are alive, by name -/
  numbers : SortedMap ConnectionId Nat
  /-- how many recorders there have been, which is the number of the next one -/
  count : Nat
  deriving Inhabited

namespace Registry

/-- A coordinator without recorders. -/
def new : Registry := ⟨.new, ∅, ∅, 0⟩

/-- The recorder of a name, if one is alive. -/
def recorder? (s : Registry) (id : ConnectionId) : Option Recorder :=
  (s.numbers.get? id).bind s.live.get?

/-- Let the recorder of a name go, and say whether there was one. Its slot stays. -/
def dismiss (s : Registry) (id : ConnectionId) : Bool × Registry :=
  match s.numbers.get? id with
  | some i => (true, { s with live := s.live.erase i, numbers := s.numbers.erase id })
  | none => (false, s)

/-- Register a new recorder under a name. The former one of that name is let go afterwards. -/
def enroll (s : Registry) (id : ConnectionId) (tracking : Bool) : Registry :=
  let s := { s with coordinator := s.coordinator.begin id s.count }
  let s := (s.dismiss id).2
  { s with
    live := s.live.insert s.count ⟨tracking, []⟩
    numbers := s.numbers.insert id s.count
    count := s.count + 1 }

/-- Release the slot of a name. -/
def finish (s : Registry) (id : ConnectionId) : Registry :=
  { s with coordinator := s.coordinator.finish id }

/-- Mark the slot of the committer, and announce what was committed. -/
def announce (s : Registry) (change : ChangeSet) : Registry :=
  let (coordinator, live) := (s.coordinator.markCommitted change.source).publish s.live change
  { s with coordinator, live }

/-- One more commit listener. -/
def watch (s : Registry) : Registry := { s with coordinator := s.coordinator.watch }

/-- Ask for a hold of the gate under a name. Once it is granted, the older hold of that name is
given back. -/
def acquire (s : Registry) (id : ConnectionId) (mode : GateMode) (timeout : Option Nat) :
    Grant × Registry :=
  let gate := s.coordinator.gate
  match gate.request id mode timeout with
  | .granted g =>
    let g := match gate.modeOf id with
      | some older => g.release id older
      | none => g
    (.granted g, { s with coordinator := { s.coordinator with gate := g } })
  | r => (r, s)

/-- Give the hold of a name back, and say whether there was one. -/
def release (s : Registry) (id : ConnectionId) : Bool × Registry :=
  let gate := s.coordinator.gate
  match gate.modeOf id with
  | some mode =>
    (true, { s with coordinator := { s.coordinator with gate := gate.release id mode } })
  | none => (false, s)

end Registry

end QuadTxn
