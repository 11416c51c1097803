import QuadTxn.Txn.Error

/-!
# Isolation

A connection's isolation is three flags; the four levels are the combinations that have a name. A
flag can be changed on its own, so a connection can have flags that no level names
(`Isolation.level` then gives the level that it counts as).
-/

namespace QuadTxn

/-- The isolation levels, in increasing order of strength after the first. -/
inductive IsolationLevel where
  /-- writes go to the store at once, under the commit gate -/
  | writeThrough
  /-- writes are staged, reads are not tracked -/
  | readSnapshot
  /-- writes are staged; a commit fails if a read depends on a commit made since another read -/
  | snapshot
  /-- writes are staged; a commit fails if a read is affected by a commit made since -/
  | serializable
  deriving DecidableEq, Repr, Inhabited

/-- The isolation flags of a connection. -/
structure Isolation where
  /-- writes are staged until commit -/
  readSnapshot : Bool
  /-- reads are tracked -/
  snapshot : Bool
  /-- every affected read makes the commit fail -/
  serializable : Bool
  deriving DecidableEq, Repr, Inhabited

namespace IsolationLevel

/-- The name of a level. -/
def name : IsolationLevel → String
  | .writeThrough => "write-through"
  | .readSnapshot => "read-snapshot"
  | .snapshot => "snapshot"
  | .serializable => "serializable"

/-- The level of a name. -/
def ofName (s : String) : Except TxnError IsolationLevel :=
  match [writeThrough, readSnapshot, snapshot, serializable].find? (·.name = s) with
  | some level => .ok level
  | none => .error <| .config <| "invalid isolation '" ++ s ++
      "', expected \"write-through\", \"read-snapshot\", \"snapshot\" or \"serializable\""

/-- Every level has its name back. -/
theorem ofName_name (level : IsolationLevel) : ofName level.name = .ok level := by
  cases level <;> simp [ofName, name]

/-- The flags of a level. -/
def flags : IsolationLevel → Isolation
  | .writeThrough => ⟨false, false, false⟩
  | .readSnapshot => ⟨true, false, false⟩
  | .snapshot => ⟨true, true, false⟩
  | .serializable => ⟨true, true, true⟩

end IsolationLevel

/-- The level that flags count as. -/
def Isolation.level (i : Isolation) : IsolationLevel :=
  if !i.readSnapshot then .writeThrough
  else if i.serializable then .serializable
  else if i.snapshot then .snapshot
  else .readSnapshot

theorem Isolation.level_flags (level : IsolationLevel) : level.flags.level = level := by
  cases level <;> rfl

end QuadTxn
