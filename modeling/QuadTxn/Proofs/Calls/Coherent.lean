import QuadTxn.Proofs.Calls.Native

/-!
# Coherent frames

What holds between the parts of a frame whenever no call is under way: each phase of a transaction
has its native transaction, its staged writes and its flags in a certain state
(`Connection.InPhase`), the connection is the writer at the gate exactly while it has a native
transaction, and it has a slot exactly while a transaction runs.
-/

namespace QuadTxn

namespace Connection

/-- Nothing is staged. -/
def Unstaged (c : Connection Session) : Prop :=
  c.staging = ∅ ∧ c.graphs = ∅ ∧ c.namespaces = ∅

/-- What the phase of a transaction says about the rest of the connection. -/
def InPhase (c : Connection Session) : Prop :=
  match c.phase with
  | .idle => c.session = ⟨none⟩ ∧ c.tracking = false ∧ c.ledger = ∅ ∧ c.net = ∅ ∧ c.Unstaged
  | .staging => c.session = ⟨none⟩ ∧ c.net = ∅ ∧ c.isolation.readSnapshot = true
  | .direct => c.session.Open ∧ c.isolation.readSnapshot = false ∧ c.Unstaged
  -- what is staged is kept, but it has all been written
  | .prepared => ∃ t, c.session.txn = some t ∧ t.prepared = true ∧
      c.staging.onto t.working.statements = t.working.statements

/-- What holds of a connection whenever no call on it is under way. -/
structure Sound (c : Connection Session) : Prop where
  /-- the phase is the state that the connection is in -/
  inPhase : c.InPhase
  /-- no statement is staged on both sides -/
  consistent : c.staging.Consistent
  /-- what is to be added can be added -/
  wellFormed : ∀ s, c.staging.isAdded s = true → s.WellFormed
  /-- the touched graphs are those of the staged statements -/
  covers : c.graphs.Covers c.staging
  /-- serializable isolation comes with the tracking of reads -/
  snapshot : c.isolation.serializable = true → c.isolation.snapshot = true
  /-- a transaction whose reads are registered is told of commits -/
  tracking : c.isActive = true → c.isolation.snapshot = true → c.tracking = true

theorem isActive_iff {σ : Type} {c : Connection σ} : c.isActive = true ↔ c.phase ≠ .idle := by
  simp [isActive]

theorem isActive_of_prepared {σ : Type} {c : Connection σ} (h : c.phase = .prepared) :
    c.isActive = true := by
  simp [isActive, h]

theorem phase_of_inactive {σ : Type} {c : Connection σ} (h : c.isActive = false) :
    c.phase = .idle := by
  simpa [isActive] using h

theorem Sound.new (id : ConnectionId) (level : IsolationLevel) :
    (Connection.new id level : Connection Session).Sound where
  inPhase := ⟨rfl, rfl, rfl, rfl, rfl, rfl, rfl⟩
  consistent := .empty
  wellFormed := fun _ h => nomatch h
  covers := .empty
  snapshot := by cases level <;> simp [Connection.new, IsolationLevel.flags]
  tracking := fun h => nomatch h

/-- A connection that forgets its transaction is sound. -/
theorem Sound.ended {c : Connection Session} (h : c.Sound) : c.ended.Sound where
  inPhase := ⟨rfl, rfl, rfl, rfl, rfl, rfl, rfl⟩
  consistent := .empty
  wellFormed := fun _ h => nomatch h
  covers := .empty
  snapshot := h.snapshot
  tracking := fun h => nomatch h

end Connection

namespace Frame

/-- What holds of a frame whenever no call is under way. -/
structure Coherent (st : Frame Session) : Prop where
  /-- the connection is sound -/
  sound : st.self.Sound
  /-- nobody reads -/
  readers : st.coordinator.gate.readers = []
  /-- the connection has the whole gate while it has a native transaction -/
  writer : st.coordinator.gate.writer = some st.self.id ↔
    st.self.phase = .direct ∨ st.self.phase = .prepared
  /-- a slot is there while a transaction runs -/
  slot : st.coordinator.slots.get? st.self.id =
    if st.self.isActive then some ⟨st.self.id, false⟩ else none

section Coherent

variable {st : Frame Session} (h : st.Coherent)

include h

theorem Coherent.free_iff : st.Free ↔ st.coordinator.gate.writer = none := by
  simp [Free, Gate.admits, h.readers]

theorem Coherent.idle (hp : st.self.phase = .idle) :
    st.self.session = ⟨none⟩ ∧ st.self.tracking = false ∧ st.self.ledger = ∅ ∧
      st.self.net = ∅ ∧ st.self.Unstaged := by
  have := h.sound.inPhase
  rwa [Connection.InPhase, hp] at this

theorem Coherent.staging (hp : st.self.phase = .staging) :
    st.self.session = ⟨none⟩ ∧ st.self.net = ∅ ∧ st.self.isolation.readSnapshot = true := by
  have := h.sound.inPhase
  rwa [Connection.InPhase, hp] at this

theorem Coherent.direct (hp : st.self.phase = .direct) :
    st.self.session.Open ∧ st.self.isolation.readSnapshot = false ∧ st.self.Unstaged := by
  have := h.sound.inPhase
  rwa [Connection.InPhase, hp] at this

theorem Coherent.prepared (hp : st.self.phase = .prepared) :
    ∃ t, st.self.session.txn = some t ∧ t.prepared = true ∧
      st.self.staging.onto t.working.statements = t.working.statements := by
  have := h.sound.inPhase
  rwa [Connection.InPhase, hp] at this

theorem Coherent.ready : st.Ready := fun hp => (h.direct hp).1

omit h in
theorem phase_of_writable (hw : st.unwritable? = none) :
    st.self.phase = .staging ∨ st.self.phase = .direct := by
  rw [unwritable?] at hw
  split at hw
  · cases hw
  · cases hw
  · exact .inl ‹_›
  · exact .inr ‹_›

/-- A connection holds the gate while its transaction has a native one. -/
theorem Coherent.holdsGate : Call.holdsGate st =
    decide (st.self.phase = .direct ∨ st.self.phase = .prepared) := by
  rw [Call.holdsGate]
  exact decide_eq_decide.mpr h.writer

/-- A transaction has no native one while it only stages its writes. -/
theorem Coherent.session_none (hno : ¬(st.self.phase = .direct ∨ st.self.phase = .prepared)) :
    st.self.session = ⟨none⟩ := by
  rcases hp : st.self.phase with _ | _ | _ | _
  · exact (h.idle hp).1
  · exact (h.staging hp).1
  · exact absurd (.inl hp) hno
  · exact absurd (.inr hp) hno

end Coherent

end Frame

end QuadTxn
