import QuadTxn.Proofs.Gate.Outcomes
import QuadTxn.Proofs.Runs.Passing

/-!
# A connection and the gate

Between calls a connection has the whole gate exactly while its transaction is direct or prepared,
and nobody shares it (`Frame.AtRest`). A call may change the connection's own hold with the phase of
its transaction, and nothing else about the gate (`Frame.Leaves`); `Frame.conduct` is the conduct
that is asked of calls on a connection.

Most of what a call is made of has nothing to do with the gate (`Call.Quiet`). All this is for any
backend: however a session fails, the gate is none of its business.
-/

namespace QuadTxn

namespace Frame

variable {σ : Type}

/-- The connection holds the gate as its phase has it, and no call is under way. -/
structure AtRest (st : Frame σ) : Prop where
  /-- nobody shares the gate -/
  readers : st.coordinator.gate.readers = []
  /-- the connection has the whole gate while its transaction is direct or prepared -/
  writer : st.coordinator.gate.writer = some st.self.id ↔ st.self.Engaged
  /-- a connection that stages its writes is not direct -/
  direct : st.self.phase = .direct → st.self.isolation.readSnapshot = false

/-- All that concerns the gate is as it was. -/
structure Stays (st st' : Frame σ) : Prop where
  /-- the gate -/
  gate : st'.coordinator.gate = st.coordinator.gate
  /-- the name of the connection -/
  id : st'.self.id = st.self.id
  /-- how far the transaction is -/
  phase : st'.self.phase = st.self.phase
  /-- the isolation flags -/
  isolation : st'.self.isolation = st.self.isolation

/-- The transaction has ended, and the gate is given back. -/
structure Quits (st st' : Frame σ) : Prop where
  /-- the gate -/
  gate : st'.coordinator.gate = st.coordinator.gate.release st.self.id .exclusive
  /-- the name of the connection -/
  id : st'.self.id = st.self.id
  /-- no transaction runs -/
  phase : st'.self.phase = .idle

/-- What a call may make of a frame at rest. -/
structure Leaves (st st' : Frame σ) : Prop where
  /-- the name of the connection is as it was -/
  id : st'.self.id = st.self.id
  /-- the frame is at rest -/
  atRest : st'.AtRest
  /-- the hold of another connection is as it was -/
  others : ∀ j, j ≠ st.self.id →
    (st'.coordinator.gate.writer = some j ↔ st.coordinator.gate.writer = some j)

/-- Another connection has the gate. -/
def Contested (st : Frame σ) : Prop :=
  ∃ j, j ≠ st.self.id ∧ st.coordinator.gate.writer = some j

/-- A call that has left the frame `mid` waiting can be taken up. -/
structure Resumes (mid : Frame σ) (mode : GateMode) (later : Frame σ) : Prop where
  /-- the frame is at rest -/
  atRest : later.AtRest
  /-- it is the same connection -/
  id : later.self.id = mid.self.id
  /-- its transaction still stages its writes -/
  phase : later.self.phase = .staging
  /-- its isolation is the same -/
  isolation : later.self.isolation = mid.self.isolation
  /-- the gate admits what the call waits for -/
  admits : later.coordinator.gate.admits mode = true

/-- The conduct that is asked of calls on a connection. -/
def conduct : Conduct (Frame σ) where
  leaves := Leaves
  contested := Contested
  waiting mid := mid.self.phase = .staging
  resumes := Resumes

/-! ## What calls leave -/

theorem Stays.refl (st : Frame σ) : st.Stays st := ⟨rfl, rfl, rfl, rfl⟩

theorem Stays.trans {st₁ st₂ st₃ : Frame σ} (h₁₂ : st₁.Stays st₂) (h₂₃ : st₂.Stays st₃) :
    st₁.Stays st₃ where
  gate := h₂₃.gate.trans h₁₂.gate
  id := h₂₃.id.trans h₁₂.id
  phase := h₂₃.phase.trans h₁₂.phase
  isolation := h₂₃.isolation.trans h₁₂.isolation

theorem Stays.trans_quits {st₁ st₂ st₃ : Frame σ} (h₁₂ : st₁.Stays st₂) (h₂₃ : st₂.Quits st₃) :
    st₁.Quits st₃ where
  gate := by rw [h₂₃.gate, h₁₂.gate, h₁₂.id]
  id := h₂₃.id.trans h₁₂.id
  phase := h₂₃.phase

theorem Leaves.trans {st₁ st₂ st₃ : Frame σ} (h₁₂ : st₁.Leaves st₂) (h₂₃ : st₂.Leaves st₃) :
    st₁.Leaves st₃ where
  id := h₂₃.id.trans h₁₂.id
  atRest := h₂₃.atRest
  others := fun j hj => (h₂₃.others j (by rwa [h₁₂.id])).trans (h₁₂.others j hj)

/-- A call does not change whether another connection has the gate. -/
theorem Leaves.contested {st st' : Frame σ} (h : st.Leaves st') (hc : st'.Contested) :
    st.Contested := by
  obtain ⟨j, hj, hw⟩ := hc
  rw [h.id] at hj
  exact ⟨j, hj, (h.others j hj).mp hw⟩

section AtRest

variable {st st' : Frame σ} (h : st.AtRest)

include h

theorem AtRest.holdsGate_iff : Call.holdsGate st = true ↔ st.self.Engaged := by
  rw [Call.holdsGate, decide_eq_true_eq]
  exact h.writer

theorem AtRest.stays (hs : st.Stays st') : st.Leaves st' where
  id := hs.id
  atRest :=
    { readers := by rw [hs.gate, h.readers]
      writer := by
        rw [hs.gate, hs.id, Connection.Engaged, hs.phase]
        exact h.writer
      direct := by
        rw [hs.phase, hs.isolation]
        exact h.direct }
  others := fun j _ => by rw [hs.gate]

theorem AtRest.quits (hq : st.Quits st') : st.Leaves st' where
  id := hq.id
  atRest :=
    { readers := by rw [hq.gate, Gate.release, h.readers]
      writer := by
        rw [hq.gate, hq.id, Connection.Engaged, hq.phase, Gate.release]
        split
        · simp
        · simp_all
      direct := fun hdirect => by cases hq.phase.symm.trans hdirect }
  others := fun j hj => by
    rw [hq.gate, Gate.release]
    split
    · rename_i hw
      simp [hw, Ne.symm hj]
    · exact Iff.rfl

/-- A gate that the frame of a connection at rest is not admitted to is another one's. -/
theorem AtRest.contested (he : ¬st.self.Engaged) {mode : GateMode}
    (hg : st.coordinator.gate.admits mode = false) : st.Contested := by
  rcases hw : st.coordinator.gate.writer with _ | j
  · cases mode <;> simp [Gate.admits, hw, h.readers] at hg
  · refine ⟨j, fun hj => he (h.writer.mp ?_), hw⟩
    rw [hw, hj]

end AtRest

end Frame

/-! ## Calls that have nothing to do with the gate -/

namespace Call

variable {σ α β : Type}

/-- The call comes to an end, and nothing changes that concerns the gate. -/
def Quiet (m : Call σ α) : Prop := ∀ st, (m st).Ends fun _ st' => st.Stays st'

theorem Quiet.pure (a : α) : Quiet (Pure.pure a : Call σ α) := fun st => .refl st

theorem Quiet.throw {e : TxnError} (he : e.isLockTimeout = false) :
    Quiet (MonadExcept.throw e : Call σ α) := fun st => ⟨he, .refl st⟩

theorem Quiet.bind {m : Call σ α} {f : α → Call σ β} (hm : Quiet m) (hf : ∀ a, Quiet (f a)) :
    Quiet (m >>= f) := fun st =>
  (hm st).bind (fun a st' hst' => (hf a st').mono fun _ _ => hst'.trans) fun _ _ hst' => hst'

/-- A call that may be refused before it does anything. -/
theorem Quiet.refuse {p : Prop} [Decidable p] {e : TxnError} (he : e.isLockTimeout = false)
    {rest : PUnit → Call σ α} (h : ∀ u, Quiet (rest u)) :
    Quiet (if p then MonadExcept.throw e >>= rest else rest ⟨⟩) := by
  split
  · exact (Quiet.throw he).bind h
  · exact h _

theorem Quiet.stays {m : Call σ α} (hm : Quiet m) (st : Frame σ) :
    (∃ a mid, m st = .ok a mid ∧ st.Stays mid) ∨
      ∃ e mid, m st = .error e mid ∧ e.isLockTimeout = false ∧ st.Stays mid := by
  have hst := hm st
  cases heq : m st with
  | ok a mid =>
    rw [heq] at hst
    exact .inl ⟨a, mid, rfl, hst⟩
  | error e mid =>
    rw [heq] at hst
    exact .inr ⟨e, mid, rfl, hst⟩
  | waits mid mode resume =>
    rw [heq] at hst
    exact hst.elim

theorem Quiet.forM {l : List α} {f : α → Call σ PUnit} (hf : ∀ a, Quiet (f a)) :
    Quiet (l.forM f) := by
  induction l with
  | nil => exact .pure _
  | cons a l ih => exact (hf a).bind fun _ => ih

theorem quiet_self : Quiet (self : Call σ _) := fun st => .refl st

theorem quiet_native (m : SessionM σ α) : Quiet (native m) := by
  intro st
  rw [native]
  split
  · exact ⟨rfl, rfl, rfl, rfl⟩
  · exact ⟨rfl, rfl, rfl, rfl, rfl⟩

theorem quiet_update {f : Connection σ → Connection σ} (hid : ∀ c, (f c).id = c.id)
    (hphase : ∀ c, (f c).phase = c.phase) (hisolation : ∀ c, (f c).isolation = c.isolation) :
    Quiet (update f) := fun st => ⟨rfl, hid st.self, hphase st.self, hisolation st.self⟩

end Call

namespace Connection

open Call

variable {σ : Type}

theorem quiet_observe (r : Read) : Quiet (observe r : Call σ _) := by
  refine quiet_update (fun c => ?_) (fun c => ?_) (fun c => ?_)
  · split <;> rfl
  · split <;> rfl
  · split <;> rfl

theorem quiet_checkWritable : Quiet (checkWritable : Call σ _) := by
  refine quiet_self.bind fun c => ?_
  split
  · exact .throw rfl
  · exact .throw rfl
  · exact .pure _
  · exact .pure _

theorem quiet_isDirect : Quiet (isDirect : Call σ _) := quiet_self.bind fun _ => .pure _

theorem quiet_notify (event : String → Event) : Quiet (notify event : Call σ _) :=
  quiet_update (fun _ => rfl) (fun _ => rfl) (fun _ => rfl)

theorem quiet_writeNamespaces (staged : NamespaceOverlay → NamespaceOverlay)
    (stored : SessionM σ Unit) : Quiet (writeNamespaces staged stored) := by
  refine quiet_checkWritable.bind fun _ => quiet_isDirect.bind fun direct => ?_
  split
  · exact quiet_native _
  · exact quiet_update (fun _ => rfl) (fun _ => rfl) (fun _ => rfl)

variable [Backend σ]

theorem quiet_view (p : Pattern) (inferred : Bool) : Quiet (view p inferred : Call σ _) :=
  quiet_self.bind fun _ => quiet_native _

theorem quiet_storeAdd (s : Statement) : Quiet (storeAdd s : Call σ _) := by
  refine (quiet_native _).bind fun found => ?_
  split
  · exact .pure _
  · exact (quiet_native _).bind fun _ => quiet_update (fun _ => rfl) (fun _ => rfl) fun _ => rfl

theorem quiet_storeRemove (s : Statement) : Quiet (storeRemove s : Call σ _) := by
  refine (quiet_native _).bind fun found => ?_
  split
  · exact quiet_update (fun _ => rfl) (fun _ => rfl) (fun _ => rfl)
  · exact .pure _

theorem quiet_addOne (kind : BatchKind) (s : Statement) : Quiet (addOne kind s : Call σ _) := by
  refine quiet_isDirect.bind fun direct => ?_
  split
  · exact .bind (quiet_storeAdd s) fun _ => quiet_notify _
  · exact .bind (quiet_update (fun _ => rfl) (fun _ => rfl) (fun _ => rfl)) fun _ => quiet_notify _

theorem quiet_removeOne (kind : BatchKind) (s : Statement) :
    Quiet (removeOne kind s : Call σ _) := by
  refine quiet_isDirect.bind fun direct => ?_
  split
  · exact .bind (quiet_storeRemove s) fun _ => quiet_notify _
  · exact .bind (quiet_update (fun _ => rfl) (fun _ => rfl) (fun _ => rfl)) fun _ => quiet_notify _

theorem quiet_add (kind : BatchKind) (subject predicate object : Term) (graphs : List GraphName) :
    Quiet (add kind subject predicate object graphs : Call σ _) := by
  have hstage : Quiet (do
      checkWritable
      let graphs := if graphs.isEmpty then [none] else graphs
      (graphs.map fun g => ⟨subject, predicate, object, g⟩).forM (addOne kind) : Call σ PUnit) :=
    quiet_checkWritable.bind fun _ => .forM (quiet_addOne kind)
  exact .refuse rfl fun _ => .refuse rfl fun _ => hstage

theorem quiet_flush : Quiet (flush : Call σ _) := by
  refine quiet_self.bind fun c => (quiet_native _).bind fun _ => .forM fun b => ?_
  exact (Quiet.forM quiet_storeRemove).bind fun _ => .forM quiet_storeAdd

theorem quiet_getNamespaces : Quiet (getNamespaces : Call σ _) :=
  quiet_self.bind fun _ => (quiet_native _).bind fun _ => .pure _

theorem quiet_namespaceOf (label : String) : Quiet (namespaceOf label : Call σ _) :=
  quiet_self.bind fun _ => quiet_native _

end Connection

end QuadTxn
