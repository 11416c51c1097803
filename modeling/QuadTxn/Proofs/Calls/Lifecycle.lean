import QuadTxn.Proofs.Calls.Data

/-!
# The life of a transaction, as changes of a frame

What beginning, preparing, committing, rolling back and switching a transaction do to the frame, one
function for each part, and the calls computed from these functions. Every way in which such a call
can end has its own equation.
-/

namespace QuadTxn

/-! ## Namespace bindings through a session -/

namespace Session

theorem forM_write_eq {α : Type} {s : Session} (h : s.Open) (w : α → Write) (l : List α)
    (store : Store) :
    (l.forM fun a => write (w a)) (s, store) = .ok ⟨⟩ ((l.map w).foldl record s, store) := by
  induction l generalizing s with
  | nil => rfl
  | cons a l ih =>
    change EStateM.bind (write (w a)) (fun _ => l.forM fun a => write (w a)) (s, store) = _
    rw [EStateM.bind, write_eq h]
    exact ih (h.record _)

end Session

/-- Flushing staged namespace bindings does their writes. -/
theorem NamespaceOverlay.flush_eq (o : NamespaceOverlay) {s : Session} (h : s.Open)
    (store : Store) :
    (o.flush : SessionM Session PUnit) (s, store) =
      .ok ⟨⟩ (o.writes.foldl Session.record s, store) := by
  have hrest : ∀ s : Session, s.Open →
      (do
        o.unbound.toList.forM Backend.unbindLabel
        o.bound.entries.forM fun e => Backend.bindLabel e.1 e.2 : SessionM Session PUnit)
        (s, store) = .ok ⟨⟩
          ((o.unbound.toList.map Write.unbind ++
            o.bound.entries.map fun e => Write.bind e.1 e.2).foldl Session.record s, store) := by
    intro s h
    rw [List.foldl_append]
    change EStateM.bind (o.unbound.toList.forM fun a => Session.write (.unbind a)) _ _ = _
    rw [EStateM.bind, Session.forM_write_eq h]
    exact Session.forM_write_eq (Session.open_foldl_record h _) _ _ store
  -- the labels are only all unbound where the overlay has been cleared
  rw [NamespaceOverlay.flush, writes]
  rcases hcleared : o.cleared with _ | _
  · exact hrest s h
  · change EStateM.bind (Session.write .unbindAll) _ _ = _
    rw [EStateM.bind, Session.write_eq h]
    exact hrest _ (h.record _)

/-- The connection after its transaction has ended. -/
def Connection.ended (c : Connection Session) : Connection Session :=
  { c.reset with session := ⟨none⟩ }

namespace Frame

/-! ## Parts -/

section Parts

variable {σ : Type}

/-- A transaction is registered, and stages its writes for now. -/
def begun (st : Frame σ) : Frame σ where
  self := { st.self.reset with phase := .staging, tracking := st.self.isolation.snapshot }
  store := st.store
  coordinator := st.coordinator.begin st.self.id st.self.id

/-- The gate is taken. -/
def locked (st : Frame σ) : Frame σ :=
  { st with coordinator :=
    { st.coordinator with gate := st.coordinator.gate.hold st.self.id .exclusive } }

/-- The gate is given back and the slot is released. -/
def released (k : Coordinator ConnectionId) (id : ConnectionId) : Coordinator ConnectionId :=
  Coordinator.finish { k with gate := k.gate.release id .exclusive } id

/-- Everything of the transaction is forgotten, without a commit. -/
def abandoned (st : Frame Session) : Frame Session where
  self := st.self.ended
  store := st.store
  coordinator := released st.coordinator st.self.id

/-- The native transaction is started. -/
def opened (st : Frame Session) : Frame Session :=
  st.update fun c => { c with session := ⟨some ⟨st.store.contents, [], false⟩⟩ }

/-- The transaction does its writes in the native transaction from now on. -/
def direct (st : Frame σ) : Frame σ := st.update fun c => { c with phase := .direct }

/-- The native transaction runs under the gate, as it does in a direct transaction already. -/
def engaged (st : Frame Session) : Frame Session :=
  if st.self.phase = .direct then st else st.locked.opened

/-- The native transaction is ready for commit. -/
def prepared (st : Frame Session) : Frame Session :=
  st.update fun c => { c with session := c.session.sealed, phase := .prepared }

/-- Staged writes have been done, and writes are direct from now on. -/
def switched (st : Frame Session) : Frame Session :=
  st.update fun c =>
    { c.unstage with
      phase := .direct
      isolation := { c.isolation with readSnapshot := false } }

/-- The writes of the native transaction. -/
def journal (st : Frame Session) : List Write := (st.self.session.txn.map (·.journal)).getD []

/-- The writes of the native transaction are in the store, and the transaction is forgotten. -/
def committed (st : Frame Session) : Frame Session where
  self := st.self.ended
  store :=
    { st.store with
      contents := st.store.contents.replay st.journal
      version := st.store.version + 1 }
  coordinator := released (st.coordinator.markCommitted st.self.id) st.self.id

/-- What a commit publishes. -/
def published (st : Frame σ) : ChangeSet :=
  let net := if st.coordinator.isWatched then st.self.net else ∅
  ⟨st.self.id, net.added, net.removed⟩

/-- Why the ledger does not allow a commit, if it does not. -/
def verdict? (st : Frame σ) : Option TxnError :=
  if st.self.isolation.serializable then st.self.ledger.firstConflict?.map .conflict
  else if st.self.isolation.snapshot then st.self.ledger.phantom? Read.affectedBy
  else none

/-- The gate can be taken. -/
def Free (st : Frame σ) : Prop := st.coordinator.gate.admits .exclusive = true

end Parts

/-! ## Equations of the parts -/

section Parts

variable {σ : Type}

theorem acquireGate_eq {st : Frame σ} (h : st.Free) :
    Call.acquireGate st = .ok ⟨⟩ st.locked := by
  have hfree : st.coordinator.gate.admits .exclusive = true := h
  simp [Call.acquireGate, Call.acquire, Gate.request, hfree, locked]

theorem acquireGate_timeout {st : Frame σ} (h : ¬st.Free) {ms : Nat}
    (ht : st.self.lockTimeout = some ms) :
    Call.acquireGate st = .error (.lockTimeout ms) st := by
  have hfree : st.coordinator.gate.admits .exclusive = false := by simpa [Free] using h
  simp [Call.acquireGate, Call.acquire, Gate.request, hfree, ht]

theorem acquireGate_waits {st : Frame σ} (h : ¬st.Free) (ht : st.self.lockTimeout = none) :
    ∃ resume, Call.acquireGate st = .waits st .exclusive resume := by
  have hfree : st.coordinator.gate.admits .exclusive = false := by simpa [Free] using h
  simp [Call.acquireGate, Call.acquire, Gate.request, hfree, ht]

theorem checkLedger_eq (st : Frame σ) :
    Connection.checkLedger st =
      match st.verdict? with
      | some e => .error e st
      | none => .ok ⟨⟩ st := by
  simp only [Connection.checkLedger, verdict?, Action.bind_apply, Call.self_apply,
    Outcome.bind_ok]
  by_cases hser : st.self.isolation.serializable = true
  · rw [if_pos hser, if_pos hser]
    cases st.self.ledger.firstConflict? <;> rfl
  · rw [if_neg hser, if_neg hser]
    by_cases hsnap : st.self.isolation.snapshot = true
    · rw [if_pos hsnap, if_pos hsnap]
      cases st.self.ledger.phantom? Read.affectedBy <;> rfl
    · rw [if_neg hsnap, if_neg hsnap]
      rfl

end Parts

theorem abandon_eq (st : Frame Session) :
    Connection.abandon st = .ok ⟨⟩ st.abandoned := by
  obtain ⟨self, store, k⟩ := st
  obtain ⟨id, ⟨txn⟩, _⟩ := self
  -- a native transaction that runs is rolled back, which costs the store nothing
  cases txn with
  | none =>
    simp [Connection.abandon, Connection.discard, Connection.settle, Backend.isActive,
      Session.isActive, Call.release]
    rfl
  | some t =>
    simp [Connection.abandon, Connection.discard, Connection.settle, Backend.isActive,
      Session.isActive, Call.release, Call.native, Backend.rollback, Session.rollback]
    rfl

theorem orAbandon_ok {α : Type} {step : Call Session α} {st st' : Frame Session} {a : α}
    (h : step st = .ok a st') : Connection.orAbandon step st = .ok a st' := by
  simp [Connection.orAbandon, h]

theorem orAbandon_error {α : Type} {step : Call Session α} {st st' : Frame Session}
    {e : TxnError} (h : step st = .error e st') :
    Connection.orAbandon step st = .error e st'.abandoned := by
  simp [Connection.orAbandon, h, abandon_eq]

theorem orAbandon_waits {α : Type} {step : Call Session α} {st : Frame Session}
    (h : (step st).done? = none) : (Connection.orAbandon step st).done? = none := by
  rcases hstep : step st with _ | _ | _
  · simp [hstep] at h
  · simp [hstep] at h
  · simp [Connection.orAbandon, hstep]

theorem native_begin_eq {st : Frame Session} (h : st.self.session = ⟨none⟩) :
    Call.native Backend.begin st = .ok ⟨⟩ st.opened := by
  simp [Call.native, Backend.begin, Session.begin, h]
  rfl

theorem storeBatch_eq {st : Frame Session} (h : st.self.session.Open) {b : Batch}
    (hwf : ∀ s ∈ b.adds, s.WellFormed) :
    (do b.removes.toList.forM Connection.storeRemove
        b.adds.toList.forM Connection.storeAdd : Call Session PUnit) st =
      .ok ⟨⟩ (st.storeBatch b) := by
  have hremoves : (b.removes.toList.forM Connection.storeRemove : Call Session PUnit) st =
      .ok ⟨⟩ (b.removes.toList.foldl storeRemove st) := by
    refine Action.forM_eq (P := fun st => st.self.session.Open) (fun s _ st' hst' => ?_) h
    exact ⟨storeRemove_eq hst' s, storeRemove_open hst' s⟩
  have hadds : (b.adds.toList.forM Connection.storeAdd : Call Session PUnit)
      (b.removes.toList.foldl storeRemove st) = .ok ⟨⟩ (st.storeBatch b) := by
    refine Action.forM_eq (P := fun st => st.self.session.Open) (fun s hs st' hst' => ?_)
      (foldl_open storeRemove_open h _)
    exact ⟨storeAdd_eq hst' (hwf s hs), storeAdd_open hst' s⟩
  rw [Action.bind_apply, hremoves, Outcome.bind_ok, hadds]

theorem flush_eq {st : Frame Session} (h : st.self.session.Open)
    (hwf : ∀ s, st.self.staging.isAdded s = true → s.WellFormed) :
    Connection.flush st = .ok ⟨⟩ st.flushed := by
  have hbound : Call.native st.self.namespaces.flush st = .ok ⟨⟩ st.bound := by
    rw [Call.native, NamespaceOverlay.flush_eq _ h]
    rfl
  simp only [Connection.flush, Action.bind_apply, Call.self_apply, Outcome.bind_ok, hbound]
  refine Action.forM_eq (P := fun st => st.self.session.Open) (fun b hb st' hst' => ?_)
    (Session.open_foldl_record h _)
  refine ⟨storeBatch_eq hst' fun s hs => hwf s ?_, storeBatch_open hst' b⟩
  exact Staging.isAdded_iff.mpr ⟨b, hb, hs⟩

end Frame

end QuadTxn
