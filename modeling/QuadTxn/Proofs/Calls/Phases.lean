import QuadTxn.Proofs.Calls.Coherent

/-!
# Changes of phase

What beginning, preparing and ending a transaction can come to, from a coherent frame: every call
that need not wait has an equation, and a call that has not waited has come to one of the listed
ends (`Frame.Prepares`, `Frame.Commits`).
-/

namespace QuadTxn

namespace Frame

/-! ## Abandoning -/

theorem abandoned_locked {st : Frame Session} (h : st.coordinator.gate.writer = none) :
    st.locked.abandoned = st.abandoned := by
  obtain ⟨self, store, ⟨⟨writer, readers⟩, _⟩⟩ := st
  obtain rfl : writer = none := h
  simp [abandoned, locked, released, Gate.hold, Gate.release]

/-- What is forgotten with the transaction makes no difference. -/
theorem NativeOnly.abandoned_eq {st st' : Frame Session} (h : NativeOnly st st') :
    st'.abandoned = st.abandoned := by
  obtain ⟨session, net, rfl⟩ := h
  rfl

/-- The frame after the store has failed to prepare once. -/
def prepareFailed (st : Frame Session) : Frame Session :=
  { st with store := { st.store with failPrepare := false } }

/-- The frame after the store has failed to commit once. -/
def commitFailed (st : Frame Session) : Frame Session :=
  { st with store := { st.store with failCommit := false } }

/-- The native transaction can be had: it runs already, or the gate can be taken. -/
def Available (st : Frame Session) : Prop := st.self.phase = .direct ∨ st.Free

/-- What preparing a running transaction can come to. -/
inductive Prepares (st : Frame Session) : Except TxnError Unit → Frame Session → Prop where
  /-- there is nothing to do -/
  | skip : st.unwritable? ≠ none → Prepares st (.ok ()) st
  /-- the gate is not free in time -/
  | timeout {ms : Nat} : st.self.phase = .staging → ¬st.Free → st.self.lockTimeout = some ms →
      Prepares st (.error (.lockTimeout ms)) st.abandoned
  /-- the ledger does not allow it -/
  | conflict {e : TxnError} : st.unwritable? = none → st.Available → st.verdict? = some e →
      Prepares st (.error e) st.abandoned
  /-- the store fails -/
  | failed : st.unwritable? = none → st.Available → st.verdict? = none →
      st.store.failPrepare = true →
      Prepares st (.error (.storage (.injected "prepare"))) st.abandoned.prepareFailed
  /-- the transaction is prepared -/
  | done : st.unwritable? = none → st.Available → st.verdict? = none →
      st.store.failPrepare = false → Prepares st (.ok ()) st.engaged.flushed.prepared

section Prepare

variable {st : Frame Session} (h : st.Coherent)

include h

theorem engaged_open : st.engaged.self.session.Open := by
  rw [engaged]
  split
  · exact (h.direct ‹_›).1
  · exact ⟨_, rfl, rfl⟩

omit h in
@[simp] theorem engaged_store : st.engaged.store = st.store := by
  rw [engaged]
  split <;> rfl

omit h in
@[simp] theorem engaged_staging : st.engaged.self.staging = st.self.staging := by
  rw [engaged]
  split <;> rfl

theorem abandoned_engaged (ha : st.Available) : st.engaged.abandoned = st.abandoned := by
  rw [engaged]
  split
  · rfl
  · rename_i hp
    have hw := h.free_iff.mp (ha.resolve_left hp)
    exact (NativeOnly.abandoned_eq ⟨_, _, rfl⟩).trans (abandoned_locked hw)

omit h in
/-- Writing all that is staged and making the native transaction ready for commit. -/
theorem seal_of_open (hopen : st.self.session.Open)
    (hwf : ∀ s, st.self.staging.isAdded s = true → s.WellFormed) :
    (do Connection.flush
        Call.native Backend.prepare
        Call.update fun c => { c with phase := .prepared } : Call Session PUnit) st =
      if st.store.failPrepare then
        .error (.storage (.injected "prepare")) st.flushed.prepareFailed
      else .ok ⟨⟩ st.flushed.prepared := by
  obtain ⟨t, ht, -⟩ : st.flushed.self.session.Open := flushed_open hopen
  have hstore : st.flushed.store = st.store := by
    obtain ⟨session, net, heq⟩ := flushed_nativeOnly st
    rw [heq, update_store]
  rw [Action.bind_apply, flush_eq hopen hwf, Outcome.bind_ok]
  simp only [Action.bind_apply, Call.native, Backend.prepare, Session.prepare, ht, hstore]
  rcases st.store.failPrepare with _ | _
  · simp [Frame.prepared, update, Session.sealed, ht, hstore]
  · simp [prepareFailed, hstore]

theorem seal_eq :
    (do Connection.flush
        Call.native Backend.prepare
        Call.update fun c => { c with phase := .prepared } : Call Session PUnit) st.engaged =
      if st.store.failPrepare then
        .error (.storage (.injected "prepare")) st.engaged.flushed.prepareFailed
      else .ok ⟨⟩ st.engaged.flushed.prepared := by
  have hwf : ∀ s, st.engaged.self.staging.isAdded s = true → s.WellFormed := by
    rw [engaged_staging]
    exact h.sound.wellFormed
  have hseal := seal_of_open (engaged_open h) hwf
  rwa [engaged_store] at hseal

theorem tryPrepare_direct (hp : st.self.phase = .direct) :
    Connection.tryPrepare st =
      match st.verdict? with
      | some e => .error e st
      | none =>
        if st.store.failPrepare then
          .error (.storage (.injected "prepare")) st.engaged.flushed.prepareFailed
        else .ok ⟨⟩ st.engaged.flushed.prepared := by
  have hheld : Call.holdsGate st = true := by simp [h.holdsGate, hp]
  have hcheck := checkLedger_eq st
  have hseal := seal_eq h
  have hengaged : st.engaged = st := if_pos hp
  rw [hengaged] at hseal ⊢
  rcases hv : st.verdict? with _ | e
  · rw [hv] at hcheck
    simpa [Connection.tryPrepare, hheld, hcheck, Connection.isDirect, hp] using hseal
  · rw [hv] at hcheck
    simp [Connection.tryPrepare, hheld, hcheck]

theorem tryPrepare_staging (hp : st.self.phase = .staging) (hf : st.Free) :
    Connection.tryPrepare st =
      match st.verdict? with
      | some e => .error e st.locked
      | none =>
        if st.store.failPrepare then
          .error (.storage (.injected "prepare")) st.engaged.flushed.prepareFailed
        else .ok ⟨⟩ st.engaged.flushed.prepared := by
  have hheld : Call.holdsGate st = false := by simp [h.holdsGate, hp]
  have hcheck : Connection.checkLedger st.locked =
      match st.verdict? with
      | some e => .error e st.locked
      | none => .ok ⟨⟩ st.locked := checkLedger_eq st.locked
  have hseal := seal_eq h
  have hbegin : Call.native Backend.begin st.locked = .ok ⟨⟩ st.engaged := by
    rw [engaged, if_neg (by simp [hp])]
    exact native_begin_eq (h.staging hp).1
  have hphase : st.locked.self.phase = .staging := hp
  rcases hv : st.verdict? with _ | e
  · rw [hv] at hcheck
    simpa [Connection.tryPrepare, hheld, acquireGate_eq hf, hcheck, Connection.isDirect, hphase,
      hbegin] using hseal
  · rw [hv] at hcheck
    simp [Connection.tryPrepare, hheld, acquireGate_eq hf, hcheck]

/-- Whether the gate had to be taken makes no difference to what is left of a failed attempt. -/
theorem tryPrepare_eq (hw : st.unwritable? = none) (ha : st.Available) :
    ∃ checked, checked.abandoned = st.abandoned ∧
      Connection.tryPrepare st =
        match st.verdict? with
        | some e => .error e checked
        | none =>
          if st.store.failPrepare then
            .error (.storage (.injected "prepare")) st.engaged.flushed.prepareFailed
          else .ok ⟨⟩ st.engaged.flushed.prepared := by
  by_cases hp : st.self.phase = .direct
  · exact ⟨st, rfl, tryPrepare_direct h hp⟩
  · have hf := ha.resolve_left hp
    exact ⟨st.locked, abandoned_locked (h.free_iff.mp hf),
      tryPrepare_staging h ((phase_of_writable hw).resolve_right hp) hf⟩

omit h in
theorem prepare_of_writable (hw : st.unwritable? = none) :
    Connection.prepare st = Connection.orAbandon Connection.tryPrepare st := by
  rcases phase_of_writable hw with hp | hp
  · simp [Connection.prepare, hp]
  · simp [Connection.prepare, hp]

/-- A running transaction that can have its native transaction is prepared, unless its ledger or the
store does not allow it. -/
theorem prepare_eq (hw : st.unwritable? = none) (ha : st.Available) :
    Connection.prepare st =
      match st.verdict? with
      | some e => .error e st.abandoned
      | none =>
        if st.store.failPrepare then
          .error (.storage (.injected "prepare")) st.abandoned.prepareFailed
        else .ok ⟨⟩ st.engaged.flushed.prepared := by
  -- what has been written natively by then is forgotten with the native transaction
  have hfailed : st.engaged.flushed.prepareFailed.abandoned = st.abandoned.prepareFailed :=
    congrArg prepareFailed
      ((flushed_nativeOnly st.engaged).abandoned_eq.trans (abandoned_engaged h ha))
  obtain ⟨checked, hchecked, htry⟩ := tryPrepare_eq h hw ha
  rw [prepare_of_writable hw, ← hfailed, ← hchecked]
  rcases hv : st.verdict? with _ | e
  · rw [hv] at htry
    rcases hf : st.store.failPrepare with _ | _
    · exact orAbandon_ok (by simpa [hf] using htry)
    · exact orAbandon_error (by simpa [hf] using htry)
  · rw [hv] at htry
    exact orAbandon_error htry

omit h in
theorem prepare_skip (hw : st.unwritable? ≠ none) : Connection.prepare st = .ok ⟨⟩ st := by
  rcases hp : st.self.phase with _ | _ | _ | _
  · simp [Connection.prepare, hp]
  · simp [unwritable?, hp] at hw
  · simp [unwritable?, hp] at hw
  · simp [Connection.prepare, hp]

theorem prepare_timeout (hp : st.self.phase = .staging) (hf : ¬st.Free) {ms : Nat}
    (ht : st.self.lockTimeout = some ms) :
    Connection.prepare st = .error (.lockTimeout ms) st.abandoned := by
  have hheld : Call.holdsGate st = false := by simp [h.holdsGate, hp]
  rw [prepare_of_writable (by simp [unwritable?, hp])]
  refine orAbandon_error ?_
  simp [Connection.tryPrepare, hheld, acquireGate_timeout hf ht]

theorem prepare_waits (hp : st.self.phase = .staging) (hf : ¬st.Free)
    (ht : st.self.lockTimeout = none) : (Connection.prepare st).done? = none := by
  have hheld : Call.holdsGate st = false := by simp [h.holdsGate, hp]
  obtain ⟨resume, hresume⟩ := acquireGate_waits hf ht
  rw [prepare_of_writable (by simp [unwritable?, hp])]
  refine orAbandon_waits ?_
  simp [Connection.tryPrepare, hheld, hresume]

/-- Preparing comes to one of the listed ends, or waits. -/
theorem prepares_of_done {r : Except TxnError Unit} {st' : Frame Session}
    (hd : (Connection.prepare st).done? = some (r, st')) : Prepares st r st' := by
  by_cases hw : st.unwritable? = none
  · by_cases ha : st.Available
    · rw [prepare_eq h hw ha] at hd
      rcases hv : st.verdict? with _ | e
      · rcases hf : st.store.failPrepare with _ | _
        · simp only [hv, hf] at hd
          obtain ⟨rfl, rfl⟩ := Prod.mk.inj (Option.some.inj hd)
          exact .done hw ha hv hf
        · simp only [hv, hf] at hd
          obtain ⟨rfl, rfl⟩ := Prod.mk.inj (Option.some.inj hd)
          exact .failed hw ha hv hf
      · simp only [hv] at hd
        obtain ⟨rfl, rfl⟩ := Prod.mk.inj (Option.some.inj hd)
        exact .conflict hw ha hv
    · -- only a transaction that stages its writes can find the gate taken
      obtain ⟨hdirect, hf⟩ := not_or.mp ha
      have hp := (phase_of_writable hw).resolve_right hdirect
      rcases ht : st.self.lockTimeout with _ | ms
      · rw [prepare_waits h hp hf ht] at hd
        cases hd
      · rw [prepare_timeout h hp hf ht] at hd
        obtain ⟨rfl, rfl⟩ := Prod.mk.inj (Option.some.inj hd)
        exact .timeout hp hf ht
  · rw [prepare_skip hw] at hd
    obtain ⟨rfl, rfl⟩ := Prod.mk.inj (Option.some.inj hd)
    exact .skip hw

end Prepare

/-! ## Beginning -/

section Begin

variable {st : Frame Session} (h : st.Coherent) (hp : st.self.phase = .idle)

include hp

theorem begin_staged (hr : st.self.isolation.readSnapshot = true) :
    Connection.begin st = .ok ⟨⟩ st.begun := by
  simp [Connection.begin, Connection.isActive, hp, hr]
  rfl

theorem begin_direct_eq (hr : st.self.isolation.readSnapshot = false) :
    Connection.begin st = Connection.orAbandon Connection.startDirect st.begun := by
  simp [Connection.begin, Connection.isActive, hp, hr]
  rfl

include h

theorem begin_direct (hr : st.self.isolation.readSnapshot = false) (hf : st.Free) :
    Connection.begin st = .ok ⟨⟩ st.begun.locked.opened.direct := by
  have hacquire : Call.acquireGate st.begun = .ok ⟨⟩ st.begun.locked := acquireGate_eq hf
  have hopen : Call.native Backend.begin st.begun.locked = .ok ⟨⟩ st.begun.locked.opened :=
    native_begin_eq (h.idle hp).1
  rw [begin_direct_eq hp hr]
  refine orAbandon_ok ?_
  simp [Connection.startDirect, hacquire, hopen]
  rfl

omit h in
theorem begin_timeout (hr : st.self.isolation.readSnapshot = false) (hf : ¬st.Free) {ms : Nat}
    (ht : st.self.lockTimeout = some ms) :
    Connection.begin st = .error (.lockTimeout ms) st.begun.abandoned := by
  have hheld : ¬st.begun.Free := hf
  have hacquire : Call.acquireGate st.begun = .error (.lockTimeout ms) st.begun :=
    acquireGate_timeout hheld ht
  rw [begin_direct_eq hp hr]
  refine orAbandon_error ?_
  simp [Connection.startDirect, hacquire]

omit h in
theorem begin_waits (hr : st.self.isolation.readSnapshot = false) (hf : ¬st.Free)
    (ht : st.self.lockTimeout = none) : (Connection.begin st).done? = none := by
  obtain ⟨resume, hresume⟩ : ∃ resume, Call.acquireGate st.begun =
    .waits st.begun .exclusive resume := acquireGate_waits hf ht
  rw [begin_direct_eq hp hr]
  refine orAbandon_waits ?_
  simp [Connection.startDirect, hresume]

end Begin

/-! ## Ending -/

/-- What a commit can come to. -/
inductive Commits (st : Frame Session) :
    Except TxnError (Option ChangeSet) → Frame Session → Prop where
  /-- there is nothing to do -/
  | skip : st.self.isActive = false → Commits st (.ok none) st
  /-- the transaction cannot be prepared -/
  | refused {e : TxnError} {st' : Frame Session} : st.self.isActive = true →
      Prepares st (.error e) st' → Commits st (.error e) st'
  /-- the store fails -/
  | failed {st' : Frame Session} : st.self.isActive = true → Prepares st (.ok ()) st' →
      st'.store.failCommit = true →
      Commits st (.error (.storage (.injected "commit"))) st'.abandoned.commitFailed
  /-- the transaction is committed -/
  | done {st' : Frame Session} : st.self.isActive = true → Prepares st (.ok ()) st' →
      st'.store.failCommit = false → Commits st (.ok (some st'.published)) st'.committed

section End

variable {st : Frame Session}

/-- A prepared transaction has a native transaction that takes no more writes. -/
theorem prepared_txn (h : st.Coherent) {st' : Frame Session} (hp : Prepares st (.ok ()) st')
    (hact : st.self.isActive = true) : ∃ t, st'.self.session.txn = some t ∧ t.prepared = true := by
  cases hp with
  | skip hw =>
    obtain ⟨t, ht, hprep, -⟩ := h.prepared (prepared_of_unwritable hact hw)
    exact ⟨t, ht, hprep⟩
  | done hw ha hv hf =>
    obtain ⟨t, ht, -⟩ := flushed_open (engaged_open h)
    exact ⟨{ t with prepared := true }, by simp [Frame.prepared, Session.sealed, ht], rfl⟩

theorem native_commit_eq {t : NativeTxn} (ht : st.self.session.txn = some t) :
    (do Connection.orAbandon (Call.native Backend.commit)
        some <$> Connection.conclude : Call Session (Option ChangeSet)) st =
      if st.store.failCommit then
        .error (.storage (.injected "commit")) st.abandoned.commitFailed
      else .ok (some st.published) st.committed := by
  rcases hf : st.store.failCommit with _ | _
  · have hcommit : Connection.orAbandon (Call.native Backend.commit) st = .ok ⟨⟩
        { st with
          self := { st.self with session := ⟨none⟩ }
          store := st.committed.store } := by
      refine orAbandon_ok ?_
      simp [Call.native, Backend.commit, Session.commit, ht, hf, committed, journal]
    rw [Action.bind_apply, hcommit]
    simp [Connection.conclude, Connection.settle, Call.release]
    exact ⟨rfl, rfl⟩
  · have hcommit : Connection.orAbandon (Call.native Backend.commit) st =
        .error (.storage (.injected "commit")) st.abandoned.commitFailed := by
      have hnative : Call.native (Backend.commit : SessionM Session PUnit) st =
          .error (.storage (.injected "commit"))
            (st.commitFailed.update fun c => { c with session := ⟨none⟩ }) := by
        simp [Call.native, Backend.commit, Session.commit, ht, hf]
        rfl
      exact orAbandon_error hnative
    rw [Action.bind_apply, hcommit]
    rfl

theorem commit_eq_bind (hact : st.self.isActive = true) :
    Connection.commit st = (Connection.prepare st).bind fun _ => (do
      Connection.orAbandon (Call.native Backend.commit)
      some <$> Connection.conclude) := by
  simp only [Connection.commit, Action.bind_apply, Call.self_apply, Outcome.bind_ok, hact]
  rfl

/-- A transaction that nothing speaks against is committed. -/
theorem commit_eq (h : st.Coherent) (hw : st.unwritable? = none) (ha : st.Available)
    (hv : st.verdict? = none) (hprepare : st.store.failPrepare = false)
    (hcommit : st.store.failCommit = false) :
    Connection.commit st = .ok (some st.engaged.flushed.prepared.published)
      st.engaged.flushed.prepared.committed := by
  have hact := isActive_of_writable hw
  obtain ⟨t, ht, -⟩ := prepared_txn h (.done hw ha hv hprepare) hact
  have hstore : st.engaged.flushed.prepared.store = st.store := by
    obtain ⟨session, net, heq⟩ := flushed_nativeOnly st.engaged
    rw [Frame.prepared, update_store, heq, update_store, engaged_store]
  rw [commit_eq_bind hact, prepare_eq h hw ha, hv, hprepare]
  exact (native_commit_eq ht).trans (if_neg (by simp [hstore, hcommit]))

/-- A commit comes to one of the listed ends, or waits. -/
theorem commits_of_done (h : st.Coherent) {r : Except TxnError (Option ChangeSet)}
    {st' : Frame Session} (hd : (Connection.commit st).done? = some (r, st')) :
    Commits st r st' := by
  rcases hact : st.self.isActive with _ | _
  · simp only [Connection.commit, Action.bind_apply, Call.self_apply, Outcome.bind_ok, hact] at hd
    obtain ⟨rfl, rfl⟩ := Prod.mk.inj (Option.some.inj hd)
    exact .skip hact
  · rw [commit_eq_bind hact] at hd
    rcases hprep : Connection.prepare st with ⟨a, st₁⟩ | ⟨e, st₁⟩ | _
    · have hok : Prepares st (.ok ()) st₁ := prepares_of_done h (by rw [hprep]; rfl)
      obtain ⟨t, ht, -⟩ := prepared_txn h hok hact
      -- a prepared transaction holds the gate, and only the store can still fail
      rw [hprep, Outcome.bind_ok, native_commit_eq ht] at hd
      rcases hf : st₁.store.failCommit with _ | _
      · simp only [hf] at hd
        obtain ⟨rfl, rfl⟩ := Prod.mk.inj (Option.some.inj hd)
        exact .done hact hok hf
      · simp only [hf] at hd
        obtain ⟨rfl, rfl⟩ := Prod.mk.inj (Option.some.inj hd)
        exact .failed hact hok hf
    · have herror : Prepares st (.error e) st₁ := prepares_of_done h (by rw [hprep]; rfl)
      rw [hprep] at hd
      obtain ⟨rfl, rfl⟩ := Prod.mk.inj (Option.some.inj hd)
      exact .refused hact herror
    · rw [hprep] at hd
      cases hd

/-- A rollback abandons a running transaction. -/
theorem rollback_eq (st : Frame Session) :
    Connection.rollback st = .ok ⟨⟩ (if st.self.isActive then st.abandoned else st) := by
  obtain ⟨self, store, k⟩ := st
  rcases hact : self.isActive with _ | _
  · simp [Connection.rollback, hact]
  · obtain ⟨id, ⟨txn⟩, _⟩ := self
    cases txn with
    | none =>
      simp [Connection.rollback, hact, Backend.isActive, Session.isActive, abandon_eq]
    | some t =>
      simp [Connection.rollback, hact, Backend.isActive, Session.isActive, Call.native,
        Backend.rollback, Session.rollback, abandon_eq]
      rfl

end End

end Frame

end QuadTxn
