import QuadTxn.Proofs.Gate.Reads
import QuadTxn.Proofs.Ledger.History

/-!
# Transactions and the gate

The calls that make a transaction direct or prepared ask for the whole gate, unless the connection
has it. With the gate in hand they ask for nothing more, and in the end the connection keeps the
gate with a transaction that is direct or prepared, or has neither (`Frame.Concludes`).
-/

namespace QuadTxn

namespace Frame

variable {σ α : Type}

theorem fair_of_leaves {st mid : Frame σ} (hmid : st.Leaves mid) {o : Outcome (Frame σ) α}
    (h : o.Fair conduct mid) : o.Fair conduct st :=
  h.of_leaves (fun _ => hmid.trans) hmid.contested

/-- A transaction that begins has the same hold of the gate, which is none. -/
theorem AtRest.begun_leaves {st : Frame σ} (h : st.AtRest) (hp : st.self.phase = .idle) :
    st.Leaves st.begun where
  id := rfl
  atRest :=
    { readers := h.readers
      writer := by
        have hno : ¬st.self.Engaged := by simp [Connection.Engaged, hp]
        exact iff_of_false (mt h.writer.mp hno) (by simp [Connection.Engaged, begun])
      direct := fun hdirect => by cases hdirect }
  others := fun _ _ => Iff.rfl

/-! ## Giving the gate back -/

section End

variable [Backend σ]

/-- Whether the native transaction can be rolled back or not, it is left behind. -/
theorem discard_stays (st : Frame σ) :
    ∃ st', Connection.discard st = .ok ⟨⟩ st' ∧ st.Stays st' := by
  rcases hact : Backend.isActive st.self.session with _ | _
  · exact ⟨st, by simp [Connection.discard, hact], .refl st⟩
  · obtain ⟨r, mid, heq, hmid⟩ := (Call.quiet_native Backend.rollback st).attempt_eq
    exact ⟨mid, by simp [Connection.discard, hact, heq], hmid⟩

theorem abandon_quits (st : Frame σ) :
    ∃ st', Connection.abandon st = .ok ⟨⟩ st' ∧ st.Quits st' := by
  obtain ⟨mid, hdiscard, hmid⟩ := discard_stays st
  refine ⟨⟨mid.self.reset, mid.store, released mid.coordinator mid.self.id⟩, ?_,
    hmid.trans_quits ⟨released_gate _ _, rfl, rfl⟩⟩
  simp [Connection.abandon, hdiscard]
  rfl

/-- A step that fails has ended the transaction. -/
theorem orAbandon_ends {step : Call σ α} {st : Frame σ} {P : α → Frame σ → Prop}
    (h : (step st).Ends (Outcome.either P st.Stays)) :
    (Connection.orAbandon step st).Ends (Outcome.either P st.Quits) := by
  refine h.attempt_bind (fun a st' hst' => hst') fun e mid he hmid => ?_
  obtain ⟨st', habandon, hst'⟩ := abandon_quits mid
  simp only [Action.bind_apply, habandon, Outcome.bind_ok]
  exact ⟨he, hmid.trans_quits hst'⟩

/-- Only what comes after the first part of a step is left to be done with an answer to it. -/
theorem orAbandon_bind {β : Type} (m : Call σ α) (f : α → Call σ β) (st : Frame σ) :
    Connection.orAbandon (m >>= f) st = (m st).attempt.bind fun
      | .ok a => Connection.orAbandon (f a)
      | .error e => (do Connection.abandon; throw e) := by
  rw [Connection.orAbandon, Action.bind_apply, Action.attempt_apply, Action.bind_apply]
  induction m st with
  | ok a st' => rfl
  | error e st' => rfl
  | waits st' mode resume ih => exact congrArg (Outcome.waits st' mode) (funext ih)

/-- A transaction that does not get the gate in time has ended. -/
theorem abandon_throw_fair {st : Frame σ} (h : st.AtRest) (hc : st.Contested) (e : TxnError) :
    ((do Connection.abandon; throw e : Call σ α) st).Fair conduct st := by
  obtain ⟨st', habandon, hst'⟩ := abandon_quits st
  rw [Action.bind_apply, habandon]
  exact ⟨h.quits hst', fun _ => hc⟩

end End

/-! ## What is done with the gate in hand -/

/-- The transaction is in another phase, and nothing else that concerns the gate has changed. -/
structure Turns (p : Phase) (st st' : Frame σ) : Prop where
  /-- the gate -/
  gate : st'.coordinator.gate = st.coordinator.gate
  /-- the name of the connection -/
  id : st'.self.id = st.self.id
  /-- how far the transaction is -/
  phase : st'.self.phase = p
  /-- the isolation flags -/
  isolation : st'.self.isolation = st.self.isolation

theorem Stays.trans_turns {p : Phase} {st₁ st₂ st₃ : Frame σ} (h₁₂ : st₁.Stays st₂)
    (h₂₃ : st₂.Turns p st₃) : st₁.Turns p st₃ where
  gate := h₂₃.gate.trans h₁₂.gate
  id := h₂₃.id.trans h₁₂.id
  phase := h₂₃.phase
  isolation := h₂₃.isolation.trans h₁₂.isolation

/-- What a call may make of a frame whose connection has the gate: the connection keeps the gate
with a transaction that is direct or prepared, or has neither. -/
structure Concludes (st st' : Frame σ) : Prop where
  /-- the name of the connection is as it was -/
  id : st'.self.id = st.self.id
  /-- a connection that stages its writes is not direct -/
  direct : st'.self.phase = .direct → st'.self.isolation.readSnapshot = false
  /-- the gate is kept or given back -/
  gate : (st'.coordinator.gate = st.coordinator.gate ∧ st'.self.Engaged) ∨
    (st'.coordinator.gate = st.coordinator.gate.release st.self.id .exclusive ∧
      ¬st'.self.Engaged)

theorem Quits.concludes {st st' : Frame σ} (h : st.Quits st') : st.Concludes st' where
  id := h.id
  direct := by
    rw [h.phase]
    exact nofun
  gate := .inr ⟨h.gate, by simp [Connection.Engaged, h.phase]⟩

theorem Turns.concludes {p : Phase} {st st' : Frame σ} (h : st.Turns p st')
    (hp : p = .direct ∨ p = .prepared)
    (hdirect : p = .direct → st.self.isolation.readSnapshot = false) : st.Concludes st' where
  id := h.id
  direct := by
    rw [h.phase, h.isolation]
    exact hdirect
  gate := .inl ⟨h.gate, by rwa [Connection.Engaged, h.phase]⟩

/-- The connection is the only one to have the gate. -/
def Owned (st : Frame σ) : Prop := st.coordinator.gate = ⟨some st.self.id, []⟩

theorem Concludes.atRest {st st' : Frame σ} (hc : st.Concludes st') (ho : st.Owned) :
    st'.AtRest := by
  rcases hc.gate with ⟨hgate, he⟩ | ⟨hgate, he⟩
  · rw [ho, ← hc.id] at hgate
    exact ⟨by rw [hgate], by simp [hgate, he], hc.direct⟩
  · rw [ho] at hgate
    exact ⟨by rw [hgate, Gate.release], by simp [hgate, Gate.release, he], hc.direct⟩

theorem Concludes.not_others {st st' : Frame σ} (hc : st.Concludes st') (ho : st.Owned)
    {j : ConnectionId} (hj : j ≠ st.self.id) : st'.coordinator.gate.writer ≠ some j := by
  rcases hc.gate with ⟨hgate, -⟩ | ⟨hgate, -⟩
  · rw [hgate, ho]
    exact fun hsome => hj (Option.some.inj hsome).symm
  · rw [hgate, ho, Gate.release, if_pos rfl]
    exact (Option.some_ne_none j).symm

/-- A call that has the gate to begin with leaves it to the connection or free. -/
theorem AtRest.concludes {st st' : Frame σ} (h : st.AtRest) (he : st.self.Engaged)
    (hc : st.Concludes st') : st.Leaves st' := by
  have hw := h.writer.mpr he
  have ho : st.Owned := congr (congrArg Gate.mk hw) h.readers
  refine ⟨hc.id, hc.atRest ho, fun j hj => iff_of_false (hc.not_others ho hj) ?_⟩
  rw [hw]
  exact fun hsome => hj (Option.some.inj hsome).symm

/-- A call that gets the gate leaves it to the connection or free. -/
theorem Resumes.concludes {mid later st' : Frame σ} (h : Resumes mid .exclusive later)
    (hc : (later.held .exclusive).Concludes st') : later.Leaves st' := by
  have ho : (later.held .exclusive).Owned := by
    simp [Owned, held, Gate.hold, h.atRest.readers]
  have hw : later.coordinator.gate.writer = none := by
    have hadmits := h.admits
    simpa [Gate.admits, h.atRest.readers] using hadmits
  refine ⟨hc.id, hc.atRest ho, fun j hj => iff_of_false (hc.not_others ho hj) ?_⟩
  rw [hw]
  exact (Option.some_ne_none j).symm

theorem Turns.leaves {p : Phase} {mid later st' : Frame σ} (hr : Resumes mid .exclusive later)
    (ht : (later.held .exclusive).Turns p st') (hp : p = .direct ∨ p = .prepared)
    (hdirect : p = .direct → mid.self.isolation.readSnapshot = false) : later.Leaves st' := by
  refine hr.concludes (ht.concludes hp fun h => ?_)
  exact (congrArg Isolation.readSnapshot hr.isolation).trans (hdirect h)

end Frame

/-! ## Preparing -/

/-- The call puts the transaction into another phase, or fails and leaves the phase as it was. -/
def Call.Turning {σ : Type} (p : Phase) (m : Call σ Unit) : Prop :=
  ∀ st, (m st).Ends (Outcome.either (fun _ => st.Turns p) st.Stays)

theorem Call.Quiet.turning {σ α : Type} {p : Phase} {m : Call σ α} (hm : m.Quiet)
    {f : α → Call σ Unit} (hf : ∀ a, (f a).Turning p) : (m >>= f).Turning p := fun st =>
  (hm st).bind
    (fun a mid hmid => (hf a mid).mono fun r _ hr => match r with
      | .ok _ => hmid.trans_turns hr
      | .error _ => hmid.trans hr)
    fun _ _ hmid => hmid

theorem Call.turning_update {σ : Type} {p : Phase} :
    (Call.update fun c => { c with phase := p } : Call σ Unit).Turning p :=
  fun _ => ⟨rfl, rfl, rfl, rfl⟩

namespace Connection

variable {σ : Type} [Backend σ]

/-- What is left of a preparation once the connection has the gate. -/
def makeReady : Call σ Unit := do
  checkLedger
  if !(← isDirect) then Call.native Backend.begin
  flush
  Call.native Backend.prepare
  Call.update fun c => { c with phase := .prepared }

theorem tryPrepare_eq (st : Frame σ) :
    tryPrepare st = if Call.holdsGate st then makeReady st
      else (Call.acquireGate >>= fun _ => makeReady) st := by
  rcases hheld : Call.holdsGate st with _ | _
  · simp [tryPrepare, hheld, makeReady]
  · simp [tryPrepare, hheld, makeReady]

omit [Backend σ] in
/-- All that a ledger can speak against is a conflict. -/
theorem isConflict_of_verdict {st : Frame σ} {e : TxnError} (hv : st.verdict? = some e) :
    e.isConflict = true := by
  rw [Frame.verdict?] at hv
  split at hv
  · obtain ⟨c, -, rfl⟩ := Option.map_eq_some_iff.mp hv
    rfl
  · obtain ⟨observed, cause, rfl⟩ :=
      Ledger.eq_phantom_of_phantom? (Option.ite_none_right_eq_some.mp hv).2
    rfl

omit [Backend σ] in
theorem quiet_checkLedger : (checkLedger : Call σ _).Quiet := by
  intro st
  rw [Frame.checkLedger_eq]
  split
  · rename_i e hv
    refine ⟨?_, .refl st⟩
    have he := isConflict_of_verdict hv
    cases e with
    | lockTimeout ms => cases he
    | _ => rfl
  · exact .refl st

theorem turning_makeReady : (makeReady : Call σ _).Turning .prepared := by
  have hwrite : (do flush
                    Call.native Backend.prepare
                    Call.update fun c => { c with phase := .prepared } :
      Call σ Unit).Turning .prepared :=
    quiet_flush.turning fun _ => (Call.quiet_native _).turning fun _ => Call.turning_update
  refine quiet_checkLedger.turning fun _ => quiet_isDirect.turning fun direct => ?_
  split
  · exact (Call.quiet_native _).turning fun _ => hwrite
  · exact hwrite

/-- With the gate in hand the transaction is prepared, or it has ended. -/
theorem ready_ends (st : Frame σ) : (orAbandon makeReady st).Ends
    (Outcome.either (fun _ => st.Turns .prepared) st.Quits) :=
  Frame.orAbandon_ends (turning_makeReady st)

section AtRest

variable {st : Frame σ} (h : st.AtRest)

include h

/-- A transaction that has the gate is prepared without asking for anything. -/
theorem prepare_ends (he : st.self.Engaged) :
    (prepare st).Ends (Outcome.either (fun _ => st.Leaves) st.Quits) := by
  rcases he with hp | hp
  · have hheld : Call.holdsGate st = true := h.holdsGate_iff.mpr (.inl hp)
    have heq : prepare st = orAbandon makeReady st := by
      simp [prepare, hp, orAbandon, tryPrepare_eq, hheld]
    rw [heq]
    refine (ready_ends st).mono fun r st' hst' => ?_
    cases r with
    | ok a => exact h.concludes (.inl hp) (hst'.concludes (.inr rfl) (by simp))
    | error e => exact hst'
  · have heq : prepare st = .ok ⟨⟩ st := by simp [prepare, hp]
    rw [heq]
    exact h.stays (.refl st)

/-- A preparation asks for the gate only if the transaction stages its writes. -/
theorem prepare_fair : (prepare st).Fair Frame.conduct st := by
  by_cases he : st.self.Engaged
  · refine Outcome.Ends.fair ((prepare_ends h he).mono fun r st' hst' => ?_)
    cases r with
    | ok a => exact hst'
    | error e => exact h.quits hst'
  · rcases hp : st.self.phase with _ | _ | _ | _
    · exact Frame.fair_of_ok h ⟨⟩ (by simp [prepare, hp])
    · have hheld : Call.holdsGate st = false := Bool.eq_false_iff.mpr (mt h.holdsGate_iff.mp he)
      have heq : prepare st = orAbandon (Call.acquireGate >>= fun _ => makeReady) st := by
        simp [prepare, hp, orAbandon, tryPrepare_eq, hheld]
      rw [heq, Frame.orAbandon_bind]
      refine Frame.fair_of_acquire h hp (fun later => ?_)
        fun ms hc => Frame.abandon_throw_fair h hc _
      refine (ready_ends _).mono fun r st' hst' hr => ?_
      cases r with
      | ok a => exact Frame.Turns.leaves hr hst' (.inr rfl) (by simp)
      | error e => exact hr.concludes hst'.concludes
    · exact absurd (.inl hp) he
    · exact absurd (.inr hp) he

end AtRest

/-! ## Ending -/

omit [Backend σ] in
theorem conclude_quits (st : Frame σ) : (conclude st).Ends fun _ st' => st.Quits st' :=
  ⟨(Frame.released_gate _ _).trans (by rw [Frame.markCommitted_gate]; rfl), rfl, rfl⟩

/-- Committing what is prepared asks for nothing, and the transaction has ended in any case. -/
theorem committing_quits (st : Frame σ) :
    ((do orAbandon (Call.native Backend.commit); some <$> conclude : Call σ _) st).Ends
      fun _ st' => st.Quits st' := by
  have hcommit : (orAbandon (Call.native Backend.commit) st).Ends
      (Outcome.either (fun _ => st.Stays) st.Quits) := by
    refine Frame.orAbandon_ends ((Call.quiet_native Backend.commit st).mono fun r _ hst' => ?_)
    cases r <;> exact hst'
  refine hcommit.bind (fun _ mid hmid => ?_) fun _ _ hquits => hquits
  exact (conclude_quits mid).bind (fun _ _ hst' => hmid.trans_quits hst')
    fun _ _ hst' => hmid.trans_quits hst'

theorem commit_eq_bind {st : Frame σ} (hact : st.self.isActive = true) :
    commit st = (prepare st).bind fun _ =>
      (do orAbandon (Call.native Backend.commit); some <$> conclude : Call σ _) := by
  simp [commit, hact]

section AtRest

variable {st : Frame σ} (h : st.AtRest)

include h

theorem commit_fair : (commit st).Fair Frame.conduct st := by
  rcases hact : st.self.isActive with _ | _
  · exact Frame.fair_of_ok h none (by simp [commit, hact])
  · rw [commit_eq_bind hact]
    exact (prepare_fair h).bind fun _ mid => (committing_quits mid).mono fun _ _ hst' _ hleaves =>
      hleaves.trans (hleaves.atRest.quits hst')

/-- A transaction that has the gate is committed without asking for anything, and ends. -/
theorem commit_ends (he : st.self.Engaged) :
    (commit st).Ends fun _ st' => st.Leaves st' ∧ st'.self.phase = .idle := by
  have hact : st.self.isActive = true := by
    rcases he with hp | hp <;> simp [isActive, hp]
  rw [commit_eq_bind hact]
  refine (prepare_ends h he).bind (fun _ mid hmid => ?_) fun _ st' hst' => ?_
  · exact (committing_quits mid).mono fun _ st' hst' =>
      ⟨hmid.trans (hmid.atRest.quits hst'), hst'.phase⟩
  · exact ⟨h.quits hst', hst'.phase⟩

/-- A rollback asks for nothing, and the transaction has ended in any case. -/
theorem rollback_ends :
    (rollback st).Ends fun _ st' => st.Leaves st' ∧ st'.self.phase = .idle := by
  rcases hact : st.self.isActive with _ | _
  · have heq : rollback st = .ok ⟨⟩ st := by simp [rollback, hact]
    rw [heq]
    exact ⟨h.stays (.refl st), by simpa [isActive] using hact⟩
  · rcases hnative : Backend.isActive st.self.session with _ | _
    · obtain ⟨st', habandon, hst'⟩ := Frame.abandon_quits st
      have heq : rollback st = .ok ⟨⟩ st' := by simp [rollback, hact, hnative, habandon]
      rw [heq]
      exact ⟨h.quits hst', hst'.phase⟩
    · -- what came of the native rollback is reported after the end
      rcases (Call.quiet_native Backend.rollback).stays st with
        ⟨a, mid, hback, hmid⟩ | ⟨e, mid, hback, he, hmid⟩
      · obtain ⟨st', habandon, hst'⟩ := Frame.abandon_quits mid
        have heq : rollback st = .ok ⟨⟩ st' := by
          simp [rollback, hact, hnative, hback, habandon]
        rw [heq]
        exact ⟨h.quits (hmid.trans_quits hst'), hst'.phase⟩
      · obtain ⟨st', habandon, hst'⟩ := Frame.abandon_quits mid
        have heq : rollback st = .error e st' := by
          simp [rollback, hact, hnative, hback, habandon, Action.ofExcept]
        rw [heq]
        exact ⟨he, h.quits (hmid.trans_quits hst'), hst'.phase⟩

/-! ## Beginning -/

/-- A begin asks for the gate only if it is to write directly. -/
theorem begin_fair : (begin st).Fair Frame.conduct st := by
  rcases hact : st.self.isActive with _ | _
  · have hp : st.self.phase = .idle := phase_of_inactive hact
    have hbegun := h.begun_leaves hp
    rcases hread : st.self.isolation.readSnapshot with _ | _
    · have heq : begin st = orAbandon (Call.acquireGate >>= fun _ => do
          Call.native Backend.begin
          Call.update fun c => { c with phase := .direct }) st.begun := by
        simp [begin, hact, hread, startDirect]
        rfl
      have hstart : (do
          Call.native Backend.begin
          Call.update fun c => { c with phase := .direct } : Call σ Unit).Turning .direct :=
        (Call.quiet_native _).turning fun _ => Call.turning_update
      rw [heq, Frame.orAbandon_bind]
      refine Frame.fair_of_leaves hbegun (Frame.fair_of_acquire hbegun.atRest rfl
        (fun later => ?_) fun ms hc => Frame.abandon_throw_fair hbegun.atRest hc _)
      refine (Frame.orAbandon_ends (hstart _)).mono fun r st' hst' hr => ?_
      cases r with
      | ok a => exact Frame.Turns.leaves hr hst' (.inl rfl) fun _ => hread
      | error e => exact hr.concludes hst'.concludes
    · have heq : begin st = .ok ⟨⟩ st.begun := by
        simp [begin, hact, hread]
        rfl
      rw [heq]
      exact hbegun
  · exact Frame.fair_of_error h .alreadyActive rfl (by simp [begin, hact])

end AtRest

/-! ## Changes of isolation -/

/-- What is left of a switch once the connection has the gate. -/
def goDirect : Call σ Unit := do
  try Call.native Backend.begin
  catch e =>
    Call.release .exclusive
    throw e
  try flush
  catch e =>
    let _ ← (Call.native Backend.rollback).attempt
    Call.update fun c => { c with net := ∅ }
    Call.release .exclusive
    throw e
  Call.update fun c =>
    { c.unstage with
      phase := .direct
      isolation := { c.isolation with readSnapshot := false } }

/-- A transaction that is not prepared switches by taking the gate. -/
theorem switchToDirect_eq {st : Frame σ} (hp : st.self.phase = .staging) :
    switchToDirect st = (Call.acquireGate st).bind fun _ => goDirect := by
  simp [switchToDirect, goDirect, hp]

omit [Backend σ] in
/-- A transaction that goes on as before without the gate. -/
theorem release_concludes {st mid : Frame σ} (hmid : st.Stays mid) (hp : st.self.phase = .staging) :
    st.Concludes { mid with coordinator :=
      { mid.coordinator with gate := mid.coordinator.gate.release mid.self.id .exclusive } } where
  id := hmid.id
  direct := by
    rw [hmid.phase, hp]
    exact nofun
  gate := .inr ⟨by rw [hmid.gate, hmid.id], by simp [Connection.Engaged, hmid.phase, hp]⟩

/-- The switch goes through if the native transaction starts and takes all that is staged. -/
theorem goDirect_ok {st opened flushed : Frame σ} {a b : Unit}
    (hbegin : Call.native Backend.begin st = .ok a opened) (hflush : flush opened = .ok b flushed) :
    goDirect st = .ok ⟨⟩ (flushed.update fun c =>
      { c.unstage with
        phase := .direct
        isolation := { c.isolation with readSnapshot := false } }) := by
  simp [goDirect, Action.tryCatch_ok hbegin, Action.tryCatch_ok hflush]
  rfl

/-- What has been written of it is rolled back if not all that is staged can be written. -/
theorem goDirect_unflushed {st opened failed mid : Frame σ} {a : Unit} {e : TxnError}
    {r : Except TxnError Unit} (hbegin : Call.native Backend.begin st = .ok a opened)
    (hflush : flush opened = .error e failed)
    (hback : (Call.native Backend.rollback failed).attempt = .ok r mid) :
    goDirect st = .error e { mid with
      self := { mid.self with net := ∅ }
      coordinator := { mid.coordinator with
        gate := mid.coordinator.gate.release mid.self.id .exclusive } } := by
  simp [goDirect, Action.tryCatch_ok hbegin, Action.tryCatch_error hflush, hback, Call.release]

theorem goDirect_unopened {st mid : Frame σ} {e : TxnError}
    (hbegin : Call.native Backend.begin st = .error e mid) :
    goDirect st = .error e { mid with coordinator :=
      { mid.coordinator with gate := mid.coordinator.gate.release mid.self.id .exclusive } } := by
  simp [goDirect, Action.tryCatch_error hbegin, Call.release]

/-- A transaction that stages its writes gives the gate back if it cannot write directly. -/
theorem goDirect_ends (st : Frame σ) :
    (goDirect st).Ends fun _ st' => st.self.phase = .staging → st.Concludes st' := by
  rcases (Call.quiet_native Backend.begin).stays st with
    ⟨a, opened, hbegin, hopened⟩ | ⟨e, mid, hbegin, he, hmid⟩
  · rcases quiet_flush.stays opened with
      ⟨b, flushed, hflush, hflushed⟩ | ⟨e, failed, hflush, he, hfailed⟩
    · have hst := hopened.trans hflushed
      rw [goDirect_ok hbegin hflush]
      exact fun _ => ⟨hst.id, fun _ => rfl, .inl ⟨hst.gate, .inl rfl⟩⟩
    · obtain ⟨r, mid, hback, hmid⟩ := (Call.quiet_native Backend.rollback failed).attempt_eq
      have hst := (hopened.trans hfailed).trans hmid
      have hforgot : st.Stays (mid.update fun c => { c with net := ∅ }) :=
        ⟨hst.gate, hst.id, hst.phase, hst.isolation⟩
      rw [goDirect_unflushed hbegin hflush hback]
      exact ⟨he, release_concludes hforgot⟩
  · rw [goDirect_unopened hbegin]
    exact ⟨he, release_concludes hmid⟩

section AtRest

variable {st : Frame σ} (h : st.AtRest)

include h

/-- A switch asks for the gate in a transaction that stages its writes. -/
theorem switchToDirect_fair (hp : st.self.phase = .staging) :
    (switchToDirect st).Fair Frame.conduct st := by
  rw [switchToDirect_eq hp]
  exact Frame.fair_of_acquire_bind h hp fun later => (goDirect_ends _).mono fun _ st' hst' hr =>
    hr.concludes (hst' hr.phase)

/-- Whether writes are staged can be changed at will between transactions; inside one the change
asks for the gate only if there is something to switch. -/
theorem setReadSnapshot_fair (on : Bool) : (setReadSnapshot on st).Fair Frame.conduct st := by
  rcases hact : st.self.isActive with _ | _
  · have heq : setReadSnapshot on st = .ok ⟨⟩
        (st.update fun c => { c with isolation := { c.isolation with readSnapshot := on } }) := by
      simp [setReadSnapshot, hact]
      rfl
    have hp : st.self.phase = .idle := phase_of_inactive hact
    rw [heq]
    exact ⟨rfl, ⟨h.readers, h.writer, fun hd => by cases hp.symm.trans hd⟩, fun _ _ => Iff.rfl⟩
  · rcases hread : st.self.isolation.readSnapshot with _ | _ <;> rcases on with _ | _
    · exact Frame.fair_of_ok h ⟨⟩ (by simp [setReadSnapshot, hact, hread])
    · refine Frame.fair_of_error h
        (.isolationLocked "cannot stage writes in a write-through transaction") rfl ?_
      simp [setReadSnapshot, hact, hread]
    · have heq : setReadSnapshot false st = switchToDirect st := by
        simp [setReadSnapshot, hact, hread]
      rw [heq]
      rcases hp : st.self.phase with _ | _ | _ | _
      · exact absurd hp (isActive_iff.mp hact)
      · exact switchToDirect_fair h hp
      · -- a direct transaction has nothing to switch
        rw [h.direct hp] at hread
        cases hread
      · refine Frame.fair_of_error h (.isolationLocked "transaction is prepared") rfl ?_
        simp [switchToDirect, hp]
    · exact Frame.fair_of_ok h ⟨⟩ (by simp [setReadSnapshot, hact, hread])

omit [Backend σ]

/-- Flags may be set that do not stage the writes of a direct transaction. -/
theorem flags_leaves {i : Isolation} (hdirect : st.self.phase = .direct → i.readSnapshot = false) :
    st.Leaves (st.update fun c => { c with isolation := i }) :=
  ⟨rfl, ⟨h.readers, h.writer, hdirect⟩, fun _ _ => Iff.rfl⟩

theorem setSnapshot_fair (on : Bool) : (setSnapshot on st).Fair Frame.conduct st := by
  by_cases hlocked : st.self.isActive ∧ st.self.isolation.snapshot ≠ on
  · refine Frame.fair_of_error h
      (.isolationLocked "snapshot tracking is fixed while a transaction runs") rfl ?_
    simp [setSnapshot, hlocked]
  · simp only [setSnapshot, Action.bind_apply, Call.self_apply, Outcome.bind_ok, if_neg hlocked]
    exact flags_leaves h h.direct

theorem setSerializable_fair (on : Bool) :
    (setSerializable on st).Fair Frame.conduct st := by
  by_cases hlocked : st.self.isActive ∧ st.self.isolation.serializable ≠ on
  · refine Frame.fair_of_error h
      (.isolationLocked "serializable is fixed while a transaction runs") rfl ?_
    simp [setSerializable, hlocked]
  · simp only [setSerializable, Action.bind_apply, Call.self_apply, Outcome.bind_ok,
      if_neg hlocked]
    exact flags_leaves h h.direct

/-- The level of a running transaction is not changed, and so a direct one goes on writing
through. -/
theorem setIsolation_fair (level : IsolationLevel) :
    (setIsolation level st).Fair Frame.conduct st := by
  by_cases hlocked : st.self.isActive ∧ st.self.level ≠ level
  · refine Frame.fair_of_error h
      (.isolationLocked ("cannot switch to " ++ level.name ++ " while a transaction runs")) rfl ?_
    simp [setIsolation, hlocked]
  · simp only [setIsolation, Action.bind_apply, Call.self_apply, Outcome.bind_ok, if_neg hlocked]
    refine flags_leaves h fun hp => ?_
    have hlevel : st.self.level = level := by
      by_contra hne
      exact hlocked ⟨by simp [isActive, hp], hne⟩
    simp [← hlevel, Connection.level, Isolation.level, h.direct hp, IsolationLevel.flags]

end AtRest

end Connection

end QuadTxn
