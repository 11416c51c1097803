import QuadTxn.Proofs.Gate.Frames

/-!
# Asking for the gate

A call in a transaction that stages its writes may ask for the gate if what it does with the gate
in hand asks for nothing more (`Frame.fair_of_acquire`). A read asks for a share of the gate, unless
its connection has all of it, and gives it back before it goes on; so do the removals, which read
first.
-/

namespace QuadTxn

/-- Handling an answer only, as a way of handling answers and errors. -/
theorem Outcome.bind_eq_attempt {s α β : Type} (o : Outcome s α) (f : α → Action s β) :
    o.bind f = o.attempt.bind fun
      | .ok a => f a
      | .error e => throw e := by
  induction o with
  | ok a st => rfl
  | error e st => rfl
  | waits st mode resume ih => exact congrArg (Outcome.waits st mode) (funext ih)

theorem Gate.release_hold (g : Gate) (id : ConnectionId) :
    (g.hold id .shared).release id .shared = g := by
  simp [Gate.hold, Gate.release]

namespace Frame

variable {σ α : Type}

/-- The connection gets hold of the gate. -/
def held (mode : GateMode) (st : Frame σ) : Frame σ :=
  { st with coordinator :=
    { st.coordinator with gate := st.coordinator.gate.hold st.self.id mode } }

/-! ## Asking for the gate -/

theorem acquire_eq (mode : GateMode) (timeout : Option Nat) (st : Frame σ) :
    Call.acquire mode timeout st =
      if st.coordinator.gate.admits mode then .ok ⟨⟩ (st.held mode)
      else match timeout with
        | some ms => .error (.lockTimeout ms) st
        | none => .waits st mode fun later => .ok ⟨⟩ (later.held mode) := by
  rcases hadmits : st.coordinator.gate.admits mode with _ | _
  · cases timeout with
    | none => simp [Call.acquire, Gate.request, hadmits, held]
    | some ms => simp [Call.acquire, Gate.request, hadmits]
  · simp [Call.acquire, Gate.request, hadmits, held]

/-- Asking for the gate is fair in a transaction that stages its writes, if what follows asks for
nothing more, and a request that is not granted in time is reported. -/
theorem fair_of_acquire {st : Frame σ} (h : st.AtRest) (hp : st.self.phase = .staging)
    {mode : GateMode} {timeout : Option Nat} {k : Except TxnError Unit → Call σ α}
    (hok : ∀ later, (k (.ok ⟨⟩) (later.held mode)).Ends fun _ st' =>
      Resumes st mode later → Leaves later st')
    (herror : ∀ ms, st.Contested → (k (.error (.lockTimeout ms)) st).Fair conduct st) :
    ((Call.acquire mode timeout st).attempt.bind k).Fair conduct st := by
  rw [acquire_eq]
  split
  · rename_i hadmits
    exact Outcome.Ends.fair
      ((hok st).mono fun _ _ hleaves => hleaves ⟨h, rfl, hp, rfl, hadmits⟩)
  · rename_i hadmits
    have hc : st.Contested := by
      refine h.contested ?_ (Bool.eq_false_iff.mpr hadmits)
      simp [Connection.Engaged, hp]
    cases timeout with
    | some ms => exact herror ms hc
    | none => exact ⟨hc, hp, h.stays (.refl st), hok⟩

/-- What is asked for without handling a refusal. -/
theorem fair_of_acquire_bind {st : Frame σ} (h : st.AtRest) (hp : st.self.phase = .staging)
    {mode : GateMode} {timeout : Option Nat} {rest : Unit → Call σ α}
    (hok : ∀ later, (rest ⟨⟩ (later.held mode)).Ends fun _ st' =>
      Resumes st mode later → Leaves later st') :
    ((Call.acquire mode timeout st).bind rest).Fair conduct st := by
  rw [Outcome.bind_eq_attempt]
  exact fair_of_acquire h hp hok fun ms hc => ⟨h.stays (.refl st), fun _ => hc⟩

/-! ## Sharing the gate -/

/-- What is done with a share of the gate leaves the gate as it was. -/
theorem shared_fair {st : Frame σ} (h : st.AtRest) (hp : st.self.phase = .staging)
    {m : Call σ α} (hm : m.Quiet) : (Call.shared m st).Fair conduct st := by
  refine fair_of_acquire_bind h hp fun later => ?_
  have hback : ∀ mid : Frame σ, (later.held .shared).Stays mid → later.Stays { mid with
      coordinator :=
        { mid.coordinator with gate := mid.coordinator.gate.release mid.self.id .shared } } := by
    intro mid hmid
    refine ⟨?_, hmid.id, hmid.phase, hmid.isolation⟩
    rw [hmid.gate, hmid.id]
    exact Gate.release_hold _ _
  refine Outcome.Ends.mono (Q := fun _ st' => later.Stays st') ?_
    fun _ _ hst' hres => hres.atRest.stays hst'
  exact (hm (later.held .shared)).attempt_bind (fun _ mid hmid => hback mid hmid)
    fun _ mid he hmid => ⟨he, hback mid hmid⟩

theorem fair_of_ok {st : Frame σ} (h : st.AtRest) {m : Call σ α} (a : α) (heq : m st = .ok a st) :
    (m st).Fair conduct st := by
  rw [heq]
  exact h.stays (.refl st)

/-- A call that is refused for a reason of its own is fair. -/
theorem fair_of_error {st : Frame σ} (h : st.AtRest) {m : Call σ α} (e : TxnError)
    (he : e.isLockTimeout = false) (heq : m st = .error e st) : (m st).Fair conduct st := by
  rw [heq]
  exact Outcome.Ends.fair ⟨he, h.stays (.refl st)⟩

/-- A fair call may go on with one that has nothing to do with the gate. -/
theorem fair_bind_quiet {β : Type} {st : Frame σ} {o : Outcome (Frame σ) α}
    (h : o.Fair conduct st) {f : α → Call σ β} (hf : ∀ a, (f a).Quiet) :
    (o.bind f).Fair conduct st :=
  h.bind fun a mid => (hf a mid).mono fun _ _ hst' _ hleaves =>
    hleaves.trans (hleaves.atRest.stays hst')

theorem quiet_fair {st : Frame σ} (h : st.AtRest) {m : Call σ α} (hm : m.Quiet) :
    (m st).Fair conduct st :=
  Outcome.Ends.fair ((hm st).mono fun _ _ hst' => h.stays hst')

end Frame

namespace Connection

variable {σ α : Type} {st : Frame σ}

/-- A transaction that holds nothing of the gate reads under a share of it. -/
theorem tracked_unheld {r : Read} {answer : Call σ α} (hheld : Call.holdsGate st = false) :
    tracked r answer st = (Call.shared answer st).bind fun a =>
      (do observe r; return a : Call σ α) := by
  simp [tracked, hheld]

theorem tracked_held {r : Read} {answer : Call σ α} (hheld : Call.holdsGate st = true) :
    tracked r answer st = (answer st).bind fun a => (do observe r; return a : Call σ α) := by
  simp [tracked, hheld]

/-- A read of a running transaction asks for a share of the gate unless all of it is held. -/
theorem tracked_fair (h : st.AtRest) (hact : st.self.isActive = true) (r : Read)
    {answer : Call σ α} (hanswer : answer.Quiet) :
    (tracked r answer st).Fair Frame.conduct st := by
  have hobserve : ∀ a, (do observe r; return a : Call σ α).Quiet := fun a =>
    (quiet_observe r).bind fun _ => .pure a
  rcases hheld : Call.holdsGate st with _ | _
  · have hp : st.self.phase = .staging := by
      have he : ¬st.self.Engaged := fun he => by simp [h.holdsGate_iff.mpr he] at hheld
      rcases hp : st.self.phase with _ | _ | _ | _
      · exact absurd hp (isActive_iff.mp hact)
      · rfl
      · exact absurd (.inl hp) he
      · exact absurd (.inr hp) he
    rw [tracked_unheld hheld]
    exact Frame.fair_bind_quiet (Frame.shared_fair h hp hanswer) hobserve
  · rw [tracked_held hheld]
    exact Frame.fair_bind_quiet (Frame.quiet_fair h hanswer) hobserve

theorem reading_fair (h : st.AtRest) (r : Read) {answer : Call σ α}
    (hanswer : answer.Quiet) : (reading r answer st).Fair Frame.conduct st := by
  rcases hact : st.self.isActive with _ | _
  · have heq : reading r answer st = answer st := by simp [reading, hact]
    rw [heq]
    exact Frame.quiet_fair h hanswer
  · have heq : reading r answer st = tracked r answer st := by
      simp [reading, hact]
    rw [heq]
    exact tracked_fair h hact r hanswer

/-- A removal reads first; what it finds is then removed without another look at the gate. -/
theorem remove_fair [Backend σ] (h : st.AtRest) (kind : BatchKind) (p : Pattern) :
    (remove kind p st).Fair Frame.conduct st := by
  rcases hw : st.unwritable? with _ | e
  · have heq : remove kind p st =
        (tracked (.ofPattern p false) (view p false) st).bind fun selected =>
          (do selected.forM (removeOne kind); return selected.length : Call σ Nat) := by
      simp [remove, Frame.checkWritable_eq, hw]
    rw [heq]
    refine Frame.fair_bind_quiet (tracked_fair h (Frame.isActive_of_writable hw) _ (quiet_view _ _))
      fun selected => ?_
    exact (Call.Quiet.forM (quiet_removeOne kind)).bind fun _ => .pure _
  · have hrefused := quiet_checkWritable st
    rw [Frame.checkWritable_eq, hw] at hrefused
    exact Frame.fair_of_error h e hrefused.1 (by simp [remove, Frame.checkWritable_eq, hw])

end Connection

end QuadTxn
