import QuadTxn.Proofs.Gate.Requests

/-!
# Systems and the gate

What the conduct of a request means for the system that it is made on: the other connections keep
their hold of the gate (`System.Leaves`), and a request comes to wait only while another connection
has the gate (`System.handle_fair`).
-/

namespace QuadTxn

namespace System

variable {σ : Type} [Backend σ]

/-- Every connection holds the gate as its phase has it, and no call is under way. -/
structure AtRest (sys : System σ) : Prop where
  /-- nobody shares the gate -/
  readers : sys.coordinator.gate.readers = []
  /-- a connection has the whole gate while its transaction is direct or prepared -/
  writer : ∀ id, sys.coordinator.gate.writer = some id ↔ (sys.connection id).Engaged
  /-- a connection that stages its writes is not direct -/
  direct : ∀ id, (sys.connection id).phase = .direct →
    (sys.connection id).isolation.readSnapshot = false
  /-- every connection has its own name -/
  name : ∀ id, (sys.connection id).id = id

/-- All that concerns the gate is as it was. -/
def Stays (sys sys' : System σ) : Prop := ∀ j, (sys.frame j).Stays (sys'.frame j)

/-- What a call on a connection may make of a system at rest. -/
structure Leaves (id : ConnectionId) (sys sys' : System σ) : Prop where
  /-- the system is at rest -/
  atRest : sys'.AtRest
  /-- the hold of another connection is as it was -/
  others : ∀ j, j ≠ id →
    (sys'.coordinator.gate.writer = some j ↔ sys.coordinator.gate.writer = some j)
  /-- the transaction of another connection is where it was -/
  phase : ∀ j, j ≠ id → (sys'.connection j).phase = (sys.connection j).phase
  /-- the isolation of another connection is as it was -/
  isolation : ∀ j, j ≠ id → (sys'.connection j).isolation = (sys.connection j).isolation

omit [Backend σ] in
/-- A connection other than the given one has the gate. -/
def Contested (id : ConnectionId) (sys : System σ) : Prop :=
  ∃ j, j ≠ id ∧ sys.coordinator.gate.writer = some j

/-- A call on a connection that has left the system `mid` waiting can be taken up. -/
structure Resumes (id : ConnectionId) (mid : System σ) (mode : GateMode) (later : System σ) :
    Prop where
  /-- the system is at rest -/
  atRest : later.AtRest
  /-- the transaction still stages its writes -/
  phase : (later.connection id).phase = .staging
  /-- its isolation is the same -/
  isolation : (later.connection id).isolation = (mid.connection id).isolation
  /-- the gate admits what the call waits for -/
  admits : later.coordinator.gate.admits mode = true

/-- The conduct of calls on a connection, in a system. -/
def conduct (id : ConnectionId) : Conduct (System σ) where
  leaves := Leaves id
  contested := Contested id
  waiting mid := (mid.connection id).phase = .staging
  resumes := Resumes id

/-! ## What calls leave -/

theorem AtRest.new : (System.new : System σ).AtRest where
  readers := rfl
  writer := fun _ => iff_of_false nofun fun he => nomatch he
  direct := fun _ => nofun
  name := fun _ => rfl

section AtRest

variable {sys : System σ} (h : sys.AtRest)

include h

theorem AtRest.frame (id : ConnectionId) : (sys.frame id).AtRest where
  readers := h.readers
  writer := by
    rw [show (sys.frame id).self.id = id from h.name id]
    exact h.writer id
  direct := h.direct id

theorem AtRest.contested_iff (id : ConnectionId) :
    (sys.frame id).Contested ↔ Contested id sys := by
  rw [Frame.Contested, show (sys.frame id).self.id = id from h.name id]
  rfl

/-- A call leaves in the system what it leaves in its frame. -/
theorem AtRest.setFrame {id : ConnectionId} {st : Frame σ} (hst : (sys.frame id).Leaves st) :
    sys.Leaves id (sys.setFrame id st) := by
  have hid : st.self.id = id := hst.id.trans (h.name id)
  have hothers : ∀ j, j ≠ id → (st.coordinator.gate.writer = some j ↔
      sys.coordinator.gate.writer = some j) := fun j hj =>
    hst.others j (by rwa [show (sys.frame id).self.id = id from h.name id])
  refine ⟨⟨hst.atRest.readers, fun j => ?_, fun j => ?_, fun j => ?_⟩, hothers, fun j hj => ?_,
    fun j hj => ?_⟩
  · by_cases hj : j = id
    · rw [hj, connection_setFrame_self]
      have hwriter := hst.atRest.writer
      rwa [hid] at hwriter
    · rw [connection_setFrame_ne _ _ hj]
      exact (hothers j hj).trans (h.writer j)
  · by_cases hj : j = id
    · rw [hj, connection_setFrame_self]
      exact hst.atRest.direct
    · rw [connection_setFrame_ne _ _ hj]
      exact h.direct j
  · by_cases hj : j = id
    · rw [hj, connection_setFrame_self, hid]
    · rw [connection_setFrame_ne _ _ hj, h.name]
  · rw [connection_setFrame_ne _ _ hj]
  · rw [connection_setFrame_ne _ _ hj]

theorem AtRest.stays {sys' : System σ} (hs : sys.Stays sys') (id : ConnectionId) :
    sys.Leaves id sys' := by
  have hgate : sys'.coordinator.gate = sys.coordinator.gate := (hs "").gate
  have hphase : ∀ j, (sys'.connection j).phase = (sys.connection j).phase := fun j => (hs j).phase
  have hisolation : ∀ j, (sys'.connection j).isolation = (sys.connection j).isolation :=
    fun j => (hs j).isolation
  refine ⟨⟨by rw [hgate, h.readers], fun j => ?_, fun j => ?_, fun j => ?_⟩, fun j _ => ?_,
    fun j _ => hphase j, fun j _ => hisolation j⟩
  · rw [hgate, Connection.Engaged, hphase]
    exact h.writer j
  · rw [hphase, hisolation]
    exact h.direct j
  · exact (hs j).id.trans (h.name j)
  · rw [hgate]

/-- A connection without a transaction may be replaced by another one. -/
theorem AtRest.replace {sys' : System σ} (id : ConnectionId)
    (hidle : (sys.connection id).phase = .idle) (hidle' : (sys'.connection id).phase = .idle)
    (hname : (sys'.connection id).id = id)
    (hconn : ∀ j, j ≠ id → sys'.connection j = sys.connection j)
    (hgate : sys'.coordinator.gate = sys.coordinator.gate) : sys.Leaves id sys' := by
  have hfree : ∀ {c : Connection σ}, c.phase = .idle → ¬c.Engaged := fun hp => by
    simp [Connection.Engaged, hp]
  refine ⟨⟨by rw [hgate, h.readers], fun j => ?_, fun j => ?_, fun j => ?_⟩, fun j _ => ?_,
    fun j hj => ?_, fun j hj => ?_⟩
  · by_cases hj : j = id
    · rw [hj, hgate, h.writer id]
      exact iff_of_false (hfree hidle) (hfree hidle')
    · rw [hconn j hj, hgate]
      exact h.writer j
  · by_cases hj : j = id
    · rw [hj, hidle']
      simp
    · rw [hconn j hj]
      exact h.direct j
  · by_cases hj : j = id
    · rw [hj, hname]
    · rw [hconn j hj, h.name]
  · rw [hgate]
  · rw [hconn j hj]
  · rw [hconn j hj]

end AtRest

theorem Leaves.trans {id : ConnectionId} {sys₁ sys₂ sys₃ : System σ} (h₁₂ : sys₁.Leaves id sys₂)
    (h₂₃ : sys₂.Leaves id sys₃) : sys₁.Leaves id sys₃ where
  atRest := h₂₃.atRest
  others := fun j hj => (h₂₃.others j hj).trans (h₁₂.others j hj)
  phase := fun j hj => (h₂₃.phase j hj).trans (h₁₂.phase j hj)
  isolation := fun j hj => (h₂₃.isolation j hj).trans (h₁₂.isolation j hj)

/-! ## Announcements -/

omit [Backend σ] in
/-- Being told of commits changes the ledgers at most. -/
theorem getD_foldl_changed (change : ChangeSet) (ids : List ConnectionId)
    (m : SortedMap ConnectionId (Connection σ)) (j : ConnectionId) (c : Connection σ) :
    ∃ ledger, ((ids.foldl (fun m id => m.modify id (Participant.changed change)) m).get? j).getD c =
      { (m.get? j).getD c with ledger := ledger } := by
  induction ids generalizing m with
  | nil => exact ⟨_, rfl⟩
  | cons id ids ih =>
    obtain ⟨ledger, hrest⟩ := ih (m.modify id (Participant.changed change))
    rw [List.foldl_cons, hrest, SortedMap.get?_modify]
    refine ⟨ledger, ?_⟩
    split
    · rcases m.get? j with _ | c'
      · rfl
      · obtain ⟨ledger', hnote⟩ := noteCommit_eq c' change
        change { c'.noteCommit change with ledger := ledger } = _
        rw [hnote]
        rfl
    · rfl

/-- An announcement does not touch the gate. -/
theorem publish_stays (change : ChangeSet) (sys : System σ) :
    ∃ sys', publish change sys = .ok ⟨⟩ sys' ∧ sys.Stays sys' := by
  refine ⟨_, rfl, fun j => ?_⟩
  obtain ⟨ledger, hconn⟩ := getD_foldl_changed change
    (sys.coordinator.audience sys.connections change.source) sys.connections j (.new j .snapshot)
  have hself : (System.frame j { sys with
      coordinator := (sys.coordinator.publish sys.connections change).1
      connections := (sys.coordinator.publish sys.connections change).2 }).self =
      { sys.connection j with ledger := ledger } := hconn
  have hid := congrArg Connection.id hself
  have hphase := congrArg Connection.phase hself
  have hisolation := congrArg Connection.isolation hself
  exact ⟨rfl, hid, hphase, hisolation⟩

/-! ## Calls on a connection -/

section AtRest

variable {sys : System σ} (h : sys.AtRest) (id : ConnectionId)

include h

/-- A call on a frame is as fair as a call on the system. -/
theorem on_fair {α : Type} {call : Call σ α}
    (hcall : (call (sys.frame id)).Fair Frame.conduct (sys.frame id)) :
    (on id call sys).Fair (conduct id) sys := by
  refine hcall.zoom (h.contested_iff id).mp (fun st' => h.setFrame) (fun mid _ hmid => ?_)
    fun mid mode later hmid hres => ⟨?_, fun st' => hres.atRest.setFrame⟩
  · change ((sys.setFrame id mid).connection id).phase = .staging
    rw [connection_setFrame_self]
    exact hmid
  · have hid : mid.self.id = id := hmid.id.trans (h.name id)
    have hisolation := hres.isolation
    rw [connection_setFrame_self] at hisolation
    exact ⟨hres.atRest.frame id, (hres.atRest.name id).trans hid.symm, hres.phase, hisolation,
      hres.admits⟩

/-- A request is refused the gate only while another connection has it, and asks for nothing more
once it has the gate. -/
theorem handle_fair (req : Request) : (handle id req sys).Fair (conduct id) sys := by
  by_cases hreq : req = .commit
  · subst hreq
    have hcommit := on_fair h id (Connection.commit_fair (h.frame id))
    rw [handle, commit, Action.bind_apply, Action.bind_apply, Outcome.bind_assoc]
    refine hcommit.bind fun change? mid => ?_
    cases change? with
    | none => exact fun _ hleaves => hleaves
    | some change =>
      obtain ⟨sys', hpublish, hstays⟩ := publish_stays change mid
      simp only [Action.bind_apply, hpublish]
      exact fun _ hleaves => hleaves.trans (hleaves.atRest.stays hstays id)
  · rw [handle_eq hreq]
    exact on_fair h id (Request.call_fair (h.frame id) req)

end AtRest

/-! ## Who asks for the gate -/

/-- The system where the gate is a certain connection's. -/
def heldBy (j : ConnectionId) (sys : System σ) : System σ :=
  { sys with coordinator := { sys.coordinator with gate := ⟨some j, []⟩ } }

theorem on_refusals {α : Type} (id : ConnectionId) (call : Call σ α) (sys : System σ) :
    (on id call sys).refusals = (call (sys.frame id)).refusals :=
  Outcome.refusals_zoom (fun st sys => frame_setFrame sys id st) _ sys

/-- Announcing a commit asks for nothing. -/
theorem handle_refusals (id : ConnectionId) (req : Request) (sys : System σ) :
    (handle id req sys).refusals = (req.call (sys.frame id)).refusals := by
  by_cases hreq : req = .commit
  · subst hreq
    rw [handle, commit, Action.bind_apply, Action.bind_apply, Outcome.bind_assoc,
      Outcome.refusals_bind, on_refusals, Request.call, Action.bind_apply, Outcome.refusals_bind]
    · exact fun _ _ => rfl
    · intro change? mid
      cases change? <;> rfl
  · rw [handle_eq hreq, on_refusals]

section AtRest

variable {sys : System σ} (h : sys.AtRest) {id : ConnectionId}

include h

/-- Nothing is refused to a connection unless another one has the gate. -/
theorem refusals_of_uncontested (hc : ¬Contested id sys) (req : Request) :
    (handle id req sys).refusals = 0 :=
  (handle_fair h id req).refusals_eq hc

/-- A connection that does not have the gate asks for it once in a call. -/
theorem refusals_of_not_writer (hw : sys.coordinator.gate.writer ≠ some id) {j : ConnectionId}
    (hj : j ≠ id) (req : Request) : (handle id req (sys.heldBy j)).refusals ≤ 1 := by
  have hno : ¬(sys.connection id).Engaged := mt (h.writer id).mpr hw
  have hframe : ((sys.heldBy j).frame id).AtRest :=
    { readers := rfl
      writer := by
        rw [show ((sys.heldBy j).frame id).self.id = id from h.name id]
        exact iff_of_false (fun hsome => hj (Option.some.inj hsome)) hno
      direct := h.direct id }
  rw [handle_refusals]
  exact (Request.call_fair hframe req).refusals_le

/-! ## Who gives it back -/

omit h in
theorem free_of_idle (hw : sys.coordinator.gate.writer = some id) {sys' : System σ}
    (hleaves : sys.Leaves id sys') (hp : (sys'.connection id).phase = .idle) :
    sys'.coordinator.gate = .free := by
  have hnone : sys'.coordinator.gate.writer = none := by
    rcases hw' : sys'.coordinator.gate.writer with _ | j
    · rfl
    · by_cases hj : j = id
      · have he := (hleaves.atRest.writer id).mp (by rw [hw', hj])
        simp [Connection.Engaged, hp] at he
      · have hsome := (hleaves.others j hj).mp hw'
        exact absurd (Option.some.inj (hsome.symm.trans hw)) hj
  exact congr (congrArg Gate.mk hnone) hleaves.atRest.readers

/-- A connection that has the gate can commit and roll back at once, and gives it back. -/
theorem handle_releases (hw : sys.coordinator.gate.writer = some id) {req : Request}
    (hreq : req = .commit ∨ req = .rollback) :
    (handle id req sys).Ends fun _ sys' => sys'.coordinator.gate = .free := by
  have hput : ∀ st : Frame σ, (sys.frame id).Leaves st ∧ st.self.phase = .idle →
      sys.Leaves id (sys.setFrame id st) ∧ (sys.setFrame id st).coordinator.gate = .free := by
    rintro st ⟨hleaves, hp⟩
    have hset := h.setFrame hleaves
    exact ⟨hset, free_of_idle hw hset (by rwa [connection_setFrame_self])⟩
  rcases hreq with rfl | rfl
  · have hcommit : (on id Connection.commit sys).Ends fun _ sys' =>
        sys'.coordinator.gate = .free :=
      (Connection.commit_ends (h.frame id) ((h.writer id).mp hw)).zoom
        fun _ st hst => (hput st hst).2
    rw [handle, commit, Action.bind_apply, Action.bind_apply, Outcome.bind_assoc]
    refine hcommit.bind (fun change? mid hfree => ?_) fun _ _ hfree => hfree
    cases change? with
    | none => exact hfree
    | some change => exact hfree
  · have hrollback : (on id Connection.rollback sys).Ends fun _ sys' =>
        sys'.coordinator.gate = .free :=
      (Connection.rollback_ends (h.frame id)).zoom fun _ st hst => (hput st hst).2
    rw [handle, Action.bind_apply]
    exact hrollback.bind (fun _ _ hfree => hfree) fun _ _ hfree => hfree

/-- Taking a connection out ends its transaction, and leaves the others as they are. -/
theorem disconnect_leaves : ∃ sys', disconnect id sys = .ok ⟨⟩ sys' ∧ sys.Leaves id sys' := by
  have hon : (on id Connection.rollback sys).Ends fun _ mid => ∃ st, mid = sys.setFrame id st ∧
      (sys.frame id).Leaves st ∧ st.self.phase = .idle :=
    (Connection.rollback_ends (h.frame id)).zoom fun _ st hst => ⟨st, rfl, hst⟩
  obtain ⟨r, _, hattempt, st, rfl, hleaves, hp⟩ := hon.attempt_eq
  have hset := h.setFrame hleaves
  have hconn := connection_disconnect sys id st
  refine ⟨{ sys.setFrame id st with connections := (sys.setFrame id st).connections.erase id }, ?_,
    hset.trans (hset.atRest.replace id ?_ ?_ ?_ ?_ rfl)⟩
  · simp [disconnect, rollback, hattempt]
    rfl
  · rwa [connection_setFrame_self]
  · rw [hconn, if_pos rfl]
    rfl
  · rw [hconn, if_pos rfl]
    rfl
  · intro j hj
    rw [hconn, if_neg hj, connection_setFrame_ne _ _ hj]

end AtRest

end System

end QuadTxn
