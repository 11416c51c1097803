import QuadTxn.Proofs.Runs.Invariants

/-!
# A transaction that runs alone

Requests on statements that are made one after the other on a set of statements have a meaning apart
from any system (`Model.Performs`). A connection that is alone in its system can make them in one
transaction: it is answered accordingly, and its commit leaves the set with the writes done
(`System.run_alone`).
-/

namespace QuadTxn

/-- Requests on statements are made one after the other, from a set of statements on: the requests
with their answers, and all that they write. -/
inductive Model.Performs (m : Model) : List (Request × Answer) → List Write → Prop where
  /-- nothing is asked -/
  | nil : Performs m [] []
  /-- one more request is made, where the writes so far have been done -/
  | snoc {work : List (Request × Answer)} {log : List Write} {req : Request} :
      Performs m work log → req.onStatements = true → req.malformed? = none →
      Performs m (work ++ [(req, req.answerIn (m.replay log))])
        (log ++ req.writesIn (m.replay log))

namespace System

/-- The system in which a connection is alone with the contents of a store. -/
def alone (c : Connection Session) (contents : Contents) : System Session where
  store := { Store.new with contents := contents }
  coordinator := .new
  connections := SortedMap.insert ∅ c.id c

theorem connection_alone (c : Connection Session) (contents : Contents) (j : ConnectionId) :
    (alone c contents).connection j = if j = c.id then c else .new j .snapshot := by
  rw [connection, alone, SortedMap.get?_insert]
  split
  · rfl
  · rfl

/-- An idle connection can be alone. -/
theorem coherent_alone {c : Connection Session} (hc : c.Sound) (hp : c.phase = .idle)
    (contents : Contents) : (alone c contents).Coherent := by
  have hself : (alone c contents).connection c.id = c := by rw [connection_alone, if_pos rfl]
  have hothers : ∀ j, j ≠ c.id → (alone c contents).connection j = .new j .snapshot := by
    intro j hj
    rw [connection_alone, if_neg hj]
  have hseated : Coherent ⟨.new, .new, (alone c contents).connections⟩ :=
    Coherent.new.replace c.id rfl (hself.symm ▸ hc) (hself.symm ▸ hp) (congrArg _ hself) hothers rfl
  exact hseated.congr (fun _ => rfl) rfl rfl

/-- A connection that is alone runs a transaction that has done some writes. -/
structure Rerun (id : ConnectionId) (contents : Contents) (log : List Write)
    (sys : System Session) : Prop where
  /-- the system is coherent -/
  coherent : sys.Coherent
  /-- the transaction takes writes -/
  writable : (sys.frame id).unwritable? = none
  /-- nobody else has the gate -/
  gate : sys.coordinator.gate.writer = none ∨ sys.coordinator.gate.writer = some id
  /-- the native transaction is in step with the store -/
  synced : (sys.frame id).Synced
  /-- the writes are the log -/
  logged : (sys.frame id).Logged log
  /-- nobody else has committed -/
  changes : (sys.connection id).ledger.changes = []
  /-- the store is as it was, and does not fail -/
  store : sys.store = { Store.new with contents := contents }

section Alone

variable {id : ConnectionId} {contents : Contents}

/-- A connection that is alone can begin. -/
theorem begin_alone {c : Connection Session} (hid : c.id = id) (hc : c.Sound)
    (hp : c.phase = .idle) (contents : Contents) :
    ∃ sys', Step (alone c contents) (.request id .begin) (.ok .none) sys' ∧
      Rerun id contents [] sys' := by
  have hself : (alone c contents).connection id = c := by rw [connection_alone, if_pos hid.symm]
  have halone := coherent_alone hc hp contents
  generalize hfirst : alone c contents = first at hself halone
  have hidle : (first.frame id).self.phase = .idle := by
    rw [frame, hself]
    exact hp
  have hfree : (first.frame id).Free := by
    rw [← hfirst]
    rfl
  obtain ⟨st, hbegin, hst⟩ : ∃ st, Connection.begin (first.frame id) = .ok ⟨⟩ st ∧
      (st = (first.frame id).begun ∨ st = (first.frame id).begun.locked.opened.direct) := by
    rcases hread : (first.frame id).self.isolation.readSnapshot with _ | _
    · exact ⟨_, Frame.begin_direct (halone.frame id) hidle hread hfree, .inr rfl⟩
    · exact ⟨_, Frame.begin_staged hidle hread, .inl rfl⟩
  have hs : Step first (.request id .begin) (.ok .none) (first.setFrame id st) := by
    refine ⟨trivial, ?_⟩
    have hreq : Request.begin ≠ .commit := by simp
    rw [Occurrence.act, handle_eq hreq, done?_on, Request.call, Action.bind_apply, hbegin]
    rfl
  have hstore : first.store = { Store.new with contents := contents } := by rw [← hfirst, alone]
  have hgate : first.coordinator.gate.writer = none := by rw [← hfirst, alone]; rfl
  have hsynced : (first.frame id).Synced := Frame.synced_of_none ((halone.frame id).idle hidle).1
  obtain ⟨-, -, -, hledger, -⟩ := begun_of_step halone hs
  refine ⟨_, hs, halone.step hs, ?_, ?_, ?_, (logged_of_begin halone hs).1, ?_, ?_⟩
  · rw [frame_setFrame]
    rcases hst with rfl | rfl
    · rfl
    · rfl
  · rcases hst with rfl | rfl
    · exact .inl hgate
    · exact .inr (congrArg some (halone.name id))
  · exact synced_step halone (effect_of_step halone hs) (calm_request first id _) hsynced
  · rw [hledger]
    rfl
  · rcases hst with rfl | rfl
    · exact hstore
    · exact hstore

variable {log : List Write} {sys : System Session} (h : Rerun id contents log sys)

include h

theorem Rerun.active : (sys.connection id).isActive = true :=
  Frame.isActive_of_writable h.writable

theorem Rerun.seen : (sys.frame id).seen = contents.statements.replay log := by
  rw [h.logged.seen_eq (h.coherent.frame id), frame, h.store]

/-- A connection that is alone is answered what its request means after its writes so far. -/
theorem Rerun.request {req : Request} (hon : req.onStatements = true)
    (hmal : req.malformed? = none) :
    ∃ sys', Step sys (.request id req)
        (.ok (req.answerIn (contents.statements.replay log))) sys' ∧
      Rerun id contents (log ++ req.writesIn (contents.statements.replay log)) sys' := by
  have hr := Frame.accepted_of_writable h.writable hon hmal
  have hs := step_of_onStatements h.coherent hon hr fun _ _ => h.gate
  have hcontinues := Frame.perform_continues (sys.frame id) req
  rw [h.seen] at hs
  refine ⟨_, hs, h.coherent.step hs, ?_, ?_, ?_, ?_, ?_, hcontinues.store.trans h.store⟩
  · rw [frame_setFrame, Frame.unwritable?, hcontinues.phase]
    exact h.writable
  · rw [show (sys.setFrame id ((sys.frame id).perform req)).coordinator = sys.coordinator from
      hcontinues.coordinator]
    exact h.gate
  · exact synced_step h.coherent (effect_of_step h.coherent hs) (calm_request sys id req) h.synced
  · rw [frame_setFrame, ← h.seen]
    exact h.logged.perform (h.coherent.frame id) hr
  · rw [connection_setFrame_self, Frame.perform_ledger h.active req .none]
    rcases req.observed? (sys.frame id).self.isolation (.ok .none) with _ | read
    · exact h.changes
    · exact List.map_eq_nil_iff.mpr h.changes

/-- A connection that is alone can commit. -/
theorem Rerun.commit :
    ∃ sys', Step sys (.request id .commit) (.ok .none) sys' ∧
      sys'.store.contents.statements = contents.statements.replay log := by
  have hname : (sys.frame id).self.id = id := h.coherent.name id
  have hcoherent := h.coherent.frame id
  have havailable : (sys.frame id).Available := by
    rcases Frame.phase_of_writable h.writable with hp | hp
    · refine .inr (hcoherent.free_iff.mpr (h.gate.resolve_right fun hw => ?_))
      rcases hcoherent.writer.mp (hw.trans (congrArg some hname.symm)) with hp' | hp'
      · rw [hp] at hp'
        cases hp'
      · rw [hp] at hp'
        cases hp'
    · exact .inl hp
  have hverdict : (sys.frame id).verdict? = none := by
    have hchanges : (sys.frame id).self.ledger.changes = [] := h.changes
    rw [Frame.verdict?, Ledger.firstConflict?, Ledger.phantom?, hchanges]
    simp
  have hcall := Frame.commit_eq hcoherent h.writable havailable hverdict
    (congrArg Store.failPrepare h.store) (congrArg Store.failCommit h.store)
  have hon : on id Connection.commit sys =
      .ok (some (sys.frame id).engaged.flushed.prepared.published)
        (sys.setFrame id (sys.frame id).engaged.flushed.prepared.committed) := by
    rw [on, Action.zoom, hcall]
    rfl
  have hs : Step sys (.request id .commit) (.ok .none)
      (announce (sys.frame id).engaged.flushed.prepared.published
        (sys.setFrame id (sys.frame id).engaged.flushed.prepared.committed)) := by
    refine ⟨trivial, ?_⟩
    rw [Occurrence.act, handle, Action.bind_apply, System.commit, Action.bind_apply, hon]
    rfl
  refine ⟨_, hs, ?_⟩
  rw [statements_of_commit h.coherent h.synced h.logged hs, h.store]

end Alone

/-- A connection that is alone with the contents of a store can make requests in a transaction of
its own. It is answered what they mean one after the other, and commits what they write. -/
theorem run_alone {c : Connection Session} {id : ConnectionId} (hid : c.id = id) (hc : c.Sound)
    (hp : c.phase = .idle) {contents : Contents}
    {work : List (Request × Answer)} {log : List Write}
    (hwork : contents.statements.Performs work log) :
    ∃ begun ts done final,
      Step (alone c contents) (.request id .begin) (.ok .none) begun ∧
      Run begun ts done ∧
      (ts.map fun t => (t.occurrence, t.result)) =
        work.map (fun w => (.request id w.1, .ok w.2)) ∧
      Step done (.request id .commit) (.ok .none) final ∧
      final.store.contents.statements = contents.statements.replay log := by
  obtain ⟨begun, hbegin, hbegun⟩ := begin_alone hid hc hp contents
  obtain ⟨ts, done, hr, hts, hdone⟩ : ∃ ts done, Run begun ts done ∧
      (ts.map fun t => (t.occurrence, t.result)) =
        work.map (fun w => (.request id w.1, .ok w.2)) ∧ Rerun id contents log done := by
    induction hwork with
    | nil => exact ⟨[], begun, .nil, rfl, hbegun⟩
    | snoc _ hon hmal ih =>
      obtain ⟨ts, done, hr, hts, hdone⟩ := ih
      obtain ⟨done', hs, hdone'⟩ := hdone.request hon hmal
      refine ⟨_, done', hr.snoc hs, ?_, hdone'⟩
      rw [List.map_append, List.map_append, hts]
      rfl
  obtain ⟨final, hs, hstatements⟩ := hdone.commit
  exact ⟨begun, ts, done, final, hbegin, hr, hts, hs, hstatements⟩

end System

end QuadTxn
