import QuadTxn.Proofs.Gate.Lifecycle
import QuadTxn.Proofs.Runs.Histories
import QuadTxn.Proofs.Shadows.Systems
import QuadTxn.Proofs.Switching.Frames

/-!
# A switch to direct writes is invisible

A transaction that stages its writes can be told to write directly from then on. That either fails
because the gate is not free in time, and everything is as it was, or it succeeds, and nobody can
tell (`System.switch_is_invisible`): the connection reads what it read before, and whatever it reads
and writes before it commits, it is answered as it would have been without the switch, and the
commit comes to the same.

The reason is that the transaction has become a counterpart of what it was
(`System.Counterpart`).
-/

namespace QuadTxn

theorem Connection.Siblings.noteCommit {c c' : Connection Session} (h : c.Siblings c')
    (change : ChangeSet) : (c.noteCommit change).Siblings (c'.noteCommit change) := by
  obtain ⟨events, rfl⟩ := h
  rw [Connection.noteCommit, Connection.noteCommit]
  split
  · exact ⟨events, rfl⟩
  · exact ⟨events, rfl⟩

/-- A switch that waits for the gate is done, once the gate is free, as if asked for then. -/
theorem Frame.switch_resumes {st : Frame Session} (hp : st.self.phase = .staging) (hf : ¬st.Free)
    (ht : st.self.lockTimeout = none) :
    ∃ resume, Connection.switchToDirect st = .waits st .exclusive resume ∧
      ∀ later : Frame Session, later.self.phase = .staging → later.Free →
        resume later = Connection.switchToDirect later := by
  have hgate : Call.acquireGate st =
      .waits st .exclusive fun later => .ok ⟨⟩ (later.held .exclusive) := by
    have hadmits : ¬st.coordinator.gate.admits .exclusive = true := hf
    rw [Call.acquireGate, Action.bind_apply, Call.self_apply, Outcome.bind_ok, acquire_eq,
      if_neg hadmits, ht]
  refine ⟨fun later => Connection.goDirect (later.held .exclusive), ?_, ?_⟩
  · rw [Connection.switchToDirect_eq hp, hgate]
    rfl
  · intro later hp' hf'
    rw [Connection.switchToDirect_eq hp', acquireGate_eq hf']
    rfl

namespace System

/-! ## Systems with counterparts -/

/-- Systems that differ in that the transaction of one connection stages its writes in the first
and has done them in the second. -/
structure Counterpart (id : ConnectionId) (sys sys' : System Session) : Prop where
  /-- the first system is coherent -/
  coherent : sys.Coherent
  /-- the second system is coherent -/
  coherent' : sys'.Coherent
  /-- the connection has become its counterpart -/
  frame : (sys.frame id).Counterpart (sys'.frame id)
  /-- the other connections are the same -/
  others : ∀ j, j ≠ id → sys'.connection j = sys.connection j

/-- Systems that differ at most in what a connection has reported, and in whether it will stage its
writes. -/
structure Siblings (id : ConnectionId) (sys sys' : System Session) : Prop where
  /-- the connections of that name are siblings -/
  self : (sys.connection id).Siblings (sys'.connection id)
  /-- the other connections are the same -/
  others : ∀ j, j ≠ id → sys'.connection j = sys.connection j
  /-- what is committed is the same, with its version -/
  store : sys'.store = sys.store
  /-- the coordinator is the same, with what commit listeners have been told -/
  coordinator : sys'.coordinator = sys.coordinator

namespace Counterpart

variable {id : ConnectionId} {sys sys' : System Session} (h : Counterpart id sys sys')

include h

theorem step {req : Request} (hreq : req.isData = true) :
    ∃ r next next', Step sys (.request id req) r next ∧ Step sys' (.request id req) r next' ∧
      Counterpart id next next' ∧ (req.isWrite = false → ∃ a, r = .ok a) := by
  obtain ⟨r, st, tw, hm, hm', hframe, hread⟩ := h.frame.step hreq
  have hne : req ≠ .commit := by
    rintro rfl
    cases hreq
  have hs := (step_iff_of_done hne (hm.made (h.coherent.frame id))).mpr ⟨rfl, rfl⟩
  have hs' := (step_iff_of_done hne (hm'.made (h.coherent'.frame id))).mpr ⟨rfl, rfl⟩
  refine ⟨r, _, _, hs, hs', ⟨h.coherent.step hs, h.coherent'.step hs', ?_, ?_⟩, hread⟩
  · rw [frame_setFrame, frame_setFrame]
    exact hframe
  · intro j hj
    rw [connection_setFrame_ne _ _ hj, connection_setFrame_ne _ _ hj, h.others j hj]

/-- Requests that read and write can be made on both sides, one after the other, with the same
answers. -/
theorem run {reqs : List Request} (hreqs : ∀ req ∈ reqs, req.isData = true) :
    ∃ ts mid ts' mid', requests sys (reqs.map (id, ·)) = some (ts, mid) ∧
      requests sys' (reqs.map (id, ·)) = some (ts', mid') ∧
      ts'.map (·.result) = ts.map (·.result) ∧ Counterpart id mid mid' := by
  induction reqs generalizing sys sys' with
  | nil => exact ⟨[], sys, [], sys', rfl, rfl, rfl, h⟩
  | cons req reqs ih =>
    obtain ⟨hreq, hreqs⟩ := List.forall_mem_cons.mp hreqs
    obtain ⟨r, next, next', hs, hs', hnext, -⟩ := h.step hreq
    obtain ⟨ts, mid, ts', mid', hrun, hrun', hresults, hmid⟩ := ih hnext hreqs
    refine ⟨⟨sys, .request id req, r, next⟩ :: ts, mid, ⟨sys', .request id req, r, next'⟩ :: ts',
      mid', ?_, ?_, congrArg (r :: ·) hresults, hmid⟩
    · rw [List.map_cons, requests, show (handle id req sys).done? = _ from hs.2]
      exact congrArg (Option.map fun run => (_ :: run.1, run.2)) hrun
    · rw [List.map_cons, requests, show (handle id req sys').done? = _ from hs'.2]
      exact congrArg (Option.map fun run => (_ :: run.1, run.2)) hrun'

theorem siblings {st tw : Frame Session} (hs : st.Siblings tw) :
    Siblings id (sys.setFrame id st) (sys'.setFrame id tw) where
  self := by
    rw [connection_setFrame_self, connection_setFrame_self]
    exact hs.self
  others := by
    intro j hj
    rw [connection_setFrame_ne _ _ hj, connection_setFrame_ne _ _ hj, h.others j hj]
  store := hs.store
  coordinator := hs.coordinator

/-- A change set that is announced on both sides is noted by the same connections. -/
theorem announced {st tw : Frame Session} {change : ChangeSet}
    (hc : (sys.frame id).Commits (.ok (some change)) st)
    (hc' : (sys'.frame id).Commits (.ok (some change)) tw) (hs : st.Siblings tw) :
    Siblings id (announce change (sys.setFrame id st)) (announce change (sys'.setFrame id tw)) where
  self := by
    rw [connection_commit h.coherent hc, connection_commit h.coherent' hc']
    exact (h.siblings hs).self.noteCommit change
  others := by
    intro j hj
    rw [connection_commit h.coherent hc, connection_commit h.coherent' hc',
      (h.siblings hs).others j hj]
  store := hs.store
  coordinator := congrArg (fun k : Coordinator ConnectionId =>
    { k with told := k.told ++ (List.range k.listeners).map fun i => (i, change) }) hs.coordinator

/-- A commit comes to the same on both sides, and publishes the same. -/
theorem commit :
    ∃ r last last', Step sys (.request id .commit) r last ∧
      Step sys' (.request id .commit) r last' ∧ sys'.publication? id = sys.publication? id ∧
      Siblings id last last' := by
  obtain ⟨r, st, tw, hc, hc', hs⟩ := h.frame.commits
  have hdone := hc.made (h.coherent.frame id)
  have hdone' := hc'.made (h.coherent'.frame id)
  rcases r with e | change?
  · refine ⟨_, _, _, step_of_commit_error h.coherent hc, step_of_commit_error h.coherent' hc', ?_,
      h.siblings hs⟩
    rw [publication?, publication?, on_of_failed hdone, on_of_failed hdone']
  · refine ⟨_, _, _, step_of_commit h.coherent hc, step_of_commit h.coherent' hc', ?_, ?_⟩
    · rw [publication?, publication?, on_of_done hdone, on_of_done hdone']
    · rcases change? with _ | change
      · exact h.siblings hs
      · exact h.announced hc hc' hs

end Counterpart

/-! ## The guarantee -/

/-- Whatever a connection reads and writes before it commits, it can do so in both systems, where it
is answered the same; its commit then is answered the same, publishes the same, and leaves the same
statements and namespaces committed under the same version. -/
def Agree (id : ConnectionId) (sys sys' : System Session) : Prop :=
  ∀ reqs : List Request, (∀ req ∈ reqs, req.isData = true) →
    ∃ ts mid r last ts' mid' last',
      requests sys (reqs.map (id, ·)) = some (ts, mid) ∧
      Step mid (.request id .commit) r last ∧
      requests sys' (reqs.map (id, ·)) = some (ts', mid') ∧
      Step mid' (.request id .commit) r last' ∧
      ts'.map (·.result) = ts.map (·.result) ∧
      mid'.publication? id = mid.publication? id ∧ Siblings id last last'

theorem Counterpart.agree {id : ConnectionId} {sys sys' : System Session}
    (h : Counterpart id sys sys') : Agree id sys sys' := by
  intro reqs hreqs
  obtain ⟨ts, mid, ts', mid', hrun, hrun', hresults, hmid⟩ := h.run hreqs
  obtain ⟨r, last, last', hs, hs', hpublication, hlast⟩ := hmid.commit
  exact ⟨ts, mid, r, last, ts', mid', last', hrun, hs, hrun', hs', hresults, hpublication, hlast⟩

/-- The transaction of a connection has switched to direct writes, and nobody can tell. -/
structure Switched (id : ConnectionId) (sys sys' : System Session) : Prop where
  /-- writes are done directly from now on -/
  direct : (sys'.connection id).phase = .direct
  /-- nothing is staged any more -/
  unstaged : (sys'.connection id).Unstaged
  /-- nothing is committed -/
  store : sys'.store = sys.store
  /-- the ledger is as it was -/
  ledger : (sys'.connection id).ledger = (sys.connection id).ledger
  /-- the other connections are as they were -/
  others : ∀ j, j ≠ id → sys'.connection j = sys.connection j
  /-- what is read now is what was read before -/
  reads : ∀ req : Request, req.isData = true → req.isWrite = false →
    ∃ a next next', Step sys (.request id req) (.ok a) next ∧
      Step sys' (.request id req) (.ok a) next'
  /-- whatever is read and written before the commit, the switch makes no difference -/
  agree : Agree id sys sys'

/-- What asking for direct writes inside a transaction that stages them comes to. -/
inductive Switching (id : ConnectionId) (sys : System Session) :
    Outcome (System Session) Answer → Prop where
  /-- the gate is free, and the transaction switches -/
  | done {sys' : System Session} : sys.coordinator.gate.writer = none → Switched id sys sys' →
      Switching id sys (.ok .none sys')
  /-- the gate is not free in time, and everything is as it was -/
  | timeout {ms : Nat} : sys.coordinator.gate.writer ≠ none →
      (sys.connection id).lockTimeout = some ms →
      Switching id sys (.error (.lockTimeout ms) sys)
  /-- the gate is not free and there is no limit to waiting for it: everything is as it was, and
  once the gate is free, the call comes to what it would come to if it were made then -/
  | waits {resume : System Session → Outcome (System Session) Answer} :
      sys.coordinator.gate.writer ≠ none → (sys.connection id).lockTimeout = none →
      (∀ later, Reachable later → (later.connection id).phase = .staging →
        later.coordinator.gate.writer = none →
        resume later = handle id (.setReadSnapshot false) later) →
      Switching id sys (.waits sys .exclusive resume)

theorem Counterpart.switched {id : ConnectionId} {sys sys' : System Session}
    (h : Counterpart id sys sys') : Switched id sys sys' where
  direct := h.frame.direct
  unstaged := by
    obtain ⟨session, net, events, hself⟩ := h.frame.self
    have hself' : sys'.connection id = _ := hself
    rw [hself']
    exact ⟨rfl, rfl, rfl⟩
  store := h.frame.store
  ledger := by
    obtain ⟨session, net, events, hself⟩ := h.frame.self
    exact (congrArg Connection.ledger hself :)
  others := h.others
  reads := by
    intro req hreq hwrite
    obtain ⟨r, next, next', hs, hs', -, hread⟩ := h.step hreq
    obtain ⟨a, rfl⟩ := hread hwrite
    exact ⟨a, next, next', hs, hs'⟩
  agree := h.agree

section Switch

variable {sys : System Session} (h : sys.Coherent) {id : ConnectionId}
  (hp : (sys.connection id).phase = .staging)

include h hp

/-- Inside a transaction that stages its writes, asking for direct writes is asking for the
switch. -/
theorem handle_switch : handle id (.setReadSnapshot false) sys =
    ((Connection.switchToDirect (sys.frame id)).bind fun _ => pure .none).zoom
      (System.frame id) (System.setFrame id) sys := by
  have hact : (sys.frame id).self.isActive = true := by
    simp [Connection.isActive, System.frame, hp]
  have hswitches : (sys.frame id).Switches (.setReadSnapshot false) :=
    ⟨rfl, hact, ((h.frame id).staging hp).2.2⟩
  rw [handle_eq (by simp), on, Action.zoom, Frame.call_switch hswitches]

/-- If the gate is free, the system is left with the counterpart of the transaction. -/
theorem counterpart_of_free (hf : (sys.frame id).Free) :
    ∃ sys', handle id (.setReadSnapshot false) sys = .ok .none sys' ∧
      Counterpart id sys sys' := by
  have hcall : handle id (.setReadSnapshot false) sys =
      .ok .none (sys.setFrame id (sys.frame id).locked.opened.flushed.switched) := by
    rw [handle_switch h hp, Frame.switch_eq (h.frame id) hp hf]
    rfl
  have hs : Step sys (.request id (.setReadSnapshot false)) (.ok .none) _ :=
    ⟨trivial, congrArg Outcome.done? hcall⟩
  refine ⟨_, hcall, h, h.step hs, ?_, fun j hj => connection_setFrame_ne _ _ hj⟩
  rw [frame_setFrame]
  exact Frame.counterpart_switched (h.frame id) hp hf

end Switch

/-- Asking for direct writes inside a transaction that stages them either fails because the gate is
not free in time, and leaves everything as it was, or it switches the transaction, and nobody can
tell. -/
theorem switch_is_invisible {sys : System Session} (hreach : Reachable sys) {id : ConnectionId}
    (hp : (sys.connection id).phase = .staging) :
    Switching id sys (handle id (.setReadSnapshot false) sys) := by
  have h := hreach.coherent
  have hact : (sys.connection id).isActive = true := by simp [Connection.isActive, hp]
  have hsame := setFrame_frame hact
  by_cases hf : (sys.frame id).Free
  · obtain ⟨sys', hcall, hcounterpart⟩ := counterpart_of_free h hp hf
    rw [hcall]
    exact .done ((h.frame id).free_iff.mp hf) hcounterpart.switched
  · have hw : sys.coordinator.gate.writer ≠ none := mt (h.frame id).free_iff.mpr hf
    rcases ht : (sys.connection id).lockTimeout with _ | ms
    · obtain ⟨resume, hwaits, hresume⟩ := Frame.switch_resumes hp hf ht
      rw [handle_switch h hp, hwaits, Outcome.bind_waits, Outcome.zoom, hsame]
      refine .waits hw ht ?_
      intro later hlater hp' hw'
      have h' := hlater.coherent
      rw [handle_switch h' hp', hresume (later.frame id) hp' ((h'.frame id).free_iff.mpr hw')]
    · rw [handle_switch h hp, Frame.switch_timeout hp hf ht, Outcome.bind_error, Outcome.zoom,
        hsame]
      exact .timeout hw ht

/-- A statement is committed. A transaction stages its removal, the addition of another statement
and a binding, and switches to direct writes. From then on it removes what the switch has added,
adds what the switch has removed, and commits, as if there had been no switch. -/
theorem staged_changes_are_switched :
    let s : Statement := ⟨.iri "s", .iri "p", .iri "o", none⟩
    let s' : Statement := ⟨.iri "s", .iri "p", .iri "o'", none⟩
    let reqs : List Request := [.removeStatement s', .addStatement s]
    ∃ ts sys sys' again mid r last again' mid' last',
      requests .new [("b", .begin), ("b", .addStatement s), ("b", .commit), ("a", .begin),
        ("a", .removeStatement s), ("a", .addStatement s'), ("a", .bindLabel "ex" "name")] =
          some (ts, sys) ∧
      (sys.connection "a").pending = ⟨1, 1, 1⟩ ∧
      handle "a" (.setReadSnapshot false) sys = .ok .none sys' ∧ Switched "a" sys sys' ∧
      requests sys (reqs.map ("a", ·)) = some (again, mid) ∧
      Step mid (.request "a" .commit) r last ∧
      requests sys' (reqs.map ("a", ·)) = some (again', mid') ∧
      Step mid' (.request "a" .commit) r last' ∧
      again'.map (·.result) = again.map (·.result) ∧ Siblings "a" last last' := by
  intro s s' reqs
  obtain ⟨ts, sys, hplay, hcheck⟩ := requests_of_check
    (fun _ sys => decide ((sys.connection "a").phase = .staging ∧
      (sys.connection "a").pending = ⟨1, 1, 1⟩ ∧ sys.coordinator.gate.writer = none))
    (by decide +kernel : (requests .new [("b", .begin), ("b", .addStatement s), ("b", .commit),
      ("a", .begin), ("a", .removeStatement s), ("a", .addStatement s'),
      ("a", .bindLabel "ex" "name")]).any _ = true)
  obtain ⟨hp, hpending, hfree⟩ := of_decide_eq_true hcheck
  have hswitching := switch_is_invisible ⟨ts, (run_of_requests hplay).1⟩ hp
  generalize hcall : handle "a" (.setReadSnapshot false) sys = outcome at hswitching
  cases hswitching with
  | @done sys' _ hswitched =>
    have hdata : ∀ req ∈ reqs, req.isData = true := by decide
    obtain ⟨again, mid, r, last, again', mid', last', hrun, hcommit, hrun', hcommit', hresults, -,
      hlast⟩ := hswitched.agree reqs hdata
    exact ⟨ts, sys, sys', again, mid, r, last, again', mid', last', hplay, hpending, hcall,
      hswitched, hrun, hcommit, hrun', hcommit', hresults, hlast⟩
  | timeout hw => exact absurd hfree hw
  | waits hw => exact absurd hfree hw

end System

end QuadTxn
