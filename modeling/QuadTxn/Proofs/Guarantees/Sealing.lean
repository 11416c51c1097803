import QuadTxn.Proofs.Guarantees.Order
import QuadTxn.Proofs.Runs.Publication

/-!
# A prepared transaction is sealed

Once a transaction is prepared its outcome is fixed. The connection keeps its native transaction and
its account of changes whatever it is asked for, short of a commit or a rollback
(`Frame.Moves.prepared`), and it keeps the gate, so that nobody else changes what is committed. A
later commit is therefore the commit that could have been made at once
(`System.prepared_outcome_is_sealed`).

A write is refused all the same if its arguments are malformed, and that is then the reason that is
given (`System.malformed_write_is_not_prepared`).
-/

namespace QuadTxn

/-- The transaction of a connection ends in a step, one way or the other. -/
def Occurrence.Ends (id : ConnectionId) (o : Occurrence) : Prop :=
  o = .request id .commit ∨ o = .request id .rollback ∨ o = .disconnect id

/-- A connection is prepared for what it was prepared for before. -/
structure Connection.StillPrepared (c c' : Connection Session) : Prop where
  /-- the transaction is prepared -/
  phase : c'.phase = .prepared
  /-- the native transaction is the same -/
  session : c'.session = c.session
  /-- the account of changes is the same -/
  net : c'.net = c.net

namespace Frame

/-! ## Calls on a prepared connection -/

section Prepared

variable {st : Frame Session}

theorem unwritable?_prepared (hp : st.self.phase = .prepared) :
    st.unwritable? = some .prepared := by
  rw [unwritable?, hp]

/-- A prepared transaction stays prepared for the same, until it is committed or rolled back. -/
theorem Moves.prepared (hp : st.self.phase = .prepared) {req : Request}
    {r : Except TxnError Answer} {st' : Frame Session} (hm : Moves st req r st')
    (hreq : req ≠ .rollback) : st.self.StillPrepared st'.self := by
  have hsealed := unwritable?_prepared hp
  have hsame : st.self.StillPrepared st.self := ⟨hp, rfl, rfl⟩
  cases hm with
  | statements _ hr =>
    obtain ⟨ledger, events, hnoted, -⟩ := noted_eq st req
    rw [perform_prepared hp hr, hnoted]
    exact ⟨hp, rfl, rfl⟩
  | binding hb hr => cases hsealed.symm.trans (writable_of_binding hb hr)
  | beginStaged hidle => cases hp.symm.trans hidle
  | beginDirect hidle => cases hp.symm.trans hidle
  | beginTimeout hidle => cases hp.symm.trans hidle
  | prepare hprep =>
    cases hprep with
    | skip => exact hsame
    | timeout hstaging => cases hp.symm.trans hstaging
    | conflict hw => cases hsealed.symm.trans hw
    | failed hw => cases hsealed.symm.trans hw
    | done hw => cases hsealed.symm.trans hw
  | rollback => exact absurd rfl hreq
  | switch _ hstaging => cases hp.symm.trans hstaging
  | _ => exact ⟨hp, rfl, rfl⟩

/-- Every write is refused, as malformed if it is. -/
theorem refused_prepared (hp : st.self.phase = .prepared) {req : Request}
    (hwrite : req.isWrite = true) :
    req.call st = .error (req.malformed?.getD .prepared) st := by
  refine call_refused ?_
  rw [refusal?_of_isWrite hwrite, unwritable?_prepared hp]
  rcases req.malformed? with _ | e
  · rfl
  · rfl

/-- A commit has nothing left to check, and only the store can refuse it. -/
theorem commit_prepared (h : st.Coherent) (hp : st.self.phase = .prepared) :
    Connection.commit st =
      if st.store.failCommit then
        .error (.storage (.injected "commit")) st.abandoned.commitFailed
      else .ok (some st.published) st.committed := by
  obtain ⟨t, ht, -⟩ := h.prepared hp
  have hskip : st.unwritable? ≠ none := by simp [unwritable?_prepared hp]
  rw [commit_eq_bind (Connection.isActive_of_prepared hp), prepare_skip hskip]
  exact native_commit_eq ht

end Prepared

/-- A transaction that stages its writes cannot be committed while the gate is taken. -/
theorem Commits.timeout {st : Frame Session} (hp : st.self.phase = .staging) (hf : ¬st.Free)
    {r : Except TxnError (Option ChangeSet)} {st' : Frame Session} (hc : Commits st r st') :
    ∃ ms, r = .error (.lockTimeout ms) := by
  have hnone : ¬st.Available := by
    rintro (hdirect | hfree)
    · cases hp.symm.trans hdirect
    · exact hf hfree
  have hw : st.unwritable? = none := by simp [unwritable?, hp]
  have hprepares : ∀ {r : Except TxnError Unit} {st' : Frame Session}, Prepares st r st' →
      ∃ ms, r = .error (.lockTimeout ms) := by
    intro r st' hprep
    cases hprep with
    | skip hskip => exact absurd hw hskip
    | timeout => exact ⟨_, rfl⟩
    | conflict _ ha => exact absurd ha hnone
    | failed _ ha => exact absurd ha hnone
    | done _ ha => exact absurd ha hnone
  cases hc with
  | skip hact =>
    rw [isActive_of_writable hw] at hact
    cases hact
  | refused _ hprep =>
    obtain ⟨ms, heq⟩ := hprepares hprep
    cases heq
    exact ⟨ms, rfl⟩
  | failed _ hprep =>
    obtain ⟨_, heq⟩ := hprepares hprep
    cases heq
  | done _ hprep =>
    obtain ⟨_, heq⟩ := hprepares hprep
    cases heq

end Frame

namespace System

/-! ## Steps while a transaction is prepared -/

section Step

variable {sys sys' : System Session} (h : sys.Coherent) {id : ConnectionId}
  (hp : (sys.connection id).phase = .prepared)

include h hp

/-- A step that does not end a prepared transaction leaves it prepared for the same, and changes
nothing that is committed. -/
theorem prepared_step {o : Occurrence} {r : Except TxnError Answer} (he : Effect sys o r sys')
    (hcalm : Calm sys o) (hends : ¬o.Ends id) :
    (sys.connection id).StillPrepared (sys'.connection id) ∧
      sys'.store.contents = sys.store.contents := by
  by_cases hown : ∃ req, o = .request id req
  · obtain ⟨req, rfl⟩ := hown
    cases he with
    | move _ hm =>
      rw [connection_setFrame_self]
      exact ⟨hm.prepared hp fun hreq => hends (.inr (.inl (by rw [hreq]))), hm.contents⟩
    | commitFails => exact absurd (.inl rfl) hends
    | commitSkips => exact absurd (.inl rfl) hends
    | commit => exact absurd (.inl rfl) hends
  · have hconnect : ∀ level t, o ≠ .connect id level t := by
      rintro level t rfl
      cases he with
      | connect hget =>
        rw [connection_of_get?_none hget] at hp
        cases hp
    have hpass := passes h he (fun req heq => hown ⟨req, heq⟩) hconnect
      fun heq => hends (.inr (.inr heq))
    obtain ⟨hconn, hcontents⟩ := hpass.engaged h (.inr hp)
    rw [hconn]
    exact ⟨⟨hp, rfl, rfl⟩, hcontents hcalm⟩

/-- The gate is not free for others. -/
theorem not_free_of_prepared (j : ConnectionId) : ¬(sys.frame j).Free := by
  rw [(h.frame j).free_iff]
  change sys.coordinator.gate.writer ≠ none
  rw [(writer_iff h id).mpr (.inr hp)]
  exact nofun

/-- No other connection runs a native transaction. -/
theorem not_engaged_of_prepared {j : ConnectionId} (hj : j ≠ id) :
    ¬(sys.connection j).Engaged := by
  rw [← writer_iff h j, (writer_iff h id).mpr (.inr hp)]
  exact fun heq => hj (Option.some.inj heq).symm

theorem commit_iff_of_prepared {r : Except TxnError Answer} :
    Step sys (.request id .commit) r sys' ↔
      (sys.store.failCommit = true ∧ r = .error (.storage (.injected "commit")) ∧
        sys' = sys.setFrame id (sys.frame id).abandoned.commitFailed) ∨
      (sys.store.failCommit = false ∧ r = .ok .none ∧
        sys' = announce (sys.frame id).published (sys.setFrame id (sys.frame id).committed)) := by
  have hcommit := Frame.commit_prepared (h.frame id) hp
  rw [show (sys.frame id).store = sys.store from rfl] at hcommit
  rw [Step, Occurrence.act, handle, Action.bind_apply, commit, Action.bind_apply, on, Action.zoom,
    hcommit]
  rcases sys.store.failCommit with _ | _
  · constructor
    · rintro ⟨-, hd⟩
      obtain ⟨rfl, rfl⟩ := Prod.mk.inj (Option.some.inj hd)
      exact .inr ⟨rfl, rfl, rfl⟩
    · rintro (⟨hfail, -⟩ | ⟨-, rfl, rfl⟩)
      · cases hfail
      · exact ⟨trivial, rfl⟩
  · constructor
    · rintro ⟨-, hd⟩
      obtain ⟨rfl, rfl⟩ := Prod.mk.inj (Option.some.inj hd)
      exact .inl ⟨rfl, rfl, rfl⟩
    · rintro (⟨-, rfl, rfl⟩ | ⟨hfail, -⟩)
      · exact ⟨trivial, rfl⟩
      · cases hfail

end Step

/-- From a prepared transaction on, a run that does not end it keeps it prepared for the same, and
changes nothing that is committed. -/
theorem prepared_run {start sys : System Session} (h : start.Coherent) {ts : List Transition}
    (hr : Run start ts sys) (hcalm : ∀ t ∈ ts, t.Calm) {id : ConnectionId}
    (hends : ∀ t ∈ ts, ¬t.occurrence.Ends id) (hp : (start.connection id).phase = .prepared) :
    (start.connection id).StillPrepared (sys.connection id) ∧
      sys.store.contents = start.store.contents := by
  induction hr with
  | nil => exact ⟨⟨hp, rfl, rfl⟩, rfl⟩
  | snoc hr hs ih =>
    obtain ⟨hcalm, hcalm'⟩ := Transition.forall_snoc hcalm
    obtain ⟨hends, hends'⟩ := Transition.forall_snoc hends
    obtain ⟨hkept, hcontents⟩ := ih hcalm hends
    have hmid := h.run hr
    obtain ⟨hkept', hcontents'⟩ :=
      prepared_step hmid hkept.phase (effect_of_step hmid hs) hcalm' hends'
    exact ⟨⟨hkept'.phase, hkept'.session.trans hkept.session, hkept'.net.trans hkept.net⟩,
      hcontents'.trans hcontents⟩

/-- A preparation that succeeds leaves a running transaction prepared. -/
theorem prepared_of_step {sys sys' : System Session} (h : sys.Coherent) {id : ConnectionId}
    (hact : (sys.connection id).isActive = true) {a : Answer}
    (hs : Step sys (.request id .prepare) (.ok a) sys') :
    (sys'.connection id).phase = .prepared := by
  cases effect_of_step h hs with
  | move _ hm =>
    obtain ⟨r, hp, hr⟩ := hm.of_prepare
    rw [connection_setFrame_self]
    cases r with
    | ok => exact hp.ok_phase hact
    | error => cases hr

/-! ## The guarantee -/

/-- The system with a store that was not told to fail a commit. -/
def unfailing (sys : System Session) : System Session :=
  { sys with store := { sys.store with failCommit := false } }

/-- The outcome of the transaction that a connection had prepared is still what it was then. -/
structure Sealed (id : ConnectionId) (start sys : System Session) : Prop where
  /-- every write is refused, whatever it is, and changes nothing -/
  refused : ∀ req r sys', req.isWrite = true → (Step sys (.request id req) r sys' ↔
    r = .error (req.malformed?.getD .prepared) ∧ sys' = sys)
  /-- no other connection runs a native transaction, and so none writes through -/
  alone : ∀ j, j ≠ id → ¬(sys.connection j).Engaged
  /-- no other connection can commit a transaction -/
  others : ∀ j r sys', j ≠ id → (sys.connection j).isActive = true →
    Step sys (.request j .commit) r sys' → ∃ ms, r = .error (.lockTimeout ms)
  /-- what is committed is as it was -/
  contents : sys.store.contents = start.store.contents
  /-- the transaction can be committed without waiting -/
  enabled : ∃ r sys', Step sys (.request id .commit) r sys'
  /-- this fails only if the store was told to, and otherwise commits what could have been committed
  at once; what is published is the account of that time, if anybody is there to receive it -/
  outcome : ∀ r sys', Step sys (.request id .commit) r sys' →
    (sys.store.failCommit = true ∧ r = .error (.storage (.injected "commit"))) ∨
    (sys.store.failCommit = false ∧ r = .ok .none ∧
      (∃ soon, Step start.unfailing (.request id .commit) (.ok .none) soon ∧
        sys'.store.contents = soon.store.contents) ∧
      ∃ change mid, on id Connection.commit sys = .ok (some change) mid ∧
        publish change mid = .ok ⟨⟩ sys' ∧
        (0 < sys.coordinator.listeners ∨ (∃ j, j ≠ id ∧ (sys.connection j).isActive = true) →
          change = ⟨id, (start.connection id).net.added, (start.connection id).net.removed⟩))

theorem Coherent.unfailing {sys : System Session} (h : sys.Coherent) : sys.unfailing.Coherent :=
  h.congr (fun _ => rfl) rfl rfl

/-- A transaction that is still prepared for the same has a sealed outcome. -/
theorem sealed_of_prepared {start sys : System Session} (hstart : start.Coherent) (h : sys.Coherent)
    {id : ConnectionId} (hp : (start.connection id).phase = .prepared)
    (hkept : (start.connection id).StillPrepared (sys.connection id))
    (hcontents : sys.store.contents = start.store.contents) : Sealed id start sys where
  refused := fun req r sys' hwrite => by
    have hact := Connection.isActive_of_prepared hkept.phase
    have hreq : req ≠ .commit := by
      rintro rfl
      cases hwrite
    have hcall : req.call (sys.frame id) = _ := Frame.refused_prepared hkept.phase hwrite
    have hsame := setFrame_frame hact
    rw [step_iff_of_done hreq (congrArg Outcome.done? hcall), hsame]
  alone := fun _ hj => not_engaged_of_prepared h hkept.phase hj
  others := fun j r sys' hj hact hs => by
    have hstaging : (sys.frame j).self.phase = .staging := by
      have hnot := not_engaged_of_prepared h hkept.phase hj
      rcases hphase : (sys.connection j).phase with _ | _ | _ | _
      · exact absurd hphase (Connection.isActive_iff.mp hact)
      · exact hphase
      · exact absurd (.inl hphase) hnot
      · exact absurd (.inr hphase) hnot
    have hfree := not_free_of_prepared h hkept.phase j
    rcases commit_of_done h hs.2 with ⟨e, st, -, hc, rfl, -⟩ | ⟨change?, st, -, hc, -, -⟩
    · obtain ⟨ms, heq⟩ := hc.timeout hstaging hfree
      cases heq
      exact ⟨ms, rfl⟩
    · exact nomatch (hc.timeout hstaging hfree).choose_spec
  contents := hcontents
  enabled := by
    rcases hf : sys.store.failCommit with _ | _
    · exact ⟨_, _, (commit_iff_of_prepared h hkept.phase).mpr (.inr ⟨hf, rfl, rfl⟩)⟩
    · exact ⟨_, _, (commit_iff_of_prepared h hkept.phase).mpr (.inl ⟨hf, rfl, rfl⟩)⟩
  outcome := fun r sys' hs => by
    rcases (commit_iff_of_prepared h hkept.phase).mp hs with ⟨hf, hr, -⟩ | ⟨hf, hr, rfl⟩
    · exact .inl ⟨hf, hr⟩
    · have hsoon := (commit_iff_of_prepared hstart.unfailing hp).mpr (.inr ⟨rfl, rfl, rfl⟩)
      refine .inr ⟨hf, hr, ⟨_, hsoon, ?_⟩, (sys.frame id).published,
        sys.setFrame id (sys.frame id).committed, ?_, rfl, fun hwatched => ?_⟩
      · -- both commits replay one journal on one contents
        change sys.store.contents.replay (sys.frame id).journal =
          start.store.contents.replay (start.frame id).journal
        rw [hcontents, Frame.journal, Frame.journal,
          show (sys.frame id).self.session = (start.frame id).self.session from hkept.session]
      · have hcommit := Frame.commit_prepared (h.frame id) hkept.phase
        rw [show (sys.frame id).store.failCommit = false from hf] at hcommit
        rw [on, Action.zoom, hcommit]
        rfl
      · have hreached : (sys.frame id).coordinator.isWatched = true :=
          (isWatched_iff h (Connection.isActive_of_prepared hkept.phase)).mpr hwatched
        rw [Frame.published, hreached, if_pos rfl,
          show (sys.frame id).self.net = (start.connection id).net from hkept.net]
        exact congrArg (ChangeSet.mk · _ _) (h.name id)

/-- Once a running transaction has been prepared, whatever calls are made on whatever connections,
short of those that end it, its outcome stays what it was then: it takes no writes, nobody else
commits or writes through, and its commit is the one that could have been made at once. Statements
are put into the store directly only while no native transaction runs. -/
theorem prepared_outcome_is_sealed {before start sys : System Session} (hreach : Reachable before)
    {id : ConnectionId} (hact : (before.connection id).isActive = true) {a : Answer}
    (hprepare : Step before (.request id .prepare) (.ok a) start) {ts : List Transition}
    (hr : Run start ts sys) (hcalm : ∀ t ∈ ts, t.Calm)
    (hends : ∀ t ∈ ts, ¬t.occurrence.Ends id) : Sealed id start sys := by
  have hbefore := hreach.coherent
  have hstart := hbefore.step hprepare
  have hp := prepared_of_step hbefore hact hprepare
  obtain ⟨hkept, hcontents⟩ := prepared_run hstart hr hcalm hends hp
  exact sealed_of_prepared hstart (hstart.run hr) hp hkept hcontents

/-- Whether a preparation is one of a running transaction that succeeds, and `s` is all that the
transaction has added. -/
def preparesOnly (s : Statement) (t : Transition) : Bool :=
  match t.occurrence with
  | .request id .prepare => (t.before.connection id).isActive && t.result.isOk &&
      decide ((t.after.connection id).net.added.toList = [s])
  | _ => true

/-- A connection adds a statement and is prepared. It reads and is prepared once more, and another
one begins, all to no effect on what is to be committed. -/
theorem prepared_addition_is_sealed : ∃ ts before a start ts' sys,
    requests .new [("a", .begin), ("a", .addStatement ⟨.iri "s", .iri "p", .iri "o", none⟩)] =
      some (ts, before) ∧
    Step before (.request "a" .prepare) (.ok a) start ∧
    requests start [("b", .begin), ("a", .getStatements ⟨none, none, none, []⟩ false),
      ("a", .prepare)] = some (ts', sys) ∧
    Sealed "a" start sys ∧ (sys.connection "b").isActive = true ∧
    (start.connection "a").net.added.toList = [⟨.iri "s", .iri "p", .iri "o", none⟩] := by
  obtain ⟨all, sys, hplay, hcheck⟩ := requests_of_check
    (fun ts sys => (sys.connection "b").isActive &&
      ts.all (preparesOnly ⟨.iri "s", .iri "p", .iri "o", none⟩))
    (by decide +kernel : (requests .new ([("a", .begin),
      ("a", .addStatement ⟨.iri "s", .iri "p", .iri "o", none⟩)] ++ (("a", .prepare) ::
        [("b", .begin), ("a", .getStatements ⟨none, none, none, []⟩ false),
          ("a", .prepare)]))).any _ = true)
  obtain ⟨before, ts, _, rfl, hfirst, hrest⟩ := requests_append hplay
  obtain ⟨r, start, ts', rfl, hprepare, hlater⟩ := requests_cons hrest
  simp only [List.all_append, List.all_cons, preparesOnly, Bool.and_eq_true,
    decide_eq_true_eq] at hcheck
  obtain ⟨hother, -, ⟨⟨hact, hok⟩, hnet⟩, -⟩ := hcheck
  obtain ⟨a, rfl⟩ := answered_of_isOk hok
  obtain ⟨hr, hreqs⟩ := run_of_requests hlater
  refine ⟨ts, before, a, start, ts', sys, hfirst, hprepare, hlater, ?_, hother, hnet⟩
  refine prepared_outcome_is_sealed ⟨ts, (run_of_requests hfirst).1⟩ hact hprepare hr
    (fun t ht => Transition.calm_of_request (hreqs t ht)) fun t ht => ?_
  obtain ⟨e, he, ho⟩ := exists_request_of_mem hlater ht
  simp only [List.mem_cons, List.not_mem_nil, or_false] at he
  rcases he with rfl | rfl | rfl <;> simp [Occurrence.Ends, ho]

/-- Whether a running transaction is prepared, and refuses the next call for some other reason than
that it is prepared. -/
def refusesOtherwise (id : ConnectionId) : List Transition → Bool
  | [t, t'] => (t.before.connection id).isActive && decide (t.result = .ok .none) &&
      !t'.result.isOk && decide (t'.result ≠ .error .prepared)
  | _ => false

/-- A connection that is prepared is asked to add a triple whose subject is a literal. What it is
told is that the triple is malformed, and not that it takes no more writes. -/
theorem malformed_write_is_not_prepared : ∃ ts before start e sys,
    requests .new [("a", .begin)] = some (ts, before) ∧
    (before.connection "a").isActive = true ∧
    Step before (.request "a" .prepare) (.ok .none) start ∧
    Step start (.request "a" (.addStatement
      ⟨.literal ⟨"v", none, none⟩, .iri "p", .iri "o", none⟩)) (.error e) sys ∧
    e ≠ .prepared := by
  obtain ⟨ts, sys, hplay, hcheck⟩ := requests_of_check
    (fun ts _ => refusesOtherwise "a" ts.tail)
    (by decide +kernel : (requests .new ([("a", .begin)] ++ [("a", .prepare), ("a", .addStatement
      ⟨.literal ⟨"v", none, none⟩, .iri "p", .iri "o", none⟩)])).any _ = true)
  obtain ⟨before, ts, _, rfl, hfirst, hrest⟩ := requests_append hplay
  obtain ⟨_, _, _, rfl, hbegin, hnil⟩ := requests_cons hfirst
  obtain ⟨rfl, rfl⟩ := Prod.mk.inj (Option.some.inj hnil)
  obtain ⟨r, start, _, rfl, hprepare, hrest⟩ := requests_cons hrest
  obtain ⟨r', _, _, rfl, hadd, hnil⟩ := requests_cons hrest
  obtain ⟨rfl, rfl⟩ := Prod.mk.inj (Option.some.inj hnil)
  simp only [List.singleton_append, List.tail_cons, refusesOtherwise, Bool.and_eq_true,
    decide_eq_true_eq] at hcheck
  obtain ⟨⟨⟨hact, rfl⟩, hfails⟩, hother⟩ := hcheck
  cases r' with
  | ok => cases hfails
  | error e => exact ⟨_, _, start, e, _, hfirst, hact, hprepare, hadd, fun he => hother (he ▸ rfl)⟩

end System

end QuadTxn
