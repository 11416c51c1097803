import QuadTxn.Proofs.Runs.Alone
import QuadTxn.Proofs.Runs.Publication

/-!
# Serializable transactions

A transaction that stays serializable from its beginning to its commit could have run alone, just
before its commit (`System.serializable_commit_repeats_alone`). The invariant is that as long as
its ledger holds no commit of another connection, everything that it has done so far would have
come out the same on every set of statements that agrees with the committed ones on what it has
read (`Repeatable`). A commit of another connection either is taken down in the ledger or leaves
the committed statements in agreement.
-/

namespace QuadTxn

/-- A request that a transaction has done, with its answer, if it is one on statements. -/
def Request.done (req : Request) : Except TxnError Answer → List (Request × Answer)
  | .ok a => if req.onStatements then [(req, a)] else []
  | .error _ => []

theorem Request.done_of_not_onStatements {req : Request} (h : req.onStatements = false)
    (r : Except TxnError Answer) : req.done r = [] := by
  cases r with
  | ok => exact if_neg (by simp [h])
  | error => rfl

/-- The requests on statements that a connection has done in a run, with their answers. -/
def Transition.work (id : ConnectionId) (ts : List Transition) : List (Request × Answer) :=
  ts.flatMap fun t =>
    match t.occurrence with
    | .request j req => if j = id then req.done t.result else []
    | _ => []

/-- All that a transaction has done would come out the same on every set that agrees with the
committed statements on what it has read, unless its ledger holds a commit of another one. -/
def Repeatable (c : Connection Session) (committed : Model) (work : List (Request × Answer))
    (log : List Write) : Prop :=
  c.ledger.changes = [] → ∀ m : Model,
    (∀ r ∈ c.ledger.reads, Model.Agree r.footprint m committed) → m.Performs work log

namespace Ledger

theorem mem_reads_observe {l : Ledger} {r r' : Read} :
    r' ∈ (l.observe r).reads ↔ r' ∈ l.reads ∨ r' = r := by
  simp only [observe, note]
  split
  · rename_i hr
    exact ⟨.inl, fun h => h.elim id fun heq => heq ▸ hr⟩
  · simp

end Ledger

/-! ## The transaction's own requests -/

section Own

variable {st st' : Frame Session} {req : Request} {r : Except TxnError Answer}
  {work : List (Request × Answer)} {log : List Write} (h : st.Coherent)
  (hm : st.Moves req r st') (hact : st.self.isActive = true) (hact' : st'.self.isActive = true)

include hm hact hact'

/-- A transaction's own request keeps what has been read, and takes no commit out of the ledger. -/
theorem Frame.Moves.reads : (st'.self.ledger.changes = [] → st.self.ledger.changes = []) ∧
    ∀ read ∈ st.self.ledger.reads, read ∈ st'.self.ledger.reads := by
  rw [hm.ledger hact hact']
  rcases req.observed? st.self.isolation r with _ | read
  · exact ⟨id, fun _ hread => hread⟩
  · exact ⟨fun hnil => List.map_eq_nil_iff.mp hnil,
      fun _ hread => Ledger.mem_reads_observe.mpr (.inl hread)⟩

include h

/-- What a transaction does under its own read is repeatable. -/
theorem Repeatable.own (hser : st.self.isolation.serializable = true) (hl : st.Logged log)
    (hrep : Repeatable st.self st.store.contents.statements work log) :
    Repeatable st'.self st'.store.contents.statements (work ++ req.done r)
      (log ++ req.logged st.seen r) := by
  intro hchanges m hagree
  obtain ⟨hkeep, hreads⟩ := hm.reads hact hact'
  rw [hm.contents] at hagree
  have hbefore : m.Performs work log := hrep (hkeep hchanges) m fun read hread =>
    hagree read (hreads read hread)
  rcases hon : req.onStatements with _ | _
  · rw [Request.done_of_not_onStatements hon, Request.logged_of_not_onStatements hon,
      List.append_nil, List.append_nil]
    exact hbefore
  · rcases hm.of_onStatements hon with ⟨e, -, rfl, -⟩ | ⟨hr, -, rfl, -⟩
    · rw [Request.done, Request.logged, List.append_nil, List.append_nil]
      exact hbefore
    · -- the request's own read has been registered, so the two sets agree on what it looks at
      have hfootprint : ∀ read, req.read? = some read →
          Model.Agree read.footprint (m.replay log) st.seen := by
        intro read hread
        have hobserved : req.observed? st.self.isolation (.ok (req.answerIn st.seen)) =
            some read := (if_pos (h.sound.snapshot hser)).trans hread
        have hmem : read ∈ st'.self.ledger.reads := by
          rw [hm.ledger hact hact', hobserved]
          exact Ledger.mem_reads_observe.mpr (.inr rfl)
        rw [hl.seen_eq h]
        exact (hagree read hmem).replay log
      rw [Request.done, if_pos hon, Request.logged, ← Request.answerIn_congr hfootprint,
        ← Request.writesIn_congr hfootprint]
      exact hbefore.snoc hon (Frame.malformed?_of_accepted hr)

end Own

namespace System

section Run

variable {sys sys' : System Session} (h : sys.Coherent) {id : ConnectionId} {o : Occurrence}
  {r : Except TxnError Answer}

/-! ## Commits of other connections -/

theorem reads_of_passes (hpass : Passes sys id o sys') :
    (sys'.connection id).ledger.reads = (sys.connection id).ledger.reads := by
  cases hpass with
  | quiet hconn => rw [hconn]
  | insert _ hconn => rw [hconn]
  | commit _ _ hconn =>
    rw [hconn, Connection.noteCommit]
    split
    · exact Ledger.changed_reads
    · rfl

include h

/-- What a transaction has done stays repeatable when a step passes it by. Where it has read
nothing, it does not depend on the committed statements; else the native transactions are in step
with the store, so that what a commit publishes is what has changed. -/
theorem repeatable_of_passes {work : List (Request × Answer)} {log : List Write}
    (hpass : Passes sys id o sys') (hinsert : ∀ s, o ≠ .insert s)
    (htracking : (sys.connection id).tracking = true)
    (hsteady : sys.InStep ∨ (sys.connection id).ledger.reads = [])
    (hrep : Repeatable (sys.connection id) sys.store.contents.statements work log) :
    Repeatable (sys'.connection id) sys'.store.contents.statements work log := by
  cases hpass with
  | quiet hconn hcontents =>
    rw [hconn, hcontents]
    exact hrep
  | insert ho => exact absurd ho (hinsert _)
  | @commit j change st hj hc hconn hcontents =>
    rw [hconn, hcontents]
    have hnote : ∀ change, ((sys.connection id).noteCommit change).ledger =
        ((sys.connection id).ledger.changed Read.affectedBy change).2 := by
      intro change
      rw [Connection.noteCommit, if_pos htracking]
    rcases hsteady with hstep | hunread
    · -- the ledger is shown the exact change, so what it passes over touches nothing that was read
      rw [noteCommit_of_commits h hc (hstep j) (Ne.symm hj)]
      intro hchanges m hagree
      rw [hnote] at hchanges hagree
      obtain ⟨hnil, hunaffected⟩ := Ledger.unaffected_of_changed hchanges
      rw [Ledger.changed_reads] at hagree
      refine hrep hnil m fun read hread => (hagree read hread).trans ?_
      obtain ⟨hadded, hremoved⟩ := hunaffected read hread
      exact Read.agree_of_unaffected hremoved hadded
    · -- what has been done without a read comes out the same on every set
      intro hchanges m _
      rw [hnote, Ledger.changed_of_unread hunread] at hchanges
      refine hrep hchanges m fun read hread => ?_
      rw [hunread] at hread
      cases hread

/-- A transaction that has read something runs among native transactions that are in step with the
store: nobody else holds the gate when it reads. -/
theorem steady_step (he : Effect sys o r sys') (hcalm : Calm sys o)
    (hact : (sys.connection id).isActive = true) (hact' : (sys'.connection id).isActive = true)
    (hsynced : (sys.frame id).Synced)
    (hsteady : sys.InStep ∨ (sys.connection id).ledger.reads = []) :
    sys'.InStep ∨ (sys'.connection id).ledger.reads = [] := by
  rcases hsteady with hstep | hunread
  · exact .inl (hstep.effect h he hcalm)
  · rcases active_step h he hact' with ⟨req, rfl, hm⟩ | ⟨-, hpass⟩
    · have hledger : (sys'.connection id).ledger = _ := hm.ledger hact hact'
      rcases hobserved : req.observed? (sys.frame id).self.isolation r with _ | read
      · rw [hobserved] at hledger
        exact .inr (hledger ▸ hunread)
      · -- this is the first read of the transaction, and the gate has admitted it
        obtain ⟨⟨a, rfl⟩, hread⟩ := Request.read?_of_observed hobserved
        have hon : req.onStatements = true := by
          rcases hon : req.onStatements with _ | _
          · rw [Request.read?_of_not_onStatements hon] at hread
            cases hread
          · rfl
        rcases hm.of_onStatements hon with ⟨e, -, herror, -⟩ | ⟨-, hcan, -⟩
        · cases herror
        · have hadmitted : (sys.frame id).Admitted := hcan (by rw [hread]; rfl) hact
          exact .inl ((inStep_of_admitted h hadmitted hsynced).effect h he hcalm)
    · exact .inr ((reads_of_passes hpass).trans hunread)

end Run

/-! ## Along the life of a serializable transaction -/

/-- What holds of a serializable transaction as long as it runs. -/
structure Serial (id : ConnectionId) (work : List (Request × Answer)) (log : List Write)
    (sys : System Session) : Prop where
  /-- the system is coherent -/
  coherent : sys.Coherent
  /-- the transaction runs -/
  active : (sys.connection id).isActive = true
  /-- it is serializable -/
  serializable : (sys.connection id).isolation.serializable = true
  /-- it has not been prepared against its ledger -/
  unopposed : (sys.connection id).Unopposed
  /-- its native transaction is in step with the store -/
  synced : (sys.frame id).Synced
  /-- what it has written is its log -/
  logged : (sys.frame id).Logged log
  /-- all native transactions are in step with the store, unless it has read nothing -/
  steady : sys.InStep ∨ (sys.connection id).ledger.reads = []
  /-- what it has done is repeatable -/
  repeatable : Repeatable (sys.connection id) sys.store.contents.statements work log

theorem Serial.begin {sys sys' : System Session} (h : sys.Coherent) {id : ConnectionId}
    {a : Answer} (hs : Step sys (.request id .begin) (.ok a) sys')
    (hser : (sys'.connection id).isolation.serializable = true) : Serial id [] [] sys' := by
  obtain ⟨hp, hact, hunprepared, hledger, -⟩ := begun_of_step h hs
  have hidle : (sys.frame id).Synced := Frame.synced_of_none ((h.frame id).idle hp).1
  exact {
    coherent := h.step hs
    active := hact
    serializable := hser
    unopposed := fun hprepared => absurd hprepared hunprepared
    synced := synced_step h (effect_of_step h hs) (calm_request sys id _) hidle
    logged := (logged_of_begin h hs).1
    steady := .inr (by rw [hledger]; rfl)
    repeatable := fun _ _ _ => .nil }

/-- A serializable transaction that runs on stays repeatable. -/
theorem Serial.step {sys sys' : System Session} {id : ConnectionId}
    {work : List (Request × Answer)} {log : List Write} (hserial : Serial id work log sys)
    {o : Occurrence} {r : Except TxnError Answer} (hs : Step sys o r sys')
    (hact : (sys'.connection id).isActive = true)
    (hser : (sys'.connection id).isolation.serializable = true)
    (hinsert : ∀ s, o ≠ .insert s) :
    Serial id (work ++ Transition.work id [⟨sys, o, r, sys'⟩])
      (Transition.extend id log ⟨sys, o, r, sys'⟩) sys' := by
  have h := hserial.coherent
  have he := effect_of_step h hs
  have hcalm : Calm sys o := fun ⟨s, heq⟩ => absurd heq (hinsert s)
  have hframe := h.frame id
  refine ⟨h.step hs, hact, hser, ?_, synced_step h he hcalm hserial.synced,
    logged_step h he hcalm hserial.logged,
    steady_step h he hcalm hserial.active hact hserial.synced hserial.steady, ?_⟩
  · rcases active_step h he hact with ⟨req, -, hm⟩ | ⟨-, hpass⟩
    · exact hm.unopposed hframe hserial.unopposed
    · exact hpass.unopposed h hserial.unopposed
  · rcases active_step h he hact with ⟨req, rfl, hm⟩ | ⟨hown, hpass⟩
    · have hwork : Transition.work id [⟨sys, .request id req, r, sys'⟩] = req.done r := by
        rw [Transition.work, List.flatMap_singleton]
        exact if_pos rfl
      have hseen : (sys.frame id).seen = sys.store.contents.statements.replay log :=
        hserial.logged.seen_eq hframe
      rw [hwork, Transition.extend_own hact, ← hseen]
      exact hserial.repeatable.own hframe hm hserial.active hact hserial.serializable
        hserial.logged
    · have hwork : Transition.work id [⟨sys, o, r, sys'⟩] = [] := by
        rw [Transition.work, List.flatMap_singleton]
        cases o with
        | request j req => exact if_neg fun hj => hown req (by rw [hj])
        | _ => rfl
      have htracking : (sys.connection id).tracking = true :=
        hframe.sound.tracking hserial.active (hframe.sound.snapshot hserial.serializable)
      rw [hwork, List.append_nil, Transition.extend_other hact hown]
      exact repeatable_of_passes h hpass hinsert htracking hserial.steady hserial.repeatable

theorem Serial.run {start sys : System Session} {id : ConnectionId}
    (hserial : Serial id [] [] start) {ts : List Transition} (hr : Run start ts sys)
    (hact : ∀ t ∈ ts, (t.after.connection id).isActive = true)
    (hser : ∀ t ∈ ts, (t.after.connection id).isolation.serializable = true)
    (hinsert : ∀ t ∈ ts, ∀ s, t.occurrence ≠ .insert s) :
    Serial id (Transition.work id ts) (Transition.log id ts) sys := by
  induction hr with
  | nil => exact hserial
  | @snoc ts sys sys' o r _ hs ih =>
    obtain ⟨hact, hact'⟩ := Transition.forall_snoc hact
    obtain ⟨hser, hser'⟩ := Transition.forall_snoc hser
    obtain ⟨hinsert, hinsert'⟩ := Transition.forall_snoc hinsert
    rw [Transition.log_snoc, Transition.work, List.flatMap_append]
    exact (ih hact hser hinsert).step hs hact' hser' hinsert'

/-! ## The guarantee -/

/-- A transaction that is serializable from its beginning to its commit, while no statement is put
into the store directly, could have run alone on the committed statements that stood just before
its commit. Whatever it read, counted and wrote in the run, it is answered the same when its
connection is alone with these statements and makes the same requests, and its commit leaves the
same statements. -/
theorem serializable_commit_repeats_alone {before start last after : System Session}
    (hreach : Reachable before) {id : ConnectionId} {a b : Answer}
    (hbegin : Step before (.request id .begin) (.ok a) start) {ts : List Transition}
    (hr : Run start ts last) (hact : ∀ t ∈ ts, (t.after.connection id).isActive = true)
    (hstart : (start.connection id).isolation.serializable = true)
    (hser : ∀ t ∈ ts, (t.after.connection id).isolation.serializable = true)
    (hinsert : ∀ t ∈ ts, ∀ s, t.occurrence ≠ .insert s)
    (hcommit : Step last (.request id .commit) (.ok b) after) :
    ∃ begun rerun done final,
      Step (alone (before.connection id) last.store.contents) (.request id .begin) (.ok .none)
        begun ∧
      Run begun rerun done ∧
      (rerun.map fun t => (t.occurrence, t.result)) =
        (Transition.work id ts).map (fun w => (.request id w.1, .ok w.2)) ∧
      Step done (.request id .commit) (.ok .none) final ∧
      final.store.contents.statements = after.store.contents.statements := by
  have h := hreach.coherent
  have hserial := (Serial.begin h hbegin hstart).run hr hact hser hinsert
  have hlast := hserial.coherent
  have hwork : last.store.contents.statements.Performs (Transition.work id ts)
      (Transition.log id ts) := by
    have hchanges := changes_of_prepare hlast hserial.active hserial.unopposed
      hserial.serializable (.inr rfl) hcommit
    exact hserial.repeatable hchanges _ fun read _ => Model.Agree.refl _ _
  have hafter : after.store.contents.statements =
      last.store.contents.statements.replay (Transition.log id ts) :=
    statements_of_commit hlast hserial.synced hserial.logged hcommit
  obtain ⟨hp, -⟩ := begun_of_step h hbegin
  rw [hafter]
  exact run_alone (h.name id) (h.frame id).sound hp hwork

/-- A serializable transaction looks for what is said of one subject, another connection commits a
statement on a different subject, and the transaction adds one and commits. It could have run
alone. -/
theorem reader_of_other_subject_repeats_alone : ∃ before a start ts last b after,
    Step before (.request "a" .begin) (.ok a) start ∧
    requests start [("a", .getStatements ⟨some (.iri "s"), none, none, []⟩ false), ("b", .begin),
      ("b", .addStatement ⟨.iri "t", .iri "p", .iri "o", none⟩), ("b", .commit),
      ("a", .addStatement ⟨.iri "s", .iri "p", .iri "o", none⟩)] = some (ts, last) ∧
    Step last (.request "a" .commit) (.ok b) after ∧
    ∃ begun rerun done final,
      Step (alone (before.connection "a") last.store.contents) (.request "a" .begin) (.ok .none)
        begun ∧
      Run begun rerun done ∧
      (rerun.map fun t => (t.occurrence, t.result)) =
        (Transition.work "a" ts).map (fun w => (.request "a" w.1, .ok w.2)) ∧
      Step done (.request "a" .commit) (.ok .none) final ∧
      final.store.contents.statements = after.store.contents.statements := by
  obtain ⟨all, after, hplay, hcheck⟩ := requests_of_check
    (fun ts _ => (ts.all fun t => t.result.isOk) && (ts.drop 1).dropLast.all fun t =>
      (t.after.connection "a").isActive && (t.after.connection "a").isolation.serializable)
    (by decide +kernel : (requests .new ([("a", .setIsolation .serializable), ("a", .begin)] ++
      ([("a", .getStatements ⟨some (.iri "s"), none, none, []⟩ false), ("b", .begin),
        ("b", .addStatement ⟨.iri "t", .iri "p", .iri "o", none⟩), ("b", .commit),
        ("a", .addStatement ⟨.iri "s", .iri "p", .iri "o", none⟩)] ++
      [("a", .commit)]))).any _ = true)
  obtain ⟨start, _, _, rfl, hfirst, hrest⟩ := requests_append hplay
  obtain ⟨last, ts, _, rfl, hmiddle, hlast⟩ := requests_append hrest
  obtain ⟨_, before, _, rfl, hset, hsecond⟩ := requests_cons hfirst
  obtain ⟨r, _, _, rfl, hbegin, hnone⟩ := requests_cons hsecond
  obtain ⟨rfl, rfl⟩ := Prod.mk.inj (Option.some.inj hnone)
  obtain ⟨r', _, _, rfl, hcommit, hnone'⟩ := requests_cons hlast
  obtain ⟨rfl, rfl⟩ := Prod.mk.inj (Option.some.inj hnone')
  obtain ⟨hr, hreqs⟩ := run_of_requests hmiddle
  simp only [Bool.and_eq_true, List.all_eq_true] at hcheck
  obtain ⟨hok, hlife⟩ := hcheck
  have hinner : ∀ {t x y z : Transition}, t ∈ y :: ts →
      t ∈ (([x, y] ++ (ts ++ [z])).drop 1).dropLast := by
    intro t x y z ht
    rw [show ([x, y] ++ (ts ++ [z])).drop 1 = (y :: ts) ++ [z] from rfl, List.dropLast_concat]
    exact ht
  have hbegun := hok ⟨before, .request "a" .begin, r, _⟩ (.tail _ (.head _))
  have hcommitted := hok _ (.tail _ (.tail _ (List.mem_append_right ts (.head _))))
  cases r with
  | error => cases hbegun
  | ok a =>
    cases r' with
    | error => cases hcommitted
    | ok b =>
      refine ⟨before, a, _, ts, last, b, _, hbegin, hmiddle, hcommit, ?_⟩
      refine serializable_commit_repeats_alone ⟨_, Run.nil.snoc hset⟩ hbegin hr
        (fun t ht => (hlife t (hinner (.tail _ ht))).1) (hlife _ (hinner (.head _))).2
        (fun t ht => (hlife t (hinner (.tail _ ht))).2) (fun t ht s heq => ?_) hcommit
      obtain ⟨id, req, hreq⟩ := hreqs t ht
      rw [hreq] at heq
      cases heq

end System

end QuadTxn
