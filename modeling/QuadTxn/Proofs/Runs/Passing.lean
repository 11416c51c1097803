import QuadTxn.Proofs.Calls.Tracking
import QuadTxn.Proofs.Runs.Effects

/-!
# Steps as one connection sees them

To a connection whose transaction runs on, a step was a request of its own, or it passes the
connection by, with at most a commit taken down in its ledger (`System.active_step`). A connection
that runs a native transaction has the whole gate, and nothing that others do changes it
(`System.Passes.engaged`).
-/

namespace QuadTxn

/-- The connection runs a native transaction. -/
def Connection.Engaged {σ : Type} (c : Connection σ) : Prop :=
  c.phase = .direct ∨ c.phase = .prepared

/-- A connection keeps its native transaction in all its requests until its transaction ends. -/
theorem Frame.Moves.engaged {st : Frame Session} {req : Request} {r : Except TxnError Answer}
    {st' : Frame Session} (hm : st.Moves req r st') (he : st.self.Engaged)
    (hact : st'.self.isActive = true) : st'.self.Engaged := by
  have hidle : st.self.phase ≠ .idle := by
    rcases he with hp | hp
    · simp [hp]
    · simp [hp]
  cases hm with
  | statements =>
    rw [Connection.Engaged, (perform_continues st req).phase]
    exact he
  | binding =>
    rw [Connection.Engaged, (write_continues st _ _).phase]
    exact he
  | beginStaged hp => exact absurd hp hidle
  | beginDirect hp => exact absurd hp hidle
  | beginTimeout hp => exact absurd hp hidle
  | prepare hp =>
    cases hp with
    | skip => exact he
    | done => exact .inr rfl
    | timeout => cases hact
    | conflict => cases hact
    | failed => cases hact
  | rollback =>
    rw [if_pos (Connection.isActive_iff.mpr hidle)] at hact
    cases hact
  | switch => exact .inl rfl
  | _ => exact he

namespace System

section Engaged

variable {sys : System Session} (h : sys.Coherent)

include h

/-- The connection that runs a native transaction is the writer at the gate. -/
theorem writer_iff (id : ConnectionId) :
    sys.coordinator.gate.writer = some id ↔ (sys.connection id).Engaged := by
  have hwriter := (h.frame id).writer
  rw [show (sys.frame id).self.id = id from h.name id] at hwriter
  exact hwriter

/-- While a transaction is committed, no other one runs a native transaction. -/
theorem not_engaged_of_commits {id : ConnectionId} {change : ChangeSet} {st : Frame Session}
    (hc : (sys.frame id).Commits (.ok (some change)) st) {j : ConnectionId} (hj : j ≠ id) :
    ¬(sys.connection j).Engaged := by
  have hwriter : sys.coordinator.gate.writer = none ∨ sys.coordinator.gate.writer = some id := by
    cases hc with
    | done hact hp =>
      cases hp with
      | skip hw =>
        exact .inr ((writer_iff h id).mpr (.inr (Frame.prepared_of_unwritable hact hw)))
      | done hw ha =>
        rcases ha with hdirect | hfree
        · exact .inr ((writer_iff h id).mpr (.inl hdirect))
        · exact .inl ((h.frame id).free_iff.mp hfree)
  rw [← writer_iff h j]
  rcases hwriter with hw | hw
  · simp [hw]
  · simp [hw, Ne.symm hj]

end Engaged

/-! ## One connection's view of a step -/

/-- Nothing is put into the store directly while a native transaction runs. -/
def Calm (sys : System Session) (o : Occurrence) : Prop :=
  (∃ s, o = .insert s) → ∀ id, ¬(sys.connection id).Engaged

theorem calm_request (sys : System Session) (id : ConnectionId) (req : Request) :
    Calm sys (.request id req) :=
  fun ⟨_, heq⟩ => nomatch heq

/-- What a step of others is to a connection. -/
inductive Passes (sys : System Session) (id : ConnectionId) (o : Occurrence)
    (sys' : System Session) : Prop where
  /-- nothing changes that the connection could notice -/
  | quiet : sys'.connection id = sys.connection id →
      sys'.store.contents = sys.store.contents → Passes sys id o sys'
  /-- a statement is put in -/
  | insert {s : Statement} : o = .insert s → sys'.connection id = sys.connection id →
      Passes sys id o sys'
  /-- a transaction is committed and announced -/
  | commit {j : ConnectionId} {change : ChangeSet} {st : Frame Session} : j ≠ id →
      (sys.frame j).Commits (.ok (some change)) st →
      sys'.connection id = (sys.connection id).noteCommit change →
      sys'.store.contents = st.store.contents → Passes sys id o sys'

/-- At most the ledger of a connection changes when a step passes it by. -/
theorem Passes.self {sys sys' : System Session} {id : ConnectionId} {o : Occurrence}
    (hpass : Passes sys id o sys') :
    ∃ ledger, sys'.connection id = { sys.connection id with ledger := ledger } := by
  cases hpass with
  | quiet hconn => exact ⟨_, hconn⟩
  | insert _ hconn => exact ⟨_, hconn⟩
  | @commit j change st _ _ hconn =>
    obtain ⟨ledger, hnote⟩ := noteCommit_eq (sys.connection id) change
    exact ⟨ledger, hconn.trans hnote⟩

section Active

variable {sys sys' : System Session} (h : sys.Coherent) {o : Occurrence}
  {r : Except TxnError Answer}

include h

/-- Nothing changes for a connection that runs a native transaction. -/
theorem Passes.engaged {id : ConnectionId} (hpass : Passes sys id o sys')
    (hengaged : (sys.connection id).Engaged) : sys'.connection id = sys.connection id ∧
      (Calm sys o → sys'.store.contents = sys.store.contents) := by
  cases hpass with
  | quiet hconn hcontents => exact ⟨hconn, fun _ => hcontents⟩
  | insert ho hconn => exact ⟨hconn, fun hcalm => absurd hengaged (hcalm ⟨_, ho⟩ id)⟩
  | commit hj hc => exact absurd hengaged (not_engaged_of_commits h hc (Ne.symm hj))

/-- A step that is not the connection's own passes it by. -/
theorem passes {id : ConnectionId} (he : Effect sys o r sys') (hown : ∀ req, o ≠ .request id req)
    (hconnect : ∀ level t, o ≠ .connect id level t) (hdisconnect : o ≠ .disconnect id) :
    Passes sys id o sys' := by
  have hset : ∀ {j : ConnectionId} {st : Frame Session}, j ≠ id →
      (sys.setFrame j st).connection id = sys.connection id :=
    fun {_ st} hj => connection_setFrame_ne sys st (Ne.symm hj)
  cases he with
  | @move j req _ st _ hm =>
    have hj : j ≠ id := fun heq => hown req (by rw [heq])
    exact .quiet (hset hj) hm.contents
  | @commitFails j e st hc =>
    have hj : j ≠ id := fun heq => hown .commit (by rw [heq])
    exact .quiet (hset hj) hc.error_contents
  | @commitSkips j =>
    have hj : j ≠ id := fun heq => hown .commit (by rw [heq])
    exact .quiet (hset hj) rfl
  | @commit j change st _ hc =>
    have hj : j ≠ id := fun heq => hown .commit (by rw [heq])
    refine .commit hj hc ?_ rfl
    rw [connection_commit h hc, hset hj]
  | @connect j level t hget =>
    have hj : id ≠ j := fun heq => hconnect level t (by rw [heq])
    refine .quiet ?_ rfl
    rw [connection_connect, if_neg hj]
  | @disconnect j st hm =>
    have hj : id ≠ j := fun heq => hdisconnect (by rw [heq])
    refine .quiet ?_ hm.contents
    rw [connection_disconnect, if_neg hj]
  | insert => exact .insert rfl rfl
  | failPrepare => exact .quiet rfl rfl
  | failCommit => exact .quiet rfl rfl
  | watch => exact .quiet rfl rfl

/-- Seen from a connection whose transaction runs after a step, the step was a call of its own, or
passed it by. -/
theorem active_step {id : ConnectionId} (he : Effect sys o r sys')
    (hact : (sys'.connection id).isActive = true) :
    (∃ req, o = .request id req ∧ (sys.frame id).Moves req r (sys'.frame id)) ∨
      ((∀ req, o ≠ .request id req) ∧ Passes sys id o sys') := by
  by_cases hown : ∃ req, o = .request id req
  · obtain ⟨req, rfl⟩ := hown
    have hself := connection_setFrame_self sys id
    cases he with
    | move _ hm => exact .inl ⟨req, rfl, (frame_setFrame sys id _).symm ▸ hm⟩
    | commitFails hc =>
      rw [hself] at hact
      exact absurd hc.error_idle (Connection.isActive_iff.mp hact)
    | commitSkips hinactive =>
      rw [hself] at hact
      exact absurd hact (by simpa [frame] using hinactive)
    | commit _ hc =>
      rw [connection_commit h hc, hself] at hact
      obtain ⟨-, c, hended⟩ := hc.done_self
      rw [hended] at hact
      cases hact
  · have hown' : ∀ req, o ≠ .request id req := fun req heq => hown ⟨req, heq⟩
    -- a connection that has just come, or has gone, runs no transaction
    refine .inr ⟨hown', passes h he hown' ?_ ?_⟩
    · rintro level t rfl
      cases he with
      | connect =>
        rw [connection_connect, if_pos rfl] at hact
        cases hact
    · rintro rfl
      cases he with
      | disconnect =>
        rw [connection_disconnect, if_pos rfl] at hact
        cases hact

/-- A connection keeps its native transaction until its transaction ends. -/
theorem engaged_step {id : ConnectionId} (he : Effect sys o r sys')
    (hengaged : (sys.connection id).Engaged) (hact : (sys'.connection id).isActive = true) :
    (sys'.connection id).Engaged := by
  rcases active_step h he hact with ⟨req, -, hm⟩ | ⟨-, hpass⟩
  · exact hm.engaged hengaged hact
  · rwa [(hpass.engaged h hengaged).1]

omit h in
theorem engaged_run (h : sys.Coherent) {ts : List Transition} (hr : Run sys ts sys')
    {id : ConnectionId} (hengaged : (sys.connection id).Engaged)
    (hact : ∀ t ∈ ts, (t.after.connection id).isActive = true) :
    (sys'.connection id).Engaged := by
  induction hr with
  | nil => exact hengaged
  | snoc hr hs ih =>
    obtain ⟨hearly, hlast⟩ := Transition.forall_snoc hact
    have hmid := h.run hr
    exact engaged_step hmid (effect_of_step hmid hs) (ih hearly) hlast

end Active

/-! ## Beginning -/

/-- A transaction that has just begun runs with the flags of its connection, has read nothing and is
not prepared. -/
theorem begun_of_step {sys sys' : System Session} (h : sys.Coherent) {id : ConnectionId}
    {a : Answer} (hs : Step sys (.request id .begin) (.ok a) sys') :
    (sys.connection id).phase = .idle ∧ (sys'.connection id).isActive = true ∧
      (sys'.connection id).phase ≠ .prepared ∧ (sys'.connection id).ledger = ∅ ∧
      (sys'.connection id).isolation = (sys.connection id).isolation := by
  cases effect_of_step h hs with
  | move _ hm =>
    rw [connection_setFrame_self]
    obtain ⟨hp, rfl | rfl⟩ := hm.of_begin
    · exact ⟨hp, rfl, nofun, rfl, rfl⟩
    · exact ⟨hp, rfl, nofun, rfl, rfl⟩

/-! ## Prepared transactions -/

/-- Nothing is taken down in the ledger of a prepared transaction. -/
theorem Passes.unopposed {sys sys' : System Session} (h : sys.Coherent) {id : ConnectionId}
    {o : Occurrence} (hpass : Passes sys id o sys') (hu : (sys.connection id).Unopposed) :
    (sys'.connection id).Unopposed := by
  intro hp hser
  obtain ⟨ledger, hconn⟩ := hpass.self
  have hp' : (sys.connection id).phase = .prepared := by rwa [hconn] at hp
  rw [(hpass.engaged h (.inr hp')).1] at hser ⊢
  exact hu hp' hser

/-- A serializable transaction that is prepared or committed has nothing recorded against it. -/
theorem changes_of_prepare {sys sys' : System Session} (h : sys.Coherent) {id : ConnectionId}
    (hact : (sys.connection id).isActive = true) (hu : (sys.connection id).Unopposed)
    (hser : (sys.connection id).isolation.serializable = true) {req : Request}
    (hreq : req = .prepare ∨ req = .commit) {a : Answer}
    (hs : Step sys (.request id req) (.ok a) sys') : (sys.connection id).ledger.changes = [] := by
  have hprepares : ∀ {st : Frame Session}, (sys.frame id).Prepares (.ok ()) st →
      (sys.connection id).ledger.changes = [] := fun hp => hp.changes hu hact hser
  rcases hreq with rfl | rfl
  · cases effect_of_step h hs with
    | move _ hm =>
      obtain ⟨r, hp, hr⟩ := hm.of_prepare
      cases r with
      | ok => exact hprepares hp
      | error => cases hr
  · cases effect_of_step h hs with
    | move hne => exact absurd rfl hne
    | commitSkips hinactive =>
      rw [hinactive] at hact
      cases hact
    | commit _ hc =>
      cases hc with
      | done _ hp => exact hprepares hp

/-! ## Requests on statements -/

/-- The connection can read without waiting: it runs no transaction, or the gate has no other
writer. -/
def CanRead (sys : System Session) (id : ConnectionId) : Prop :=
  (sys.connection id).isActive = true →
    sys.coordinator.gate.writer = none ∨ sys.coordinator.gate.writer = some id

section Requests

variable {sys sys' : System Session} (h : sys.Coherent) {id : ConnectionId} {req : Request}

include h

/-- A request on statements that is not refused and need not wait is a step. -/
theorem step_of_onStatements (hon : req.onStatements = true)
    (hr : (sys.frame id).refusal? req = none)
    (hread : req.read?.isSome = true → sys.CanRead id) :
    Step sys (.request id req) (.ok (req.answerIn (sys.frame id).seen))
      (sys.setFrame id ((sys.frame id).perform req)) := by
  have hname : (sys.frame id).self.id = id := h.name id
  have hread' : req.read?.isSome = true → (sys.frame id).CanRead := by
    intro hsome hact
    rw [Frame.Admitted, hname]
    exact hread hsome hact
  have hreq : req ≠ .commit := by
    rintro rfl
    cases hon
  refine ⟨trivial, ?_⟩
  rw [Occurrence.act, handle_eq hreq, done?_on, Frame.statements_eq (h.frame id) hon hr hread']
  rfl

/-- A request on statements that answers, answers what it means on the statements that are seen. -/
theorem answer_of_step (hon : req.onStatements = true) {a : Answer}
    (hs : Step sys (.request id req) (.ok a) sys') : a = req.answerIn (sys.frame id).seen := by
  cases effect_of_step h hs with
  | move _ hm =>
    rcases hm.of_onStatements hon with ⟨e, -, herror, -⟩ | ⟨-, -, hok, -⟩
    · cases herror
    · exact Except.ok.inj hok
  | commitSkips => cases hon
  | commit => cases hon

/-- A read does not fail. -/
theorem ok_of_read (hon : req.onStatements = true) (hwrite : req.isWrite = false)
    {r : Except TxnError Answer} (hs : Step sys (.request id req) r sys') : ∃ a, r = .ok a := by
  cases effect_of_step h hs with
  | move _ hm =>
    rcases hm.of_onStatements hon with ⟨e, hrefused, -, -⟩ | ⟨-, -, hok, -⟩
    · rw [Frame.refusal?_of_read hon hwrite] at hrefused
      cases hrefused
    · exact ⟨_, hok⟩
  | commitFails => cases hon
  | commitSkips => exact ⟨_, rfl⟩
  | commit => exact ⟨_, rfl⟩

end Requests

end System

end QuadTxn
