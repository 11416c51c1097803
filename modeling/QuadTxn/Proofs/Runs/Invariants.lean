import QuadTxn.Proofs.Calls.Commits
import QuadTxn.Proofs.Runs.Passing

/-!
# What holds along a run

Native transactions stay in step with the store (`System.synced_step`), and the log of each
connection, which is read off the run, is the log of its transaction (`System.logged_step`), as
long as no statement is put into the store directly while a native transaction runs.
-/

namespace QuadTxn

/-- The log stays the log when at most the ledger of the connection changes, and nobody writes to
the store behind a native transaction. -/
theorem Frame.Logged.pass {st st' : Frame Session} {ws : List Write} (hl : st.Logged ws)
    {ledger : Ledger} (hself : st'.self = { st.self with ledger := ledger })
    (hkept : st.self.Engaged → st'.store.contents = st.store.contents) : st'.Logged ws := by
  by_cases hengaged : st.self.Engaged
  · refine hl.congr ?_ ?_ ?_ (congrArg Contents.statements (hkept hengaged))
    · rw [hself]
    · rw [hself]
    · rw [hself]
  · rw [Frame.Logged] at hl ⊢
    rw [hself]
    rcases hp : st.self.phase with _ | _ | _ | _
    · simpa only [hp] using hl
    · simpa only [hp] using hl
    · exact absurd (.inl hp) hengaged
    · exact absurd (.inr hp) hengaged

namespace System

/-! ## Native transactions stay in step -/

/-- Every native transaction is in step with the store. -/
def InStep (sys : System Session) : Prop := ∀ id, (sys.frame id).Synced

theorem InStep.new : (System.new : System Session).InStep :=
  fun _ => Frame.synced_of_none rfl

/-- A native transaction stays in step with the store. -/
theorem synced_step {sys sys' : System Session} (h : sys.Coherent) {o : Occurrence}
    {r : Except TxnError Answer} (he : Effect sys o r sys') (hcalm : Calm sys o)
    {id : ConnectionId} (hs : (sys.frame id).Synced) : (sys'.frame id).Synced := by
  have h' := h.effect he
  rcases hact : (sys'.connection id).isActive with _ | _
  · have hp : (sys'.connection id).phase = .idle := Connection.phase_of_inactive hact
    exact Frame.synced_of_none ((h'.frame id).idle hp).1
  · rcases active_step h he hact with ⟨req, -, hm⟩ | ⟨-, hpass⟩
    · exact hm.synced (h.frame id) hs
    · obtain ⟨ledger, hself⟩ := hpass.self
      have hself' : (sys'.frame id).self = { (sys.frame id).self with ledger := ledger } := hself
      by_cases hengaged : (sys.connection id).Engaged
      · exact hs.congr (by rw [hself']) (by rw [hself']) ((hpass.engaged h hengaged).2 hcalm)
      · refine Frame.synced_of_none ?_
        rw [hself']
        exact (h.frame id).session_none hengaged

theorem InStep.effect {sys sys' : System Session} (hs : sys.InStep) (h : sys.Coherent)
    {o : Occurrence} {r : Except TxnError Answer} (he : Effect sys o r sys') (hcalm : Calm sys o) :
    sys'.InStep :=
  fun id => synced_step h he hcalm (hs id)

theorem synced_run {start sys : System Session} (h : start.Coherent) {ts : List Transition}
    (hr : Run start ts sys) (hcalm : ∀ t ∈ ts, Calm t.before t.occurrence) {id : ConnectionId}
    (hs : (start.frame id).Synced) : (sys.frame id).Synced := by
  induction hr with
  | nil => exact hs
  | snoc hr hs' ih =>
    obtain ⟨hearly, hlast⟩ := Transition.forall_snoc hcalm
    have hmid := h.run hr
    exact synced_step hmid (effect_of_step hmid hs') hlast (ih hearly)

theorem InStep.run {start sys : System Session} (hs : start.InStep) (h : start.Coherent)
    {ts : List Transition} (hr : Run start ts sys)
    (hcalm : ∀ t ∈ ts, Calm t.before t.occurrence) : sys.InStep :=
  fun id => synced_run h hr hcalm (hs id)

/-- While the gate admits a connection to read, nobody else runs a native transaction. -/
theorem inStep_of_admitted {sys : System Session} (h : sys.Coherent) {id : ConnectionId}
    (hadmitted : (sys.frame id).Admitted) (hsynced : (sys.frame id).Synced) : sys.InStep := by
  intro j
  by_cases hj : j = id
  · exact hj ▸ hsynced
  · refine Frame.synced_of_none ((h.frame j).session_none fun hengaged => ?_)
    have hwriter := (writer_iff h j).mpr hengaged
    rw [Frame.Admitted, show (sys.frame id).self.id = id from h.name id] at hadmitted
    rcases hadmitted with hnone | hown
    · cases hwriter.symm.trans hnone
    · exact hj (Option.some.inj (hwriter.symm.trans hown))

/-! ## The log of a connection -/

end System

namespace Transition

/-- What a step makes of the log of a connection's transaction. A request of the connection adds the
single writes that it stands for, on the committed statements with the log replayed. -/
def extend (id : ConnectionId) (log : List Write) (t : Transition) : List Write :=
  if (t.after.connection id).isActive then
    match t.occurrence with
    | .request j req =>
      if j = id then
        log ++ req.logged (t.before.store.contents.statements.replay log) t.result
      else log
    | _ => log
  else []

section Extend

variable {id : ConnectionId} {log : List Write} {sys sys' : System Session} {o : Occurrence}
  {r : Except TxnError Answer}

theorem extend_inactive (hact : (sys'.connection id).isActive = false) :
    extend id log ⟨sys, o, r, sys'⟩ = [] := by
  rw [extend, if_neg]
  simpa using hact

theorem extend_own {req : Request} (hact : (sys'.connection id).isActive = true) :
    extend id log ⟨sys, .request id req, r, sys'⟩ =
      log ++ req.logged (sys.store.contents.statements.replay log) r := by
  rw [extend, if_pos hact]
  exact if_pos rfl

theorem extend_other (hact : (sys'.connection id).isActive = true)
    (hown : ∀ req, o ≠ .request id req) : extend id log ⟨sys, o, r, sys'⟩ = log := by
  rw [extend, if_pos hact]
  cases o with
  | request j req =>
    have hj : j ≠ id := fun heq => hown req (by rw [heq])
    exact if_neg hj
  | _ => rfl

end Extend

/-- The log of the transaction that a connection runs at the end of a run; empty if none runs. -/
def log (id : ConnectionId) (ts : List Transition) : List Write := ts.foldl (extend id) []

theorem log_snoc (id : ConnectionId) (ts : List Transition) (t : Transition) :
    log id (ts ++ [t]) = extend id (log id ts) t := by
  simp [log]

/-- Nothing is put into the store directly while a native transaction runs. -/
def Calm (t : Transition) : Prop := t.before.Calm t.occurrence

theorem calm_of_request {t : Transition} (h : ∃ id req, t.occurrence = .request id req) :
    t.Calm := by
  obtain ⟨id, req, heq⟩ := h
  rintro ⟨s, hs⟩
  rw [heq] at hs
  cases hs

end Transition

namespace System

/-- A step makes of the log of each connection the log that is then its own. -/
theorem logged_step {sys sys' : System Session} (h : sys.Coherent) {o : Occurrence}
    {r : Except TxnError Answer} (he : Effect sys o r sys') (hcalm : Calm sys o)
    {id : ConnectionId} {log : List Write} (hl : (sys.frame id).Logged log) :
    (sys'.frame id).Logged (Transition.extend id log ⟨sys, o, r, sys'⟩) := by
  rcases hact : (sys'.connection id).isActive with _ | _
  · -- with the transaction its log has ended
    rw [Transition.extend_inactive hact]
    exact (Frame.logged_idle (Connection.phase_of_inactive hact)).mpr rfl
  · rcases active_step h he hact with ⟨req, rfl, hm⟩ | ⟨hown, hpass⟩
    · have hseen : (sys.frame id).seen = sys.store.contents.statements.replay log :=
        hl.seen_eq (h.frame id)
      rw [Transition.extend_own hact, ← hseen]
      exact hm.logged (h.frame id) hact hl
    · rw [Transition.extend_other hact hown]
      obtain ⟨ledger, hself⟩ := hpass.self
      exact hl.pass hself fun hengaged => (hpass.engaged h hengaged).2 hcalm

theorem logged_run {start sys : System Session} (h : start.Coherent) {ts : List Transition}
    (hr : Run start ts sys) (hcalm : ∀ t ∈ ts, t.Calm) {id : ConnectionId} {log : List Write}
    (hl : (start.frame id).Logged log) :
    (sys.frame id).Logged (ts.foldl (Transition.extend id) log) := by
  induction hr with
  | nil => exact hl
  | @snoc ts sys sys' o r hr hs ih =>
    obtain ⟨hearly, hlast⟩ := Transition.forall_snoc hcalm
    have hmid := h.run hr
    rw [List.foldl_append]
    exact logged_step hmid (effect_of_step hmid hs) hlast (ih hearly)

/-- A transaction that has just begun has an empty log. -/
theorem logged_of_begin {sys sys' : System Session} (h : sys.Coherent) {id : ConnectionId}
    {a : Answer} (hs : Step sys (.request id .begin) (.ok a) sys') :
    (sys'.frame id).Logged [] ∧ ∀ {log : List Write}, (sys.frame id).Logged log →
      Transition.extend id log ⟨sys, .request id .begin, .ok a, sys'⟩ = [] := by
  obtain ⟨hp, hact, -⟩ := begun_of_step h hs
  have hidle : ∀ {log : List Write}, (sys.frame id).Logged log ↔ log = [] :=
    Frame.logged_idle hp
  have hfresh : ∀ {log : List Write}, (sys.frame id).Logged log →
      Transition.extend id log ⟨sys, .request id .begin, .ok a, sys'⟩ = [] := by
    intro log hl
    rw [hidle.mp hl, Transition.extend_own hact]
    rfl
  have hnone := hidle.mpr rfl
  refine ⟨?_, hfresh⟩
  rw [← hfresh hnone]
  exact logged_step h (effect_of_step h hs) (calm_request sys id _) hnone

/-- A commit replays the log on the committed statements. -/
theorem statements_of_commit {sys sys' : System Session} (h : sys.Coherent) {id : ConnectionId}
    (hs : (sys.frame id).Synced) {log : List Write} (hl : (sys.frame id).Logged log) {a : Answer}
    (hcommit : Step sys (.request id .commit) (.ok a) sys') :
    sys'.store.contents.statements = sys.store.contents.statements.replay log := by
  cases effect_of_step h hcommit with
  | move hreq => exact absurd rfl hreq
  | commitSkips hinactive =>
    obtain rfl := (Frame.logged_idle (Connection.phase_of_inactive hinactive)).mp hl
    rfl
  | commit _ hc => exact hc.statements_eq (h.frame id) hs hl

/-- What holds at the end of a run from an empty store. -/
structure Settled (ts : List Transition) (sys : System Session) : Prop where
  /-- the system is coherent -/
  coherent : sys.Coherent
  /-- every native transaction is in step with the store -/
  inStep : sys.InStep
  /-- every connection has its log -/
  logged : ∀ id, (sys.frame id).Logged (Transition.log id ts)

/-- What holds at the end of a run holds when it is extended. -/
theorem Settled.run {earlier ts : List Transition} {start sys : System Session}
    (h : Settled earlier start) (hr : Run start ts sys) (hcalm : ∀ t ∈ ts, t.Calm) :
    Settled (earlier ++ ts) sys := by
  induction hr with
  | nil => rwa [List.append_nil]
  | @snoc ts sys sys' o r _ hs ih =>
    obtain ⟨hearly, hlast⟩ := Transition.forall_snoc hcalm
    have hbefore := ih hearly
    have he := effect_of_step hbefore.coherent hs
    refine ⟨hbefore.coherent.effect he, hbefore.inStep.effect hbefore.coherent he hlast,
      fun id => ?_⟩
    rw [← List.append_assoc, Transition.log_snoc]
    exact logged_step hbefore.coherent he hlast (hbefore.logged id)

theorem settled_of_run {ts : List Transition} {sys : System Session} (hr : Run .new ts sys)
    (hcalm : ∀ t ∈ ts, t.Calm) : Settled ts sys := by
  have hnew : Settled [] .new := ⟨.new, .new, fun _ => rfl⟩
  exact hnew.run hr hcalm

end System

end QuadTxn
