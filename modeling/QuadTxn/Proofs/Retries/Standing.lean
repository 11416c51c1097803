import QuadTxn.Proofs.Coordination.Counts
import QuadTxn.Proofs.Guarantees.Bindings
import QuadTxn.Proofs.Runs.Invariants
import QuadTxn.Proofs.Runs.Publication

/-!
# Between the calls of a connection

Between the calls of a connection others make theirs. What the transaction of the connection has
written so far is not touched by that (`System.Standing.others`), and its own calls add to it
(`System.Standing.own`).
-/

namespace QuadTxn

/-- It does not happen to the given connection. -/
def Occurrence.Spares (id : ConnectionId) : Occurrence → Prop
  | .request j _ | .connect j _ _ | .disconnect j => j ≠ id
  | _ => True

/-- Whether a step was a request of the given connection. -/
def Transition.isOf (id : ConnectionId) (t : Transition) : Bool :=
  match t.occurrence with
  | .request j _ => j = id
  | _ => false

theorem Transition.isOf_of_spares {id : ConnectionId} {t : Transition}
    (h : t.occurrence.Spares id) : t.isOf id = false := by
  rw [isOf]
  cases ho : t.occurrence with
  | request j req =>
    rw [ho] at h
    exact decide_eq_false h
  | _ => rfl

namespace System

/-- What holds of a system between the calls of a connection, whose transaction has made the given
writes of statements and of namespace bindings. -/
structure Standing (id : ConnectionId) (log ws : List Write) (sys : System Session) : Prop where
  /-- the system is coherent -/
  coherent : sys.Coherent
  /-- every native transaction is in step with the store -/
  inStep : sys.InStep
  /-- the writes of statements -/
  logged : (sys.frame id).Logged log
  /-- the writes of namespace bindings -/
  binds : (sys.frame id).Binds ws

section Standing

variable {id : ConnectionId} {log ws : List Write} {sys sys' : System Session}

/-- A transaction that does not run has written nothing. -/
theorem Standing.of_inactive (h : Standing id log ws sys)
    (hact : (sys.connection id).isActive = false) : log = [] ∧ ws = [] := by
  have hp : (sys.frame id).self.phase = .idle := Connection.phase_of_inactive hact
  exact ⟨(Frame.logged_idle hp).mp h.logged, (Frame.binds_idle hp).mp h.binds⟩

theorem Standing.ended (h : Standing id log ws sys)
    (hact : (sys.connection id).isActive = false) : Standing id [] [] sys := by
  obtain ⟨rfl, rfl⟩ := h.of_inactive hact
  exact h

/-- Any step. -/
theorem Standing.step (h : Standing id log ws sys) {o : Occurrence} {r : Except TxnError Answer}
    (hs : Step sys o r sys') (hcalm : Calm sys o) :
    Standing id (Transition.extend id log ⟨sys, o, r, sys'⟩)
      (Transition.rebind id ws ⟨sys, o, r, sys'⟩) sys' := by
  have he := effect_of_step h.coherent hs
  exact ⟨h.coherent.effect he, h.inStep.effect h.coherent he hcalm,
    logged_step h.coherent he hcalm h.logged, binds_step h.coherent he h.binds⟩

/-- A step of others. -/
theorem Standing.spared (h : Standing id log ws sys) {o : Occurrence}
    {r : Except TxnError Answer} (hs : Step sys o r sys') (hcalm : Calm sys o)
    (hspares : o.Spares id) :
    Standing id log ws sys' ∧ (sys'.connection id).isActive = (sys.connection id).isActive := by
  have hown : ∀ req, o ≠ .request id req := by
    rintro req rfl
    exact hspares rfl
  have hpass : Passes sys id o sys' := by
    refine passes h.coherent (effect_of_step h.coherent hs) hown ?_ ?_
    · rintro level t rfl
      exact hspares rfl
    · rintro rfl
      exact hspares rfl
  have hsame : (sys'.connection id).isActive = (sys.connection id).isActive := by
    obtain ⟨ledger, hself⟩ := hpass.self
    rw [hself]
    rfl
  have hstep := h.step hs hcalm
  refine ⟨?_, hsame⟩
  rcases hact : (sys'.connection id).isActive with _ | _
  · obtain ⟨rfl, rfl⟩ := h.of_inactive (hsame.symm.trans hact)
    rwa [Transition.extend_inactive hact, Transition.rebind_inactive hact] at hstep
  · rwa [Transition.extend_other hact hown, Transition.rebind_other hact hown] at hstep

/-- Any number of steps of others. -/
theorem Standing.others (h : Standing id log ws sys) {ts : List Transition} (hr : Run sys ts sys')
    (hts : ∀ t ∈ ts, t.Calm ∧ t.occurrence.Spares id) :
    Standing id log ws sys' ∧ (sys'.connection id).isActive = (sys.connection id).isActive := by
  induction hr with
  | nil => exact ⟨h, rfl⟩
  | snoc hr hs ih =>
    obtain ⟨hearly, hcalm, hspares⟩ := Transition.forall_snoc hts
    obtain ⟨hmid, hsame⟩ := ih hearly
    obtain ⟨hlast, hsame'⟩ := hmid.spared hs hcalm hspares
    exact ⟨hlast, hsame'.trans hsame⟩

/-- A request of the connection itself. -/
theorem Standing.own (h : Standing id log ws sys) {req : Request} {r : Except TxnError Answer}
    (hs : Step sys (.request id req) r sys') :
    Standing id (Transition.extend id log ⟨sys, .request id req, r, sys'⟩)
      (Transition.rebind id ws ⟨sys, .request id req, r, sys'⟩) sys' :=
  h.step hs (calm_request sys id req)

end Standing

end System

end QuadTxn
