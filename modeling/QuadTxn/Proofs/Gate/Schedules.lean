import QuadTxn.Proofs.Gate.Systems
import QuadTxn.Txn.Schedule

/-!
# Schedules of requests

Requests are made on any number of connections, one after the other, and those that wait for the
gate are taken up when the gate admits them; in between connections come and go, the store is
changed directly and sessions are made to fail (`System.Scheduled`). A whole transaction is
scheduled as the requests that it is made of.

In every schedule the system is at rest, and a call that waits belongs to a transaction that stages
its writes and has not been touched since (`System.InOrder`).
-/

namespace QuadTxn

namespace Progress

variable {α : Type}

/-- Whether the call was refused the gate: it waits, or it was not granted the gate in time. -/
def refused : Progress α → Bool
  | .waiting => true
  | .failed e => e.isLockTimeout
  | _ => false

/-- Whether the call came to an end for which the gate was no hindrance. -/
def ended : Progress α → Bool
  | .answered _ => true
  | .failed e => !e.isLockTimeout
  | _ => false

theorem refused_of_ended {p : Progress α} (h : p.ended = true) : p.refused = false := by
  cases p with
  | failed e => simpa [ended, refused] using h
  | waiting => cases h
  | _ => rfl

end Progress

namespace System

variable {σ : Type} [Backend σ]

/-- What happens to a system apart from calls on its connections. -/
inductive Aside (sys : System σ) : System σ → Prop where
  /-- a connection with a new name is added -/
  | connect {id : ConnectionId} {level : IsolationLevel} {lockTimeout : Option Nat} :
      sys.connections.get? id = none →
      Aside sys { sys with connections :=
        sys.connections.insert id { Connection.new id level with lockTimeout := lockTimeout } }
  /-- the store is changed directly, or is made to fail -/
  | store {f : Store → Store} : Aside sys { sys with store := f sys.store }
  /-- a session is made to fail -/
  | session {id : ConnectionId} {f : σ → σ} :
      Aside sys { sys with connections :=
        sys.connections.modify id fun c => { c with session := f c.session } }
  /-- a commit listener is added -/
  | watch : Aside sys { sys with coordinator := sys.coordinator.watch }

/-- What is done to a session changes nothing else of its connection. -/
theorem connection_withSession (sys : System σ) (id : ConnectionId) (f : σ → σ)
    (j : ConnectionId) :
    ∃ session,
      connection
        { sys with connections :=
          sys.connections.modify id fun c => { c with session := f c.session } } j =
        { sys.connection j with session := session } := by
  rw [connection, SortedMap.get?_modify]
  split
  · rw [connection]
    rcases sys.connections.get? j with _ | c
    · exact ⟨_, rfl⟩
    · exact ⟨_, rfl⟩
  · exact ⟨_, rfl⟩

/-- The schedules of requests on the connections of a system. -/
inductive Scheduled : Schedule (System σ) Answer → Prop where
  /-- nothing has happened -/
  | start : Scheduled (.start .new)
  /-- a request is made on a connection -/
  | call {sch : Schedule (System σ) Answer} (id : ConnectionId) (req : Request) :
      Scheduled sch → Scheduled (sch.call id (handle id req)).2
  /-- a request that waits is taken up, if the gate admits it -/
  | join {sch : Schedule (System σ) Answer} (id : ConnectionId) :
      Scheduled sch → Scheduled (sch.join (·.coordinator.gate) id).2
  /-- a connection is taken out on which no call waits -/
  | disconnect {sch : Schedule (System σ) Answer} {id : ConnectionId} {sys : System σ} :
      Scheduled sch → sch.waiting.lookup id = none → disconnect id sch.state = .ok ⟨⟩ sys →
      Scheduled { sch with state := sys }
  /-- something else happens to the system -/
  | aside {sch : Schedule (System σ) Answer} {sys : System σ} :
      Scheduled sch → Aside sch.state sys → Scheduled { sch with state := sys }

/-- A call on a connection waits for all that it still needs. -/
structure Pending (id : ConnectionId) (sys : System σ) (w : Waiting (System σ) Answer) : Prop where
  /-- the transaction stages its writes -/
  phase : (sys.connection id).phase = .staging
  /-- the rest of the call asks for nothing, and does its part when it is taken up -/
  resume : ∀ later, (w.resume later).Ends fun _ sys' =>
    Resumes id sys w.mode later → later.Leaves id sys'

/-- The system is at rest, and the calls that wait are pending. -/
structure InOrder (sch : Schedule (System σ) Answer) : Prop where
  /-- the system is at rest -/
  atRest : sch.state.AtRest
  /-- the calls that wait are pending -/
  pending : ∀ e ∈ sch.waiting, Pending e.1 sch.state e.2

/-- A call goes on waiting while its connection is left alone. -/
theorem Pending.passed {id : ConnectionId} {sys sys' : System σ} {w : Waiting (System σ) Answer}
    (h : Pending id sys w) (hphase : (sys'.connection id).phase = (sys.connection id).phase)
    (hisolation : (sys'.connection id).isolation = (sys.connection id).isolation) :
    Pending id sys' w where
  phase := hphase.trans h.phase
  resume := fun later => (h.resume later).mono fun _ _ himp hres =>
    himp ⟨hres.atRest, hres.phase, hres.isolation.trans hisolation, hres.admits⟩

/-! ## What a call comes to -/

section Settle

variable {id : ConnectionId} {sch : Schedule (System σ) Answer} {o : Outcome (System σ) Answer}

omit [Backend σ] in
theorem ne_of_lookup_none (h : sch.waiting.lookup id = none)
    {e : ConnectionId × Waiting (System σ) Answer} (he : e ∈ sch.waiting) : e.1 ≠ id := by
  have hne := List.lookup_eq_none_iff.mp h e he
  exact fun heq => by simp [heq] at hne

omit [Backend σ] in
theorem mem_of_lookup_some {w : Waiting (System σ) Answer} (h : sch.waiting.lookup id = some w) :
    (id, w) ∈ sch.waiting := by
  obtain ⟨l₁, l₂, heq, -⟩ := List.lookup_eq_some_iff.mp h
  rw [heq]
  exact List.mem_append_right _ List.mem_cons_self

theorem settle_inOrder (hpending : ∀ e ∈ sch.waiting, e.1 ≠ id ∧ Pending e.1 sch.state e.2)
    (ho : o.Fair (conduct id) sch.state) : InOrder (sch.settle id o).2 := by
  have hpassed : ∀ {sys'}, sch.state.Leaves id sys' →
      ∀ e ∈ sch.waiting, Pending e.1 sys' e.2 := by
    intro sys' hleaves e he
    obtain ⟨hne, hpending⟩ := hpending e he
    exact hpending.passed (hleaves.phase _ hne) (hleaves.isolation _ hne)
  cases o with
  | ok a sys' => exact ⟨ho.atRest, hpassed ho⟩
  | error e sys' => exact ⟨ho.1.atRest, hpassed ho.1⟩
  | waits sys' mode resume =>
    obtain ⟨-, hphase, hleaves, hresume⟩ := ho
    refine ⟨hleaves.atRest, fun e he => ?_⟩
    rcases List.mem_cons.mp he with rfl | he
    · exact ⟨hphase, hresume⟩
    · exact hpassed hleaves e he

/-- A call is refused the gate only while another connection has it. -/
theorem settle_contested (ho : o.Fair (conduct id) sch.state)
    (hr : (sch.settle id o).1.refused = true) :
    Contested id sch.state ∧ Contested id (sch.settle id o).2.state := by
  have hstill : ∀ {sys'}, sch.state.Leaves id sys' → Contested id sch.state →
      Contested id sys' := fun hleaves ⟨j, hj, hw⟩ => ⟨j, hj, (hleaves.others j hj).mpr hw⟩
  cases o with
  | ok a sys' => cases hr
  | error e sys' => exact ⟨ho.2 hr, hstill ho.1 (ho.2 hr)⟩
  | waits sys' mode resume => exact ⟨ho.1, hstill ho.2.2.1 ho.1⟩

omit [Backend σ] in
theorem settle_ended {P : System σ → Prop} (ho : o.Ends fun _ sys' => P sys') :
    (sch.settle id o).1.ended = true ∧ P (sch.settle id o).2.state := by
  cases o with
  | ok a sys' => exact ⟨rfl, ho⟩
  | error e sys' => exact ⟨by simp [Schedule.settle, Progress.ended, ho.1], ho.2⟩
  | waits sys' mode resume => exact ho.elim

end Settle

/-! ## What happens to a schedule -/

section InOrder

variable {sch : Schedule (System σ) Answer} (h : InOrder sch)

include h

omit h in
/-- A call on a connection on which none waits. -/
theorem call_eq {id : ConnectionId} (hnone : sch.waiting.lookup id = none)
    (req : Request) :
    sch.call id (handle id req) = sch.settle id (handle id req sch.state) := by
  rw [Schedule.call, hnone]

/-- A call that waits is one of a connection that does not have the gate. -/
theorem InOrder.writer_ne {id : ConnectionId} {w : Waiting (System σ) Answer}
    (hw : (id, w) ∈ sch.waiting) : sch.state.coordinator.gate.writer ≠ some id := by
  rw [Ne, h.atRest.writer, Connection.Engaged, (h.pending _ hw).phase]
  simp

theorem InOrder.call (id : ConnectionId) (req : Request) :
    InOrder (sch.call id (handle id req)).2 := by
  rcases hlookup : sch.waiting.lookup id with _ | w
  · rw [call_eq hlookup]
    exact settle_inOrder (fun e he => ⟨ne_of_lookup_none hlookup he, h.pending e he⟩)
      (handle_fair h.atRest id req)
  · rwa [Schedule.call, hlookup]

/-- A call that is taken up follows the conduct of its connection, and comes to an end. -/
theorem InOrder.resume_ends {id : ConnectionId} {w : Waiting (System σ) Answer}
    (hw : (id, w) ∈ sch.waiting) (hadmits : sch.state.coordinator.gate.admits w.mode = true) :
    (w.resume sch.state).Ends fun _ sys' => sch.state.Leaves id sys' := by
  have hpending := h.pending _ hw
  exact (hpending.resume sch.state).mono fun _ _ himp =>
    himp ⟨h.atRest, hpending.phase, rfl, hadmits⟩

theorem InOrder.join (id : ConnectionId) :
    InOrder (sch.join (·.coordinator.gate) id).2 := by
  rcases hlookup : sch.waiting.lookup id with _ | w
  · rwa [Schedule.join, hlookup]
  · rw [Schedule.join, hlookup]
    dsimp only
    split
    · rename_i hadmits
      refine settle_inOrder (fun e he => ?_)
        (Outcome.Ends.fair (h.resume_ends (mem_of_lookup_some hlookup) hadmits))
      obtain ⟨he, hne⟩ := List.mem_filter.mp he
      exact ⟨by simpa using hne, h.pending e he⟩
    · exact h

/-- What happens to the connections on which no call waits. -/
theorem InOrder.passed {id : ConnectionId} (hne : ∀ e ∈ sch.waiting, e.1 ≠ id) {sys : System σ}
    (hleaves : sch.state.Leaves id sys) : InOrder { sch with state := sys } where
  atRest := hleaves.atRest
  pending := fun e he =>
    (h.pending e he).passed (hleaves.phase _ (hne e he)) (hleaves.isolation _ (hne e he))

theorem InOrder.stays {sys : System σ} (hs : sch.state.Stays sys) :
    InOrder { sch with state := sys } where
  atRest := (h.atRest.stays hs "").atRest
  pending := fun e he => (h.pending e he).passed (hs e.1).phase (hs e.1).isolation

theorem InOrder.aside {sys : System σ} (ha : Aside sch.state sys) :
    InOrder { sch with state := sys } := by
  cases ha with
  | @connect id level lockTimeout hget =>
    -- a connection that is not there yet counts as an idle one
    have hold : sch.state.connection id = .new id .snapshot := connection_of_get?_none hget
    have hnew := connection_connect sch.state id level lockTimeout
    refine h.passed (fun e he heq => ?_) (h.atRest.replace id ?_ ?_ ?_ ?_ rfl)
    · have hphase := (h.pending e he).phase
      rw [heq, hold] at hphase
      cases hphase
    · rw [hold]
      rfl
    · rw [hnew, if_pos rfl]
      rfl
    · rw [hnew, if_pos rfl]
      rfl
    · intro j hj
      rw [hnew, if_neg hj]
  | store => exact h.stays fun _ => ⟨rfl, rfl, rfl, rfl⟩
  | @session id f =>
    refine h.stays fun j => ?_
    obtain ⟨session, hsession⟩ := connection_withSession sch.state id f j
    have hid := congrArg Connection.id hsession
    have hphase := congrArg Connection.phase hsession
    have hisolation := congrArg Connection.isolation hsession
    exact ⟨rfl, hid, hphase, hisolation⟩
  | watch => exact h.stays fun _ => ⟨rfl, rfl, rfl, rfl⟩

end InOrder

/-- Requests, made one after the other. -/
def calls (reqs : List (ConnectionId × Request)) : Schedule (System σ) Answer :=
  reqs.foldl (fun sch e => (sch.call e.1 (handle e.1 e.2)).2) (.start .new)

theorem Scheduled.calls (reqs : List (ConnectionId × Request)) :
    Scheduled (calls reqs : Schedule (System σ) Answer) := by
  -- the last request comes after all others
  induction reqs using List.reverseRecOn with
  | nil => exact .start
  | append_singleton reqs e ih =>
    rw [System.calls, List.foldl_append]
    exact ih.call e.1 e.2

theorem Scheduled.inOrder {sch : Schedule (System σ) Answer} (h : Scheduled sch) :
    InOrder sch := by
  induction h with
  | start => exact ⟨.new, fun _ he => nomatch he⟩
  | call id req _ ih => exact ih.call id req
  | join id _ ih => exact ih.join id
  | disconnect _ hnone hdisconnect ih =>
    obtain ⟨sys', heq, hleaves⟩ := disconnect_leaves ih.atRest
    rw [hdisconnect] at heq
    cases heq
    exact ih.passed (fun _ he => ne_of_lookup_none hnone he) hleaves
  | aside _ ha ih => exact ih.aside ha

end System

end QuadTxn
