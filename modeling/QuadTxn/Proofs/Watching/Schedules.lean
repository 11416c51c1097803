import QuadTxn.Proofs.Gate.Schedules
import QuadTxn.Proofs.Watching.Faults

/-!
# Schedules that take care of the store

Requests are made on any number of connections and taken up when the gate admits them, connections
come and go, statements are put into the store, and the store is made to fail (`System.Played`). In
each of these schedules every connection is fit, and a call that waits takes care when it is taken
up (`System.InCare`), whatever it is that is called fit (`Discipline`).
-/

namespace QuadTxn

/-- A sense in which connections are fit, such that every request takes care on a fit connection
and keeps it fit. -/
structure Discipline (σ : Type) [Backend σ] where
  /-- the connection is fit -/
  fit : Connection σ → Prop
  /-- a new connection is fit -/
  new (id : ConnectionId) (level : IsolationLevel) (lockTimeout : Option Nat) :
    fit { Connection.new id level with lockTimeout := lockTimeout }
  /-- a connection that notes a commit stays fit -/
  ledger {c : Connection σ} (ledger : Ledger) : fit c → fit { c with ledger := ledger }
  /-- every request takes care -/
  call {st : Frame σ} (req : Request) : fit st.self →
    (req.call st).Careful (Frame.careAs fit) req.Risks (fun _ _ => True) st

namespace System

variable {σ : Type}

section Care

variable [Backend σ]

/-- What a call on a connection may make of a system: the connection is fit, the other ones have
noted commits at most, and nothing has been armed. -/
structure FitsAs (fit : Connection σ → Prop) (id : ConnectionId) (sys sys' : System σ) : Prop where
  /-- the connection is fit -/
  fit : fit (sys'.connection id)
  /-- another connection has at most noted a commit -/
  others : ∀ j, j ≠ id → ∃ ledger, sys'.connection j = { sys.connection j with ledger := ledger }
  /-- what is armed was armed before -/
  armed : ∀ x, sys'.store.Armed x → sys.store.Armed x

/-- What is asked of calls on a connection, in a system. -/
def careAs (fit : Connection σ → Prop) (id : ConnectionId) : Care (System σ) where
  leaves := FitsAs fit id
  armed sys := sys.store.Armed
  waiting sys := (sys.connection id).isActive = true
  resumes mid later := fit (later.connection id) ∧
    (later.connection id).phase = (mid.connection id).phase ∧
    (later.connection id).isolation = (mid.connection id).isolation
  trans h₁₂ h₂₃ :=
    { fit := h₂₃.fit
      others := fun j hj => by
        obtain ⟨ledger₂, h₂⟩ := h₁₂.others j hj
        obtain ⟨ledger₃, h₃⟩ := h₂₃.others j hj
        exact ⟨ledger₃, by rw [h₃, h₂]⟩
      armed := fun x hx => h₁₂.armed x (h₂₃.armed x hx) }
  armed_before h hx := h.armed _ hx

/-- A call on a frame is as careful as a call on the system. -/
theorem on_careful {α : Type} {fit : Connection σ → Prop} {faults : StoreError → Prop}
    {Q : α → Frame σ → Prop} {call : Call σ α} {id : ConnectionId} {sys : System σ}
    (h : (call (sys.frame id)).Careful (Frame.careAs fit) faults Q (sys.frame id)) :
    (on id call sys).Careful (careAs fit id) faults (fun _ _ => True) sys := by
  refine h.zoom (fun sys mid hmid => ⟨?_, fun j hj => ?_, hmid.armed⟩) (fun _ _ hx => hx)
    (fun sys mid hmid => ?_) (fun sys mid later hlater => ?_) fun _ _ _ _ => trivial
  · rw [connection_setFrame_self]
    exact hmid.fit
  · exact ⟨_, connection_setFrame_ne _ _ hj⟩
  · change ((sys.setFrame id mid).connection id).isActive = true
    rw [connection_setFrame_self]
    exact hmid
  · obtain ⟨hfit, hphase, hisolation⟩ := hlater
    rw [connection_setFrame_self] at hphase hisolation
    exact ⟨hfit, hphase, hisolation⟩

/-- An announcement has commits noted. -/
theorem publish_fits (D : Discipline σ) {id : ConnectionId} {sys : System σ}
    (h : D.fit (sys.connection id)) (change : ChangeSet) :
    ∃ sys', publish change sys = .ok ⟨⟩ sys' ∧ FitsAs D.fit id sys sys' := by
  refine ⟨_, rfl, ?_, fun j _ => ?_, fun _ hx => hx⟩
  · obtain ⟨ledger, hconn⟩ := getD_foldl_changed change
      (sys.coordinator.audience sys.connections change.source) sys.connections id
      (.new id .snapshot)
    have hfit := D.ledger ledger h
    rw [connection, ← hconn] at hfit
    exact hfit
  · exact getD_foldl_changed change
      (sys.coordinator.audience sys.connections change.source) sys.connections j (.new j .snapshot)

/-- Every request takes care, a commit also when it is announced. -/
theorem handle_careful (D : Discipline σ) {id : ConnectionId} {sys : System σ}
    (h : D.fit (sys.connection id)) (req : Request) :
    (handle id req sys).Careful (careAs D.fit id) req.Risks (fun _ _ => True) sys := by
  by_cases hreq : req = .commit
  · subst hreq
    have hcommit := on_careful (D.call .commit h).of_bind_pure
    rw [handle, commit, Action.bind_apply, Action.bind_apply, Outcome.bind_assoc]
    refine hcommit.bind fun change? _ mid hmid _ => ?_
    have hnothing : FitsAs D.fit id mid mid := ⟨hmid.fit, fun j _ => ⟨_, rfl⟩, fun _ hx => hx⟩
    cases change? with
    | none => exact ⟨hnothing, trivial⟩
    | some change =>
      obtain ⟨sys', hpublish, hfits⟩ := publish_fits D hmid.fit change
      simp only [Action.bind_apply, hpublish]
      exact ⟨hfits, trivial⟩
  · rw [handle_eq hreq]
    exact on_careful (D.call req h)

end Care

/-! ## Schedules -/

variable [Backend σ]

/-- The schedules of requests on the connections of a system over a store that can be made to fail.
`asked` is the request that was last made on each connection. -/
inductive Played : (ConnectionId → Request) → Schedule (System σ) Answer → Prop where
  /-- nothing has happened -/
  | start (asked : ConnectionId → Request) : Played asked (.start .new)
  /-- a request is made on a connection on which no call waits -/
  | call {asked : ConnectionId → Request} {sch : Schedule (System σ) Answer} (id : ConnectionId)
      (req : Request) : Played asked sch → sch.waiting.lookup id = none →
      Played (Function.update asked id req) (sch.call id (handle id req)).2
  /-- a request that waits is taken up, if the gate admits it -/
  | join {asked : ConnectionId → Request} {sch : Schedule (System σ) Answer} (id : ConnectionId) :
      Played asked sch → Played asked (sch.join (·.coordinator.gate) id).2
  /-- a connection with a new name is added -/
  | connect {asked : ConnectionId → Request} {sch : Schedule (System σ) Answer} (id : ConnectionId)
      (level : IsolationLevel) (lockTimeout : Option Nat) : Played asked sch →
      sch.state.connections.get? id = none →
      Played asked { sch with
        state := { sch.state with
          connections := sch.state.connections.insert id
            { Connection.new id level with lockTimeout := lockTimeout } } }
  /-- a connection is taken out on which no call waits -/
  | disconnect {asked : ConnectionId → Request} {sch : Schedule (System σ) Answer}
      {id : ConnectionId} {sys : System σ} : Played asked sch → sch.waiting.lookup id = none →
      disconnect id sch.state = .ok ⟨⟩ sys → Played asked { sch with state := sys }
  /-- a statement, be it well formed or not, is put into the store -/
  | insert {asked : ConnectionId → Request} {sch : Schedule (System σ) Answer} (s : Statement) :
      Played asked sch →
      Played asked { sch with state := { sch.state with store := sch.state.store.insert s } }
  /-- the next native prepare is to fail -/
  | failPrepare {asked : ConnectionId → Request} {sch : Schedule (System σ) Answer} :
      Played asked sch → Played asked { sch with
        state := { sch.state with store := { sch.state.store with failPrepare := true } } }
  /-- the next native commit is to fail -/
  | failCommit {asked : ConnectionId → Request} {sch : Schedule (System σ) Answer} :
      Played asked sch → Played asked { sch with
        state := { sch.state with store := { sch.state.store with failCommit := true } } }
  /-- a commit listener is added -/
  | watch {asked : ConnectionId → Request} {sch : Schedule (System σ) Answer} :
      Played asked sch → Played asked { sch with
        state := { sch.state with coordinator := sch.state.coordinator.watch } }

/-- A request on a connection waits, and takes care when it is taken up. -/
structure Poised (D : Discipline σ) (id : ConnectionId) (req : Request) (sys : System σ)
    (w : Waiting (System σ) Answer) : Prop where
  /-- a transaction of the connection runs -/
  active : (sys.connection id).isActive = true
  /-- the rest of the call takes care -/
  resume : ∀ later, (careAs D.fit id).resumes sys later →
    (w.resume later).Careful (careAs D.fit id) req.Risks (fun _ _ => True) later

/-- All connections are fit, and the calls that wait take care when they are taken up. -/
structure InCare (D : Discipline σ) (asked : ConnectionId → Request)
    (sch : Schedule (System σ) Answer) : Prop where
  /-- all connections are fit -/
  fit : ∀ id, D.fit (sch.state.connection id)
  /-- the calls that wait take care -/
  poised : ∀ e ∈ sch.waiting, Poised D e.1 (asked e.1) sch.state e.2

variable {D : Discipline σ} {asked : ConnectionId → Request} {sch : Schedule (System σ) Answer}

/-- A call goes on waiting while nothing happens to its connection but that commits are noted. -/
theorem Poised.passed {id : ConnectionId} {req : Request} {sys sys' : System σ}
    {w : Waiting (System σ) Answer} (h : Poised D id req sys w) {ledger : Ledger}
    (hconn : sys'.connection id = { sys.connection id with ledger := ledger }) :
    Poised D id req sys' w where
  active := by
    rw [hconn]
    exact h.active
  resume := fun later ⟨hfit, hphase, hisolation⟩ => by
    rw [hconn] at hphase hisolation
    exact h.resume later ⟨hfit, hphase, hisolation⟩

/-- Where a call on one connection leaves a system. -/
theorem InCare.passed (h : InCare D asked sch) {id : ConnectionId}
    (hne : ∀ e ∈ sch.waiting, e.1 ≠ id) {sys : System σ} (hfits : FitsAs D.fit id sch.state sys) :
    InCare D asked { sch with state := sys } where
  fit := fun j => by
    by_cases hj : j = id
    · rw [hj]
      exact hfits.fit
    · obtain ⟨ledger, hconn⟩ := hfits.others j hj
      rw [hconn]
      exact D.ledger ledger (h.fit j)
  poised := fun e he => by
    obtain ⟨ledger, hconn⟩ := hfits.others e.1 (hne e he)
    exact (h.poised e he).passed hconn

/-- What happens to the store or to the coordinator alone. -/
theorem InCare.aside (h : InCare D asked sch) {sys : System σ}
    (hconn : ∀ j, sys.connection j = sch.state.connection j) :
    InCare D asked { sch with state := sys } where
  fit := fun j => by
    rw [hconn]
    exact h.fit j
  poised := fun e he => (h.poised e he).passed (hconn e.1)

theorem InCare.settle (h : InCare D asked sch) {id : ConnectionId}
    (hne : ∀ e ∈ sch.waiting, e.1 ≠ id) {o : Outcome (System σ) Answer}
    (ho : o.Careful (careAs D.fit id) (asked id).Risks (fun _ _ => True) sch.state) :
    InCare D asked (sch.settle id o).2 := by
  cases o with
  | ok a sys => exact h.passed hne ho.1
  | error e sys => exact h.passed hne ho.1
  | waits mid mode resume =>
    obtain ⟨hleaves, hwaiting, hresume⟩ := ho
    have hpassed := h.passed hne hleaves
    refine ⟨hpassed.fit, fun e he => ?_⟩
    rcases List.mem_cons.mp he with rfl | he
    · exact ⟨hwaiting, hresume⟩
    · exact hpassed.poised e he

omit [Backend σ] in
/-- A failure of the store that a call reports is one that it risks, and was armed. -/
theorem settle_failed {id : ConnectionId} {o : Outcome (System σ) Answer}
    {faults : StoreError → Prop} {C : Care (System σ)} {Q : Answer → System σ → Prop}
    {sys : System σ}
    (ho : o.Careful C faults Q sys) {x : StoreError}
    (hfailed : (sch.settle id o).1 = .failed (.storage x)) : faults x ∧ C.armed sys x := by
  cases o with
  | ok a sys => cases hfailed
  | error e sys =>
    obtain rfl : e = .storage x := Progress.failed.inj hfailed
    exact ho.2 x rfl
  | waits mid mode resume => cases hfailed

section InCare

variable (h : InCare D asked sch)

include h

theorem InCare.call {id : ConnectionId} (hnone : sch.waiting.lookup id = none) (req : Request) :
    InCare D (Function.update asked id req) (sch.call id (handle id req)).2 := by
  have hne : ∀ e ∈ sch.waiting, e.1 ≠ id := fun _ he => ne_of_lookup_none hnone he
  have h' : InCare D (Function.update asked id req) sch := by
    refine ⟨h.fit, fun e he => ?_⟩
    rw [Function.update_of_ne (hne e he)]
    exact h.poised e he
  rw [call_eq hnone]
  refine h'.settle hne ?_
  rw [Function.update_self]
  exact handle_careful D (h.fit id) req

theorem InCare.resume {id : ConnectionId} {w : Waiting (System σ) Answer}
    (hw : (id, w) ∈ sch.waiting) : (w.resume sch.state).Careful (careAs D.fit id)
      (asked id).Risks (fun _ _ => True) sch.state :=
  (h.poised _ hw).resume sch.state ⟨h.fit id, rfl, rfl⟩

theorem InCare.join (id : ConnectionId) : InCare D asked (sch.join (·.coordinator.gate) id).2 := by
  rcases hlookup : sch.waiting.lookup id with _ | w
  · rwa [Schedule.join, hlookup]
  · rw [Schedule.join, hlookup]
    dsimp only
    split
    · have hothers : InCare D asked
          { sch with waiting := sch.waiting.filter (·.1 ≠ id) } :=
        ⟨h.fit, fun e he => h.poised e (List.mem_filter.mp he).1⟩
      refine hothers.settle (fun e he => ?_) (h.resume (mem_of_lookup_some hlookup))
      simpa using (List.mem_filter.mp he).2
    · exact h

theorem InCare.connect {id : ConnectionId} (hget : sch.state.connections.get? id = none)
    (level : IsolationLevel) (lockTimeout : Option Nat) :
    InCare D asked { sch with
      state := { sch.state with
        connections := sch.state.connections.insert id
          { Connection.new id level with lockTimeout := lockTimeout } } } := by
  have hnew := connection_connect sch.state id level lockTimeout
  have hne : ∀ e ∈ sch.waiting, e.1 ≠ id := by
    -- a connection that is not there yet runs no transaction
    intro e he heq
    have hactive := (h.poised e he).active
    rw [heq, connection_of_get?_none hget] at hactive
    cases hactive
  refine h.passed hne ⟨?_, fun j hj => ?_, fun _ hx => hx⟩
  · rw [hnew, if_pos rfl]
    exact D.new id level lockTimeout
  · exact ⟨_, (hnew j).trans (if_neg hj)⟩

theorem InCare.disconnect {id : ConnectionId} (hnone : sch.waiting.lookup id = none)
    {sys : System σ} (hd : System.disconnect id sch.state = .ok ⟨⟩ sys) :
    InCare D asked { sch with state := sys } := by
  have hcareful : (rollback id sch.state).Careful (careAs D.fit id) Request.rollback.Risks
      (fun _ _ => True) sch.state := by
    have hhandle := handle_careful D (h.fit id) .rollback
    exact hhandle.of_bind_pure
  have herased : ∀ mid : System σ, FitsAs D.fit id sch.state mid →
      FitsAs D.fit id sch.state { mid with connections := mid.connections.erase id } := by
    intro mid hmid
    refine ⟨?_, fun j hj => ?_, hmid.armed⟩
    · rw [connection, SortedMap.get?_erase, if_pos rfl]
      exact D.new id .snapshot none
    · obtain ⟨ledger, hconn⟩ := hmid.others j hj
      refine ⟨ledger, ?_⟩
      rw [connection, SortedMap.get?_erase, if_neg hj]
      exact hconn
  have hne : ∀ e ∈ sch.waiting, e.1 ≠ id := fun _ he => ne_of_lookup_none hnone he
  rw [System.disconnect, Action.bind_apply, Action.attempt_apply] at hd
  rcases ho : rollback id sch.state with ⟨a, mid⟩ | ⟨e, mid⟩ | _
  · rw [ho] at hd hcareful
    cases hd
    exact h.passed hne (herased mid hcareful.1)
  · rw [ho] at hd hcareful
    cases hd
    exact h.passed hne (herased mid hcareful.1)
  · rw [ho] at hd
    cases hd

end InCare

theorem Played.inCare (D : Discipline σ) (h : Played asked sch) : InCare D asked sch := by
  induction h with
  | start asked =>
    exact ⟨fun id => D.new id .snapshot none, fun _ he => nomatch he⟩
  | call id req _ hnone ih => exact ih.call hnone req
  | join id _ ih => exact ih.join id
  | connect id level lockTimeout _ hget ih => exact ih.connect hget level lockTimeout
  | disconnect _ hnone hd ih => exact ih.disconnect hnone hd
  | insert s _ ih => exact ih.aside fun _ => rfl
  | failPrepare _ ih => exact ih.aside fun _ => rfl
  | failCommit _ ih => exact ih.aside fun _ => rfl
  | watch _ ih => exact ih.aside fun _ => rfl

end System

end QuadTxn
