import QuadTxn.Proofs.Coordination.Systems
import QuadTxn.Proofs.Gate.Schedules

/-!
# Histories of schedules

A history lists what has happened in a schedule, with what became of each call and with the systems
before and after (`System.Recorded`). Every schedule has one. What an episode means for the books
are the milestones that it reaches (`Episode.milestones`, `System.Recorded.reaches`); and a call
that waits is not refused when it is taken up, and reaches then what it was made for
(`System.OnCourse`).
-/

namespace QuadTxn

/-- The milestones that a request has reached by what it came to, made on a connection with or
without a running transaction. -/
def Request.milestones (req : Request) (active : Bool) : Progress Answer → List Milestone
  | .answered _ => req.ending active true
  | .failed e => if e.isRefusal then [] else req.ending active false
  | .waiting | .busy | .nothing => []

/-- Something that happens in a schedule. -/
inductive Turn where
  /-- a request is made on a connection -/
  | made (id : ConnectionId) (req : Request)
  /-- a request that waits on a connection is taken up, if the gate admits it -/
  | resumed (id : ConnectionId) (req : Request)
  /-- a connection is taken out -/
  | left (id : ConnectionId)
  /-- something that is no call on a connection -/
  | aside

/-- Whether it happens on a connection, or on none. -/
def Turn.On (id : ConnectionId) : Turn → Prop
  | .made j _ | .resumed j _ | .left j => j = id
  | .aside => True

theorem Turn.exists_on (t : Turn) : ∃ id, t.On id := by
  cases t with
  | made id | resumed id | left id => exact ⟨id, rfl⟩
  | aside => exact ⟨default, trivial⟩

/-- An episode of a schedule. -/
structure Episode (σ : Type) where
  /-- the system before -/
  before : System σ
  /-- what has happened -/
  turn : Turn
  /-- what became of it -/
  progress : Progress Answer
  /-- the system afterwards -/
  after : System σ

/-- The milestones that were reached. -/
def Episode.milestones {σ : Type} [Backend σ] (e : Episode σ) : List Milestone :=
  match e.turn with
  | .made id req =>
    let active := (e.before.connection id).isActive
    let opening := req.opening active
    opening ++ req.milestones (opening.foldl (fun _ m => m.runs) active) e.progress
  | .resumed id req => req.milestones (e.before.connection id).isActive e.progress
  | .left id => Request.rollback.ending (e.before.connection id).isActive true
  | .aside => []

namespace System

variable {σ : Type} [Backend σ]

/-- What has happened in a schedule. `asked` is what was last requested on each connection. -/
inductive Recorded :
    List (Episode σ) → (ConnectionId → Request) → Schedule (System σ) Answer → Prop where
  /-- nothing has happened -/
  | start (asked : ConnectionId → Request) : Recorded [] asked (.start .new)
  /-- a request is made on a connection on which no call waits -/
  | call {es : List (Episode σ)} {asked : ConnectionId → Request}
      {sch : Schedule (System σ) Answer} (id : ConnectionId) (req : Request) :
      Recorded es asked sch → sch.waiting.lookup id = none →
      Recorded (es ++ [⟨sch.state, .made id req, (sch.call id (handle id req)).1,
          (sch.call id (handle id req)).2.state⟩])
        (Function.update asked id req) (sch.call id (handle id req)).2
  /-- a request that waits is taken up, if the gate admits it -/
  | join {es : List (Episode σ)} {asked : ConnectionId → Request}
      {sch : Schedule (System σ) Answer} (id : ConnectionId) :
      Recorded es asked sch →
      Recorded (es ++ [⟨sch.state, .resumed id (asked id), (sch.join (·.coordinator.gate) id).1,
          (sch.join (·.coordinator.gate) id).2.state⟩])
        asked (sch.join (·.coordinator.gate) id).2
  /-- a connection is taken out on which no call waits -/
  | disconnect {es : List (Episode σ)} {asked : ConnectionId → Request}
      {sch : Schedule (System σ) Answer} {id : ConnectionId} {sys : System σ} :
      Recorded es asked sch → sch.waiting.lookup id = none →
      disconnect id sch.state = .ok ⟨⟩ sys →
      Recorded (es ++ [⟨sch.state, .left id, .answered .none, sys⟩]) asked { sch with state := sys }
  /-- something else happens to the system -/
  | aside {es : List (Episode σ)} {asked : ConnectionId → Request}
      {sch : Schedule (System σ) Answer} {sys : System σ} :
      Recorded es asked sch → Aside sch.state sys →
      Recorded (es ++ [⟨sch.state, .aside, .nothing, sys⟩]) asked { sch with state := sys }

theorem Recorded.scheduled {es : List (Episode σ)} {asked : ConnectionId → Request}
    {sch : Schedule (System σ) Answer} (h : Recorded es asked sch) : Scheduled sch := by
  induction h with
  | start => exact .start
  | call id req _ _ ih => exact ih.call id req
  | join id _ ih => exact ih.join id
  | disconnect _ hnone hd ih => exact ih.disconnect hnone hd
  | aside _ ha ih => exact ih.aside ha

/-- Every schedule has a history. -/
theorem Scheduled.recorded {sch : Schedule (System σ) Answer} (h : Scheduled sch) :
    ∃ es asked, Recorded es asked sch := by
  induction h with
  | start => exact ⟨[], fun _ => .begin, .start _⟩
  | @call sch id req _ ih =>
    obtain ⟨es, asked, hes⟩ := ih
    rcases hlookup : sch.waiting.lookup id with _ | w
    · exact ⟨_, _, hes.call id req hlookup⟩
    · -- a call on a connection that is busy is not made
      rw [Schedule.call, hlookup]
      exact ⟨es, asked, hes⟩
  | join id _ ih =>
    obtain ⟨es, asked, hes⟩ := ih
    exact ⟨_, _, hes.join id⟩
  | disconnect _ hnone hd ih =>
    obtain ⟨es, asked, hes⟩ := ih
    exact ⟨_, _, hes.disconnect hnone hd⟩
  | aside _ ha ih =>
    obtain ⟨es, asked, hes⟩ := ih
    exact ⟨_, _, hes.aside ha⟩

/-! ## Waiting calls -/

/-- A call that waits is not refused when it is taken up, and reaches then what its request is made
for. -/
def OnCourse (asked : ConnectionId → Request) (sch : Schedule (System σ) Answer) : Prop :=
  ∀ e ∈ sch.waiting, ∀ later, (course e.1).resumes sch.state later →
    (e.2.resume later).Along (course e.1)
      ((asked e.1).ending (sch.state.connection e.1).isActive) later

variable {asked : ConnectionId → Request} {sch : Schedule (System σ) Answer}

/-- A call goes on waiting while the transaction of its connection is left alone. -/
theorem OnCourse.passed (h : OnCourse asked sch) {id : ConnectionId}
    (hne : ∀ e ∈ sch.waiting, e.1 ≠ id) {ms : List Milestone} {sys : System σ}
    (hreaches : sch.state.Reaches id ms sys) : OnCourse asked { sch with state := sys } := by
  intro e he later ⟨hname, hactive⟩
  have hsame : (sys.connection e.1).isActive = (sch.state.connection e.1).isActive :=
    (hreaches.active e.1).trans (if_neg (hne e he))
  change (e.2.resume later).Along _ ((asked e.1).ending (sys.connection e.1).isActive) later
  rw [hsame]
  exact h e he later ⟨hname, hactive.trans hsame⟩

/-- What becomes of a call that reaches milestones. -/
theorem OnCourse.settle (h : OnCourse asked sch) {id : ConnectionId}
    (hne : ∀ e ∈ sch.waiting, e.1 ≠ id) {ms : List Milestone} {start : System σ}
    (hstart : sch.state.Reaches id ms start) {o : Outcome (System σ) Answer}
    (ho : o.Along (course id) ((asked id).ending (start.connection id).isActive) start) :
    OnCourse asked (sch.settle id o).2 ∧
      sch.state.Reaches id
        (ms ++ (asked id).milestones (start.connection id).isActive (sch.settle id o).1)
        (sch.settle id o).2.state := by
  cases o with
  | ok a sys =>
    have hreaches := hstart.trans ho
    exact ⟨h.passed hne hreaches, hreaches⟩
  | error e sys =>
    obtain ⟨he, hsys⟩ := ho
    have hreaches := hstart.trans hsys
    refine ⟨h.passed hne hreaches, ?_⟩
    change sch.state.Reaches id (ms ++ if e.isRefusal then [] else _) sys
    rwa [he]
  | waits mid mode resume =>
    obtain ⟨hmid, hresume⟩ := ho
    have hreaches : sch.state.Reaches id (ms ++ []) mid := hstart.trans hmid
    have hpassed := h.passed hne hreaches
    refine ⟨fun e he later hlater => ?_, hreaches⟩
    rcases List.mem_cons.mp he with rfl | he
    · have hsame : (mid.connection id).isActive = (start.connection id).isActive :=
        Reaches.active_self hmid
      change (resume later).Along _ ((asked id).ending (mid.connection id).isActive) later
      rw [hsame]
      exact hresume later hlater
    · exact hpassed e he later hlater

/-! ## What an episode means for the books -/

theorem Aside.reaches {sys sys' : System σ} (ha : Aside sys sys') (id : ConnectionId) :
    sys.Reaches id [] sys' := by
  have hactive : ∀ i, (sys'.connection i).isActive = (sys.connection i).isActive := by
    intro i
    cases ha with
    | @connect j level lockTimeout hget =>
      rw [connection_connect]
      split
      · -- a connection that is not there yet runs no transaction
        rename_i hi
        rw [hi, connection_of_get?_none hget]
        rfl
      · rfl
    | store => rfl
    | @session j f =>
      obtain ⟨session, hsession⟩ := connection_withSession sys j f i
      rw [hsession]
      rfl
    | watch => rfl
  have hbooks : sys.coordinator.SameBooks sys'.coordinator := by
    cases ha <;> exact ⟨rfl, rfl, rfl, rfl, rfl⟩
  exact .of_same hactive hbooks id

/-- A request that is made on a connection on which no call waits. -/
theorem OnCourse.call (h : OnCourse asked sch) {id : ConnectionId}
    (hname : (sch.state.connection id).id = id) (hnone : sch.waiting.lookup id = none)
    (req : Request) :
    OnCourse (Function.update asked id req) (sch.call id (handle id req)).2 ∧
      sch.state.Reaches id
        (Episode.milestones ⟨sch.state, .made id req, (sch.call id (handle id req)).1,
          (sch.call id (handle id req)).2.state⟩)
        (sch.call id (handle id req)).2.state := by
  have hne : ∀ e ∈ sch.waiting, e.1 ≠ id := fun _ he => ne_of_lookup_none hnone he
  have hasked : Function.update asked id req id = req := Function.update_self ..
  have h' : OnCourse (Function.update asked id req) sch := by
    intro e he
    rw [Function.update_of_ne (hne e he)]
    exact h e he
  rw [call_eq hnone]
  rcases handle_along hname req with ⟨e, he, hopening, heq⟩ | ⟨start, hstart, halong⟩
  · have hreaches : sch.state.Reaches id [] (sch.state.setFrame id (sch.state.frame id)) :=
      reaches_setFrame hname (.refl _)
    have hms : ∀ after, Episode.milestones ⟨sch.state, .made id req, .failed e, after⟩ = [] :=
      fun _ => by simp [Episode.milestones, Request.milestones, hopening, he]
    rw [heq]
    refine ⟨h'.passed hne hreaches, ?_⟩
    change sch.state.Reaches id (Episode.milestones ⟨sch.state, .made id req, .failed e, _⟩) _
    rw [hms]
    exact hreaches
  · have hsettle := h'.settle hne hstart (hasked.symm ▸ halong)
    rw [hasked, hstart.active_self] at hsettle
    exact hsettle

/-- A request that waits, and is taken up if the gate admits it. -/
theorem OnCourse.join (h : OnCourse asked sch) {id : ConnectionId}
    (hname : (sch.state.connection id).id = id) :
    OnCourse asked (sch.join (·.coordinator.gate) id).2 ∧
      sch.state.Reaches id
        ((asked id).milestones (sch.state.connection id).isActive
          (sch.join (·.coordinator.gate) id).1)
        (sch.join (·.coordinator.gate) id).2.state := by
  rcases hlookup : sch.waiting.lookup id with _ | w
  · rw [Schedule.join, hlookup]
    exact ⟨h, .refl id _⟩
  · rw [Schedule.join, hlookup]
    dsimp only
    split
    · have hothers : OnCourse asked { sch with waiting := sch.waiting.filter (·.1 ≠ id) } :=
        fun e he => h e (List.mem_filter.mp he).1
      have hresume := h _ (mem_of_lookup_some hlookup) sch.state ⟨hname, rfl⟩
      exact hothers.settle (fun e he => by simpa using (List.mem_filter.mp he).2)
        (.refl id sch.state) hresume
    · exact ⟨h, .refl id _⟩

/-- The milestones of each episode are entered into the books, and the calls that wait are on their
course. -/
theorem Recorded.reaches {es : List (Episode σ)} (h : Recorded es asked sch) :
    OnCourse asked sch ∧
      ∀ e ∈ es, ∀ id, e.turn.On id → e.before.Reaches id e.milestones e.after := by
  have hsnoc : ∀ {es : List (Episode σ)} {e : Episode σ} {P : Episode σ → Prop},
      (∀ e ∈ es, P e) → P e → ∀ e' ∈ es ++ [e], P e' := fun hes he =>
    List.forall_mem_append.mpr ⟨hes, List.forall_mem_singleton.mpr he⟩
  induction h with
  | start => exact ⟨fun _ he => (nomatch he), fun _ he => (nomatch he)⟩
  | call id req h hnone ih =>
    obtain ⟨hcourse, hreaches⟩ := ih.1.call (h.scheduled.inOrder.atRest.name id) hnone req
    refine ⟨hcourse, hsnoc ih.2 ?_⟩
    rintro j rfl
    exact hreaches
  | join id h ih =>
    obtain ⟨hcourse, hreaches⟩ := ih.1.join (h.scheduled.inOrder.atRest.name id)
    refine ⟨hcourse, hsnoc ih.2 ?_⟩
    rintro j rfl
    exact hreaches
  | @disconnect es asked sch id sys h hnone hd ih =>
    have hreaches := disconnect_reaches (h.scheduled.inOrder.atRest.name id) hd
    refine ⟨ih.1.passed (fun _ he => ne_of_lookup_none hnone he) hreaches, hsnoc ih.2 ?_⟩
    rintro j rfl
    exact hreaches
  | @aside es asked sch sys h ha ih =>
    refine ⟨?_, hsnoc ih.2 fun id _ => ha.reaches id⟩
    intro e he later ⟨hname, hactive⟩
    have hsame := (ha.reaches e.1).active_self
    change (e.2.resume later).Along _ ((asked e.1).ending (sys.connection e.1).isActive) later
    rw [hsame]
    exact ih.1 e he later ⟨hname, hactive.trans hsame⟩

end System

end QuadTxn
