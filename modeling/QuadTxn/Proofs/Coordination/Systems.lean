import QuadTxn.Proofs.Coordination.Requests
import QuadTxn.Proofs.Gate.Systems

/-!
# Systems and their milestones

What a request enters into the books of the coordinator it enters for its own connection; the
transactions of the others run on or do not run as before (`System.Reaches`, `System.handle_along`).
Announcing a commit enters nothing.
-/

namespace QuadTxn

namespace System

variable {σ : Type} [Backend σ]

/-- The transaction of a connection reaches milestones; no other transaction begins or ends. -/
structure Reaches (id : ConnectionId) (ms : List Milestone) (sys sys' : System σ) : Prop where
  /-- the last milestone says whether a transaction of the connection runs -/
  active : ∀ j, (sys'.connection j).isActive =
    if j = id then ms.foldl (fun _ m => m.runs) (sys.connection id).isActive
    else (sys.connection j).isActive
  /-- the milestones are entered for the connection -/
  books : (ms.foldl (Milestone.enter id) sys.coordinator).SameBooks sys'.coordinator

theorem Reaches.refl (id : ConnectionId) (sys : System σ) : Reaches id [] sys sys := by
  refine ⟨fun j => ?_, .refl _⟩
  split
  · rename_i hj
    rw [hj]
    rfl
  · rfl

theorem Reaches.active_self {id : ConnectionId} {ms : List Milestone} {sys sys' : System σ}
    (h : Reaches id ms sys sys') : (sys'.connection id).isActive =
      ms.foldl (fun _ m => m.runs) (sys.connection id).isActive :=
  (h.active id).trans (if_pos rfl)

theorem Reaches.trans {id : ConnectionId} {ms ms' : List Milestone} {sys₁ sys₂ sys₃ : System σ}
    (h₁₂ : Reaches id ms sys₁ sys₂) (h₂₃ : Reaches id ms' sys₂ sys₃) :
    Reaches id (ms ++ ms') sys₁ sys₃ where
  active := fun j => by
    rw [h₂₃.active, h₁₂.active_self, List.foldl_append]
    split
    · rfl
    · rename_i hj
      rw [h₁₂.active, if_neg hj]
  books := by
    rw [List.foldl_append]
    exact (Milestone.enter_sameBooks id h₁₂.books ms').trans h₂₃.books

/-- Nothing is entered when no transaction begins or ends and the books stay as they are. -/
theorem Reaches.of_same {sys sys' : System σ}
    (hactive : ∀ j, (sys'.connection j).isActive = (sys.connection j).isActive)
    (hbooks : sys.coordinator.SameBooks sys'.coordinator) (id : ConnectionId) :
    Reaches id [] sys sys' := by
  refine ⟨fun j => ?_, hbooks⟩
  rw [hactive]
  split
  · rename_i hj
    rw [hj]
    rfl
  · rfl

/-- The milestones of calls on a connection, in a system. -/
def course (id : ConnectionId) : Course (System σ) where
  reaches := Reaches id
  resumes mid later := (later.connection id).id = id ∧
    (later.connection id).isActive = (mid.connection id).isActive
  before := Reaches.trans

/-! ## Calls on a connection -/

theorem reaches_setFrame {sys : System σ} {id : ConnectionId}
    (hname : (sys.connection id).id = id) {ms : List Milestone} {st : Frame σ}
    (h : (sys.frame id).Reaches ms st) : Reaches id ms sys (sys.setFrame id st) where
  active := fun j => by
    rw [connection_setFrame]
    split
    · exact h.active
    · rfl
  books := by
    have hbooks := h.books
    rwa [show (sys.frame id).self.id = id from hname] at hbooks

omit [Backend σ] in
theorem setFrame_setFrame (sys : System σ) (id : ConnectionId) (st st' : Frame σ) :
    (sys.setFrame id st).setFrame id st' = sys.setFrame id st' := by
  have hsame : (sys.connections.insert id st.self).insert id st'.self =
      sys.connections.insert id st'.self := by
    ext j : 1
    rw [SortedMap.get?_insert, SortedMap.get?_insert, SortedMap.get?_insert]
    split <;> rfl
  exact congrArg (System.mk st'.store st'.coordinator) hsame

/-- A call on a frame reaches the same milestones in the system, also from the frame of a call that
was begun before. -/
theorem on_along {sys : System σ} {id : ConnectionId} {α : Type} {ends : Bool → List Milestone}
    {call : Call σ α} {start : Frame σ} (hid : start.self.id = id)
    (h : (call (sys.frame id)).Reaches ends start) :
    (on id call sys).Along (course id) ends (sys.setFrame id start) := by
  have hzoom : on id call sys = (call (sys.frame id)).zoom (frame id) (setFrame id)
      (sys.setFrame id start) := by
    rw [on, Action.zoom]
    cases call (sys.frame id) with
    | ok a st => rw [Outcome.zoom, Outcome.zoom, setFrame_setFrame]
    | error e st => rw [Outcome.zoom, Outcome.zoom, setFrame_setFrame]
    | waits mid mode resume => rw [Outcome.zoom, Outcome.zoom, setFrame_setFrame]
  have hframe : (call (sys.frame id)).Along Frame.course ends
      ((sys.setFrame id start).frame id) := by
    rwa [frame_setFrame]
  rw [hzoom]
  refine hframe.zoom (fun sys => (sys.connection id).id = id) ?_
    (fun ms sys mid hname => reaches_setFrame hname) fun sys mid later _ hlater => ?_
  · rwa [connection_setFrame_self]
  · obtain ⟨hname, hactive⟩ := hlater
    rw [connection_setFrame_self] at hactive
    exact ⟨hname, hactive⟩

/-- Announcing a commit enters nothing. -/
theorem publish_reaches (change : ChangeSet) (sys : System σ) (id : ConnectionId) :
    ∃ sys', publish change sys = .ok ⟨⟩ sys' ∧ Reaches id [] sys sys' := by
  obtain ⟨sys', heq, hstays⟩ := publish_stays change sys
  refine ⟨sys', heq, .of_same (fun j => ?_) ?_ id⟩
  · have hphase := (hstays j).phase
    exact congrArg (fun p => decide (p ≠ Phase.idle)) hphase
  · cases heq
    exact ⟨rfl, rfl, rfl, rfl, rfl⟩

/-- A request is refused and leaves its connection and all that is shared as it was, or it is not
refused any more and reaches the milestones that it is made for. -/
theorem handle_along {sys : System σ} {id : ConnectionId} (hname : (sys.connection id).id = id)
    (req : Request) :
    (∃ e, e.isRefusal = true ∧ req.opening (sys.connection id).isActive = [] ∧
        handle id req sys = .error e (sys.setFrame id (sys.frame id))) ∨
      ∃ start, sys.Reaches id (req.opening (sys.connection id).isActive) start ∧
        (handle id req sys).Along (course id) (req.ending (start.connection id).isActive)
          start := by
  by_cases hreq : req = .commit
  · subst hreq
    have hcommit : (Connection.commit (sys.frame id)).Reaches
        (Request.commit.ending (sys.connection id).isActive) (sys.frame id) := by
      rcases hact : (sys.connection id).isActive with _ | _
      · have heq : Connection.commit (sys.frame id) = .ok none (sys.frame id) := by
          simp [Connection.commit, show (sys.frame id).self.isActive = false from hact]
        rw [heq]
        exact Frame.Reaches.refl _
      · exact Connection.commit_reaches hact
    refine .inr ⟨_, reaches_setFrame hname (.refl _), ?_⟩
    rw [connection_setFrame_self, handle, commit, Action.bind_apply, Action.bind_apply,
      Outcome.bind_assoc]
    refine (on_along hname hcommit).bind_ok fun change? mid => ?_
    cases change? with
    | none => exact ⟨_, mid, rfl, fun _ _ hmid => hmid⟩
    | some change =>
      obtain ⟨sys', hpublish, hreaches⟩ := publish_reaches change mid id
      refine ⟨.none, sys', by simp [hpublish], fun ms st hmid => ?_⟩
      have hall : Reaches id (ms ++ []) st sys' := Reaches.trans hmid hreaches
      rwa [List.append_nil] at hall
  · rw [handle_eq hreq]
    rcases req.call_reaches (sys.frame id) with ⟨e, he, hopening, heq⟩ | ⟨start, hstart, hreaches⟩
    · refine .inl ⟨e, he, hopening, ?_⟩
      rw [on, Action.zoom, heq]
      rfl
    · refine .inr ⟨_, reaches_setFrame hname hstart, ?_⟩
      rw [connection_setFrame_self]
      exact on_along (hstart.id.trans hname) hreaches

/-- Taking a connection out drops its transaction, if one runs. -/
theorem disconnect_reaches {sys sys' : System σ} {id : ConnectionId}
    (hname : (sys.connection id).id = id) (hd : disconnect id sys = .ok ⟨⟩ sys') :
    sys.Reaches id (Request.rollback.ending (sys.connection id).isActive true) sys' := by
  have hrollback : (rollback id sys).Along (course id)
      (Request.rollback.ending (sys.connection id).isActive) (sys.setFrame id (sys.frame id)) := by
    refine on_along hname ?_
    rcases hact : (sys.connection id).isActive with _ | _
    · have heq : Connection.rollback (sys.frame id) = .ok ⟨⟩ (sys.frame id) := by
        simp [Connection.rollback, show (sys.frame id).self.isActive = false from hact]
      rw [heq]
      exact Frame.Reaches.refl _
    · exact Connection.rollback_reaches hact
  have hsame : sys.Reaches id [] (sys.setFrame id (sys.frame id)) :=
    reaches_setFrame hname (.refl _)
  -- the connection that is taken out runs no transaction any more
  have herased : ∀ mid : System σ,
      sys.Reaches id (Request.rollback.ending (sys.connection id).isActive true) mid →
      sys.Reaches id (Request.rollback.ending (sys.connection id).isActive true)
        { mid with connections := mid.connections.erase id } := by
    intro mid hmid
    refine ⟨fun j => ?_, hmid.books⟩
    rw [connection, SortedMap.get?_erase]
    split
    · rcases (sys.connection id).isActive with _ | _
      · rfl
      · rfl
    · rename_i hj
      rw [← connection, hmid.active, if_neg hj]
  rw [disconnect, Action.bind_apply, Action.attempt_apply] at hd
  rcases ho : rollback id sys with ⟨a, mid⟩ | ⟨e, mid⟩ | _
  · rw [ho] at hd hrollback
    cases hd
    exact herased mid (hsame.trans hrollback)
  · rw [ho] at hd hrollback
    cases hd
    exact herased mid (hsame.trans hrollback.2)
  · rw [ho] at hd
    cases hd

end System

end QuadTxn
