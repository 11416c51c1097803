import QuadTxn.Proofs.Coordination.Histories
import QuadTxn.Proofs.Calls.Rules

/-!
# Misuse changes nothing

A request that is out of place is refused: it finds a transaction running where none may run, or
none where one must, it comes after the preparation, its statement is malformed, or the isolation is
locked. In every schedule a call that is refused leaves everything as it was, all connections, the
store, the coordinator and the calls that wait, and none that has waited is refused; and a write is
refused whenever its transaction does not run or is prepared, as is every malformed one
(`System.misuse_changes_nothing`).
-/

namespace QuadTxn

namespace System

variable {σ : Type} [Backend σ] {sch : Schedule (System σ) Answer} {id : ConnectionId}

/-- The schedule when the connection of a name is there. It is the same one if it was there before;
otherwise a new one has been opened. -/
def opened (id : ConnectionId) (sch : Schedule (System σ) Answer) : Schedule (System σ) Answer :=
  { sch with state := { sch.state with
    connections := sch.state.connections.insert id (sch.state.connection id) } }

theorem opened_of_connected {c : Connection σ} (hget : sch.state.connections.get? id = some c) :
    opened id sch = sch := by
  have hsame : sch.state.setFrame id (sch.state.frame id) = sch.state :=
    setFrame_frame_of_get? hget
  exact congrArg (fun sys => { sch with state := sys }) hsame

/-- What a call that is made and refused leaves. -/
theorem call_of_refused (h : Scheduled sch) {req : Request} {e : TxnError}
    (hfailed : (sch.call id (handle id req)).1 = .failed e) (he : e.isRefusal = true) :
    (sch.call id (handle id req)).2 = opened id sch := by
  rcases hlookup : sch.waiting.lookup id with _ | w
  · rw [call_eq hlookup] at hfailed ⊢
    rcases handle_along (h.inOrder.atRest.name id) req with ⟨e', _, _, heq⟩ | ⟨start, _, halong⟩
    · rw [heq]
      rfl
    · -- a call that is under way fails for another reason
      rcases ho : handle id req sch.state with ⟨a, sys⟩ | ⟨e', sys⟩ | ⟨mid, mode, resume⟩
      · rw [ho] at hfailed
        cases hfailed
      · rw [ho] at hfailed halong
        cases hfailed
        rw [halong.1] at he
        cases he
      · rw [ho] at hfailed
        cases hfailed
  · rw [Schedule.call, hlookup] at hfailed
    cases hfailed

/-- A call that has waited is not refused when it is taken up. -/
theorem join_not_refused (h : Scheduled sch) {e : TxnError}
    (hfailed : (sch.join (·.coordinator.gate) id).1 = .failed e) : e.isRefusal = false := by
  obtain ⟨es, asked, hrecorded⟩ := h.recorded
  rcases hlookup : sch.waiting.lookup id with _ | w
  · rw [Schedule.join, hlookup] at hfailed
    cases hfailed
  · have halong := hrecorded.reaches.1 _ (mem_of_lookup_some hlookup) sch.state
      ⟨h.inOrder.atRest.name id, rfl⟩
    rw [Schedule.join, hlookup] at hfailed
    dsimp only at hfailed halong
    split at hfailed
    · rcases ho : w.resume sch.state with ⟨a, sys⟩ | ⟨e', sys⟩ | ⟨mid, mode, resume⟩
      · rw [ho] at hfailed
        cases hfailed
      · rw [ho] at hfailed halong
        cases hfailed
        exact halong.1
      · rw [ho] at hfailed
        cases hfailed
    · cases hfailed

/-- A request is out of place on a connection: it writes where no transaction runs or it is
prepared, or its statement is malformed. -/
def OutOfPlace (c : Connection Session) (req : Request) : Prop :=
  req.isWrite = true ∧ (c.phase = .idle ∨ c.phase = .prepared) ∨ req.malformed? ≠ none

/-- Such a request has a reason to be refused. -/
theorem OutOfPlace.refusal {st : Frame Session} {req : Request} (h : OutOfPlace st.self req) :
    ∃ e, st.refusal? req = some e := by
  have hwrite : req.isWrite = true := by
    rcases h with ⟨hwrite, _⟩ | hmal
    · exact hwrite
    · cases req <;> first | rfl | exact absurd rfl hmal
  rw [← Option.ne_none_iff_exists', Frame.refusal?_of_isWrite hwrite, ne_eq,
    Option.or_eq_none_iff]
  rintro ⟨hmal, hw⟩
  rcases h with ⟨_, hphase⟩ | hmal'
  · rcases hphase with hp | hp
    · simp [Frame.unwritable?, hp] at hw
    · simp [Frame.unwritable?, hp] at hw
  · exact hmal' hmal

theorem call_outOfPlace {sch : Schedule (System Session) Answer} {req : Request}
    (hnone : sch.waiting.lookup id = none) (h : OutOfPlace (sch.state.connection id) req) :
    ∃ e, (sch.call id (handle id req)).1 = .failed e ∧ e.isRefusal = true := by
  have hframe : OutOfPlace (sch.state.frame id).self req := h
  obtain ⟨e, hrefusal⟩ := hframe.refusal
  refine ⟨e, ?_, Frame.isRefusal_of_refusal hrefusal⟩
  have hreq : req ≠ .commit := by
    rintro rfl
    cases hrefusal
  rw [call_eq hnone, handle_eq hreq, on, Action.zoom, Frame.call_refused hrefusal]
  rfl

/-- In every schedule, a call that is refused changes nothing, and none is refused after it has
waited. A write is refused if no transaction runs or it is prepared, as is every malformed one. -/
theorem misuse_changes_nothing {sch : Schedule (System Session) Answer} (h : Scheduled sch) :
    (∀ id req e, (sch.call id (handle id req)).1 = .failed e → e.isRefusal = true →
      (sch.call id (handle id req)).2 = opened id sch ∧
      ∀ c, sch.state.connections.get? id = some c → (sch.call id (handle id req)).2 = sch) ∧
    (∀ id e, (sch.join (·.coordinator.gate) id).1 = .failed e → e.isRefusal = false) ∧
    ∀ id req, sch.waiting.lookup id = none → OutOfPlace (sch.state.connection id) req →
      ∃ e, (sch.call id (handle id req)).1 = .failed e ∧ e.isRefusal = true := by
  refine ⟨fun id req e hfailed he => ?_, fun id e => join_not_refused h, fun id req => ?_⟩
  · have hopened := call_of_refused h hfailed he
    exact ⟨hopened, fun c hget => hopened.trans (opened_of_connected hget)⟩
  · exact call_outOfPlace

/-- A prepared transaction that has staged a statement. -/
def sealedAddition : Schedule (System Session) Answer :=
  calls [("a", .begin), ("a", .addStatement ⟨.iri "s", .iri "p", .iri "o", none⟩), ("a", .prepare)]

/-- It refuses to give the statement up, and stays as it is. -/
theorem sealed_removal_changes_nothing :
    (sealedAddition.call "a" (handle "a" (.clear []))).1 = .failed .prepared ∧
      (sealedAddition.call "a" (handle "a" (.clear []))).2 = sealedAddition := by
  have hfailed : (sealedAddition.call "a" (handle "a" (.clear []))).1 = .failed .prepared := by
    rfl
  have hthere : (sealedAddition.state.connections.get? "a").isSome = true := by
    rfl
  obtain ⟨c, hget⟩ := Option.isSome_iff_exists.mp hthere
  exact ⟨hfailed,
    ((misuse_changes_nothing (Scheduled.calls _)).1 "a" _ _ hfailed rfl).2 c hget⟩

end System

end QuadTxn
