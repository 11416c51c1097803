import QuadTxn.Proofs.Gate.Schedules

/-!
# Nobody waits for itself

The gate does not know its holders apart, so a connection that asked for it while it has it, whole
or in part, would wait for ever, and everybody else with it. No connection does (`System.Unlocked`):
a call is refused the gate only while another connection has it, and that one can commit or roll
back at once, which gives the gate back. This holds in every schedule of requests, over any backend
and however its sessions fail (`System.unlocked_of_scheduled`).

What a call asks for shows where it is refused (`Outcome.refusals`): every request that it makes
while somebody has the whole gate counts, be it the connection itself or another one.
-/

namespace QuadTxn

namespace System

section Unlocked

variable {σ : Type} [Backend σ]

/-- A request can be made, is not refused the gate, and leaves it to nobody. -/
def Releases (sch : Schedule (System σ) Answer) (id : ConnectionId) (req : Request) : Prop :=
  (sch.call id (handle id req)).1.ended = true ∧
    (sch.call id (handle id req)).2.state.coordinator.gate = .free

/-- What holds of the gate in a schedule of requests. -/
structure Unlocked (sch : Schedule (System σ) Answer) : Prop where
  /-- no share of the gate outlives the call that took it -/
  unshared : sch.state.coordinator.gate.readers = []
  /-- all of the gate outlives the call in a transaction that is direct or prepared -/
  engaged : ∀ id, sch.state.coordinator.gate.writer = some id ↔
    (sch.state.connection id).Engaged
  /-- a call waits, or is not granted the gate in time, only if another connection has the gate -/
  refused : ∀ id req, (sch.call id (handle id req)).1.refused = true →
    Contested id sch.state ∧ Contested id (sch.call id (handle id req)).2.state
  /-- a call that waits goes on waiting only if another connection has the gate -/
  rejoined : ∀ id, (sch.join (·.coordinator.gate) id).1.refused = true → Contested id sch.state
  /-- a call does not ask for the gate while its connection has all of it, from before or since the
  call has begun: that would be refused though the gate is the connection's own or was free -/
  uncontested : ∀ id req, ¬Contested id sch.state → (handle id req sch.state).refusals = 0
  /-- a call asks at most once for a gate that its connection does not have, and so not while it has
  a share of it; it is counted where another connection has the gate, so that each request shows -/
  once : ∀ id req, sch.state.coordinator.gate.writer ≠ some id → ∀ j, j ≠ id →
    (handle id req (sch.state.heldBy j)).refusals ≤ 1
  /-- a call that has waited asks for nothing more, whatever has become of the gate -/
  resumed : ∀ e ∈ sch.waiting, ∀ later, (e.2.resume later).refusals = 0
  /-- a connection that has the gate can commit or roll back, and gives the gate back by it -/
  releases : ∀ id, sch.state.coordinator.gate.writer = some id →
    Releases sch id .commit ∧ Releases sch id .rollback
  /-- while a call waits, another connection can give the gate back, unless the gate already admits
  what the call waits for -/
  waiting : ∀ e ∈ sch.waiting, sch.state.coordinator.gate.admits e.2.mode = true ∨
    ∃ j, j ≠ e.1 ∧ sch.state.coordinator.gate.writer = some j ∧
      Releases sch j .commit ∧ Releases sch j .rollback
  /-- a call that waits comes to an end once the gate is free -/
  admitted : ∀ e ∈ sch.waiting, sch.state.coordinator.gate = .free →
    (sch.join (·.coordinator.gate) e.1).1.ended = true

section InOrder

variable {sch : Schedule (System σ) Answer} (h : InOrder sch)

include h

theorem InOrder.refused {id : ConnectionId} {req : Request}
    (hr : (sch.call id (handle id req)).1.refused = true) :
    Contested id sch.state ∧ Contested id (sch.call id (handle id req)).2.state := by
  rcases hlookup : sch.waiting.lookup id with _ | w
  · rw [call_eq hlookup] at hr ⊢
    exact settle_contested (handle_fair h.atRest id req) hr
  · rw [Schedule.call, hlookup] at hr
    cases hr

/-- A gate that does not admit a call that waits is another connection's. -/
theorem InOrder.contested {id : ConnectionId} {w : Waiting (System σ) Answer}
    (hw : (id, w) ∈ sch.waiting) (hg : ¬sch.state.coordinator.gate.admits w.mode = true) :
    Contested id sch.state := by
  refine (h.atRest.contested_iff id).mp ?_
  refine (h.atRest.frame id).contested ?_ (Bool.eq_false_iff.mpr hg)
  exact mt (h.atRest.writer id).mpr (h.writer_ne hw)

theorem InOrder.joined {id : ConnectionId} {w : Waiting (System σ) Answer}
    (hlookup : sch.waiting.lookup id = some w)
    (hadmits : sch.state.coordinator.gate.admits w.mode = true) :
    (sch.join (·.coordinator.gate) id).1.ended = true := by
  rw [Schedule.join, hlookup]
  dsimp only
  rw [if_pos hadmits]
  exact (settle_ended (h.resume_ends (mem_of_lookup_some hlookup) hadmits)).1

theorem InOrder.rejoined {id : ConnectionId}
    (hr : (sch.join (·.coordinator.gate) id).1.refused = true) : Contested id sch.state := by
  rcases hlookup : sch.waiting.lookup id with _ | w
  · rw [Schedule.join, hlookup] at hr
    cases hr
  · refine h.contested (mem_of_lookup_some hlookup) fun hadmits => ?_
    rw [Progress.refused_of_ended (h.joined hlookup hadmits)] at hr
    cases hr

/-- A connection that has the gate does not wait. -/
theorem InOrder.lookup_of_writer {id : ConnectionId}
    (hw : sch.state.coordinator.gate.writer = some id) : sch.waiting.lookup id = none := by
  rcases hlookup : sch.waiting.lookup id with _ | w
  · rfl
  · exact absurd hw (h.writer_ne (mem_of_lookup_some hlookup))

theorem InOrder.releases {id : ConnectionId}
    (hw : sch.state.coordinator.gate.writer = some id) {req : Request}
    (hreq : req = .commit ∨ req = .rollback) : Releases sch id req := by
  have hcall := call_eq (h.lookup_of_writer hw) req
  rw [Releases, hcall]
  exact settle_ended (handle_releases h.atRest hw hreq)

end InOrder

/-- In every schedule a call waits for the gate only while another connection has it, and that one
can give it back. -/
theorem unlocked_of_scheduled {sch : Schedule (System σ) Answer} (hs : Scheduled sch) :
    Unlocked sch := by
  have h := hs.inOrder
  have hreleases : ∀ {id}, sch.state.coordinator.gate.writer = some id →
      Releases sch id .commit ∧ Releases sch id .rollback := fun hw =>
    ⟨h.releases hw (.inl rfl), h.releases hw (.inr rfl)⟩
  refine ⟨h.atRest.readers, h.atRest.writer, fun _ _ => h.refused, fun _ => h.rejoined,
    fun _ req hc => refusals_of_uncontested h.atRest hc req,
    fun _ req hw _ hj => refusals_of_not_writer h.atRest hw hj req,
    fun e he later => ((h.pending e he).resume later).refusals_eq, fun _ => hreleases,
    fun e he => ?_, fun e he hfree => ?_⟩
  · by_cases hadmits : sch.state.coordinator.gate.admits e.2.mode = true
    · exact .inl hadmits
    · obtain ⟨j, hj, hw⟩ := h.contested he hadmits
      exact .inr ⟨j, hj, hw, hreleases hw⟩
  · rcases hlookup : sch.waiting.lookup e.1 with _ | w
    · exact absurd rfl (ne_of_lookup_none hlookup he)
    · refine h.joined hlookup ?_
      rw [hfree]
      cases w.mode <;> rfl

end Unlocked

/-- One connection writes through while another one wants to read: the reader waits, and is let in
by the commit. -/
theorem blocked_reader_is_let_in :
    let blocked : Schedule (System Session) Answer := calls [("a", .setIsolation .writeThrough),
      ("a", .begin), ("b", .begin), ("b", .hasStatement .any false)]
    let freed := (blocked.call "a" (handle "a" .commit)).2
    Unlocked blocked ∧ blocked.state.coordinator.gate.writer = some "a" ∧
      blocked.waiting.map Prod.fst = ["b"] ∧
      (blocked.join (·.coordinator.gate) "b").1.refused = true ∧
      (freed.join (·.coordinator.gate) "b").1.ended = true := by
  refine ⟨unlocked_of_scheduled (.calls _), ?_, ?_, ?_, ?_⟩
  · decide +kernel
  · decide +kernel
  · decide +kernel
  · decide +kernel

end System

end QuadTxn
