import QuadTxn.Proofs.Runs.Passing

/-!
# The state of a transaction

What belongs to a transaction is spread over its connection, the session with the store, the gate
and the registry. In every reachable system the parts agree (`System.orderly_of_reachable`): a
connection holds the gate exactly while it has a native transaction, it is registered exactly while
a transaction runs, and nothing of a transaction is left once it has ended.

Nearly all of this is said by the phase of the transaction (`Connection.InPhase`). What the phase
does not tell is whether a prepared transaction wrote through before, and that it has nothing staged
then; this is kept by every step (`Connection.Tidy`).
-/

namespace QuadTxn

/-- A prepared transaction that has written through has nothing staged. -/
def Connection.Tidy (c : Connection Session) : Prop :=
  c.phase = .prepared → c.isolation.readSnapshot = false → c.Unstaged

namespace Frame

/-! ## What is staged in a prepared transaction -/

/-- A prepared transaction only reads. -/
theorem perform_prepared {st : Frame Session} (hp : st.self.phase = .prepared) {req : Request}
    (hr : st.refusal? req = none) : st.perform req = st.noted req := by
  have hread : ¬req.isWrite = true := by
    intro hwrite
    rw [refusal?_of_isWrite hwrite, Option.or_eq_none_iff] at hr
    simp [unwritable?, hp] at hr
  exact perform_read (Request.writesIn_of_not_isWrite hread _)

theorem Prepares.tidy {st : Frame Session} (h : st.Coherent) (ht : st.self.Tidy)
    {r : Except TxnError Unit} {st' : Frame Session} (hp : Prepares st r st') : st'.self.Tidy := by
  cases hp with
  | skip => exact ht
  | timeout =>
    intro hprepared
    cases hprepared
  | conflict =>
    intro hprepared
    cases hprepared
  | failed =>
    intro hprepared
    cases hprepared
  | done hw =>
    -- what is staged stays, but a transaction that stages does not write through
    obtain ⟨session, net, gate, heq⟩ := prepared_eq st
    rw [heq]
    intro _ hread
    rcases phase_of_writable hw with hstaging | hdirect
    · have hread : st.self.isolation.readSnapshot = false := hread
      rw [(h.staging hstaging).2.2] at hread
      cases hread
    · exact (h.direct hdirect).2.2

theorem Moves.tidy {st : Frame Session} (h : st.Coherent) (ht : st.self.Tidy) {req : Request}
    {r : Except TxnError Answer} {st' : Frame Session} (hm : Moves st req r st') :
    st'.self.Tidy := by
  cases hm with
  | statements _ hr =>
    intro hp
    rw [(perform_continues st req).phase] at hp
    obtain ⟨ledger, events, hnoted, -⟩ := noted_eq st req
    rw [perform_prepared hp hr, hnoted]
    exact ht hp
  | binding hb hr =>
    intro hp
    rw [(write_continues st _ _).phase] at hp
    have hw := writable_of_binding hb hr
    simp [unwritable?, hp] at hw
  | beginStaged =>
    intro hp
    cases hp
  | beginDirect =>
    intro hp
    cases hp
  | beginTimeout =>
    intro hp
    cases hp
  | prepare hp => exact hp.tidy h ht
  | rollback =>
    split
    · intro hp
      cases hp
    · exact ht
  | flags hi hr hs =>
    intro hp hread
    rcases flags_active h (Connection.isActive_of_prepared hp) hi hr hs with rfl | ⟨-, -, hread', -⟩
    · exact ht hp hread
    · exact ht hp hread'
  | switch =>
    intro hp
    cases hp
  | _ => exact ht

/-! ## What the phase tells -/

section Coherent

variable {st : Frame Session} (h : st.Coherent)

include h

theorem Coherent.native_iff : st.self.session.isActive = true ↔ st.self.Engaged := by
  rw [Session.isActive]
  constructor
  · intro hsome
    refine Classical.byContradiction fun hno => ?_
    rw [h.session_none hno] at hsome
    cases hsome
  · rintro (hp | hp)
    · obtain ⟨t, ht, -⟩ := (h.direct hp).1
      rw [ht]
      rfl
    · obtain ⟨t, ht, -⟩ := h.prepared hp
      rw [ht]
      rfl

theorem Coherent.engaged_iff : st.self.Engaged ↔ st.self.isActive = true ∧
    (st.self.isolation.readSnapshot = false ∨ st.self.phase = .prepared) := by
  rw [Connection.Engaged, Connection.isActive_iff]
  rcases hp : st.self.phase with _ | _ | _ | _
  · simp
  · simp [(h.staging hp).2.2]
  · simp [(h.direct hp).2.1]
  · simp

end Coherent

end Frame

namespace System

/-- What holds between the parts of a system in which no call is under way. -/
structure Orderly (sys : System Session) : Prop where
  /-- at most one connection holds the gate -/
  alone : ∀ i j, Call.holdsGate (sys.frame i) = true → Call.holdsGate (sys.frame j) = true → i = j
  /-- nobody shares the gate -/
  unshared : sys.coordinator.gate.readers = []
  /-- the gate is held while the transaction is direct or prepared -/
  engaged : ∀ id, Call.holdsGate (sys.frame id) = true ↔ (sys.connection id).Engaged
  /-- the gate is held while the session has a native transaction -/
  native : ∀ id, Call.holdsGate (sys.frame id) = true ↔
    (sys.connection id).session.isActive = true
  /-- the gate is held by a transaction that writes through or is prepared -/
  holds : ∀ id, Call.holdsGate (sys.frame id) = true ↔ (sys.connection id).isActive = true ∧
    ((sys.connection id).isolation.readSnapshot = false ∨ (sys.connection id).phase = .prepared)
  /-- only a transaction that runs is prepared -/
  prepared : ∀ id, (sys.connection id).phase = .prepared → (sys.connection id).isActive = true
  /-- a connection is registered while a transaction runs -/
  registered : ∀ id, id ∈ sys.coordinator.registered ↔ (sys.connection id).isActive = true
  /-- nothing is left of a transaction that has ended -/
  idle : ∀ id, (sys.connection id).isActive = false → (sys.connection id).tracking = false ∧
    (sys.connection id).Unstaged ∧ (sys.connection id).net = ∅ ∧ (sys.connection id).ledger = ∅
  /-- a transaction that stages its writes has changed nothing before it is prepared -/
  unchanged : ∀ id, (sys.connection id).isActive = true →
    (sys.connection id).isolation.readSnapshot = true → (sys.connection id).phase ≠ .prepared →
    (sys.connection id).net = ∅
  /-- a transaction that writes through has nothing staged -/
  unstaged : ∀ id, (sys.connection id).isActive = true →
    (sys.connection id).isolation.readSnapshot = false → (sys.connection id).Unstaged

/-- A step keeps a connection tidy. -/
theorem tidy_step {sys sys' : System Session} (h : sys.Coherent) {o : Occurrence}
    {r : Except TxnError Answer} (hs : Step sys o r sys') {id : ConnectionId}
    (ht : (sys.connection id).Tidy) : (sys'.connection id).Tidy := by
  intro hp
  have hact := Connection.isActive_of_prepared hp
  rcases active_step h (effect_of_step h hs) hact with ⟨req, -, hm⟩ | ⟨-, hpass⟩
  · exact hm.tidy (h.frame id) ht hp
  · obtain ⟨ledger, hconn⟩ := hpass.self
    rw [hconn] at hp ⊢
    exact ht hp

theorem tidy_run {start sys : System Session} (h : start.Coherent) {ts : List Transition}
    (hr : Run start ts sys) {id : ConnectionId} (ht : (start.connection id).Tidy) :
    (sys.connection id).Tidy := by
  induction hr with
  | nil => exact ht
  | snoc hr hs ih => exact tidy_step (h.run hr) hs ih

theorem mem_registered_iff {sys : System Session} (h : sys.Coherent) (id : ConnectionId) :
    id ∈ sys.coordinator.registered ↔ (sys.connection id).isActive = true := by
  rw [← slot_isSome_iff h, Coordinator.registered, SortedMap.keys, List.mem_map]
  constructor
  · rintro ⟨⟨_, slot⟩, he, rfl⟩
    exact ⟨slot, SortedMap.get?_eq_some_iff.mpr he⟩
  · rintro ⟨slot, hslot⟩
    exact ⟨(id, slot), SortedMap.get?_eq_some_iff.mp hslot, rfl⟩

theorem holdsGate_iff {sys : System Session} (h : sys.Coherent) (id : ConnectionId) :
    Call.holdsGate (sys.frame id) = true ↔ (sys.connection id).Engaged := by
  rw [(h.frame id).holdsGate, decide_eq_true_eq]
  exact Iff.rfl

theorem Coherent.orderly {sys : System Session} (h : sys.Coherent)
    (ht : ∀ id, (sys.connection id).Tidy) : sys.Orderly where
  alone := fun i j hi hj => by
    have hi := (writer_iff h i).mpr ((holdsGate_iff h i).mp hi)
    have hj := (writer_iff h j).mpr ((holdsGate_iff h j).mp hj)
    exact Option.some.inj (hi.symm.trans hj)
  unshared := (h.frame "").readers
  engaged := holdsGate_iff h
  native := fun id => (holdsGate_iff h id).trans (h.frame id).native_iff.symm
  holds := fun id => (holdsGate_iff h id).trans (h.frame id).engaged_iff
  prepared := fun _ hp => Connection.isActive_of_prepared hp
  registered := mem_registered_iff h
  idle := fun id hact => by
    obtain ⟨-, htracking, hledger, hnet, hunstaged⟩ :=
      (h.frame id).idle (Connection.phase_of_inactive hact)
    exact ⟨htracking, hunstaged, hnet, hledger⟩
  unchanged := fun id hact hread hunprepared => by
    rcases hp : (sys.connection id).phase with _ | _ | _ | _
    · exact absurd hp (Connection.isActive_iff.mp hact)
    · exact ((h.frame id).staging hp).2.1
    · exact nomatch hread.symm.trans ((h.frame id).direct hp).2.1
    · exact absurd hp hunprepared
  unstaged := fun id hact hread => by
    rcases hp : (sys.connection id).phase with _ | _ | _ | _
    · exact absurd hp (Connection.isActive_iff.mp hact)
    · exact nomatch hread.symm.trans ((h.frame id).staging hp).2.2
    · exact ((h.frame id).direct hp).2.2
    · exact ht id hp hread

/-- The parts of every reachable system agree. -/
theorem orderly_of_reachable {sys : System Session} (h : Reachable sys) : sys.Orderly := by
  have hcoherent := h.coherent
  obtain ⟨ts, hr⟩ := h
  exact hcoherent.orderly fun id => tidy_run Coherent.new hr fun hp => (nomatch hp)

/-- One connection begins to write through, and another one to stage its writes: both are
registered, and the first one alone has the gate. -/
theorem gate_held_by_writer : ∃ ts sys,
    requests .new [("a", .setIsolation .writeThrough), ("a", .begin), ("b", .begin)] =
      some (ts, sys) ∧
    sys.Orderly ∧ sys.coordinator.registered = ["a", "b"] ∧
    Call.holdsGate (sys.frame "a") = true ∧ Call.holdsGate (sys.frame "b") = false := by
  obtain ⟨ts, sys, hplay, hcheck⟩ := requests_of_check
    (fun _ sys => decide (sys.coordinator.registered = ["a", "b"] ∧
      Call.holdsGate (sys.frame "a") = true ∧ Call.holdsGate (sys.frame "b") = false))
    (by decide +kernel : (requests .new [("a", .setIsolation .writeThrough), ("a", .begin),
      ("b", .begin)]).any _ = true)
  exact ⟨ts, sys, hplay, orderly_of_reachable ⟨ts, (run_of_requests hplay).1⟩,
    of_decide_eq_true hcheck⟩

end System

end QuadTxn
