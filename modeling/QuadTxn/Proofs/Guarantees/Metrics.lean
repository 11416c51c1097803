import QuadTxn.Proofs.Coordination.Counts
import QuadTxn.Proofs.Coordination.Gatherings
import QuadTxn.Txn.Recorder

/-!
# The metrics balance

Whatever calls are made on a coordinator, under any names and in any order, its counters agree with
its registry and with each other, the totals never go back, and there is always one to take off when
a slot is released (`Gathering.Metered`). Where the calls are those of connections, the counters say
how many transactions run, have begun, were committed by a commit that was answered, and ended in
any other way (`System.Metered`).
-/

namespace QuadTxn

namespace Coordinator

variable {ρ : Type}

/-- None of the totals goes back. -/
structure Follows (c c' : Coordinator ρ) : Prop where
  /-- transactions that were started -/
  started : c.started ≤ c'.started
  /-- transactions that were committed -/
  committed : c.committed ≤ c'.committed
  /-- transactions that ended otherwise -/
  aborted : c.aborted ≤ c'.aborted

/-- A slot that is released is taken off the running transactions. -/
theorem Balanced.active_finish {c : Coordinator ρ} (h : c.Balanced) {id : ConnectionId}
    (hid : id ∈ c.registered) : (c.finish id).active + 1 = c.active := by
  obtain ⟨slot, hslot⟩ := SortedMap.mem_keys_iff.mp hid
  have hpos := h.active_pos id hslot
  rw [Coordinator.finish, hslot]
  exact Nat.sub_add_cancel hpos

end Coordinator

/-! ## Calls in any order -/

namespace Gathering

variable {π : Type} [Participant π] (live : SortedMap Nat π) (moves : List (Move π))

theorem balanced_after : (after live moves).coordinator.Balanced := by
  induction moves using List.reverseRecOn with
  | nil => exact .new
  | append_singleton moves m ih =>
    rw [after_snoc]
    cases m with
    | begin id r => exact ih.begin id r
    | finish id => exact ih.finish id
    | notify id change =>
      rw [step, notify_eq]
      exact (ih.markCommitted id).congr ⟨rfl, rfl, rfl, rfl, rfl⟩
    | watch => exact ih.congr ⟨rfl, rfl, rfl, rfl, rfl⟩
    | drop | act => exact ih

omit live moves in
theorem follows_step (g : Gathering π) (m : Move π) :
    g.coordinator.Follows (g.step m).coordinator := by
  cases m with
  | begin id r => exact ⟨Nat.le_add_right .., Nat.le_refl _, Nat.le_refl _⟩
  | finish id =>
    rw [step, Coordinator.finish]
    split
    · exact ⟨Nat.le_refl _, Nat.le_refl _, Nat.le_refl _⟩
    · exact ⟨Nat.le_refl _, Nat.le_add_right .., Nat.le_add_right ..⟩
  | notify id change =>
    rw [step, notify_eq, Coordinator.markCommitted_eq]
    exact ⟨Nat.le_refl _, Nat.le_refl _, Nat.le_refl _⟩
  | watch | drop | act => exact ⟨Nat.le_refl _, Nat.le_refl _, Nat.le_refl _⟩

/-- Each move starts one transaction at most. -/
theorem started_after_le : (after live moves).coordinator.started ≤ moves.length := by
  induction moves using List.reverseRecOn with
  | nil => exact Nat.le_refl 0
  | append_singleton moves m ih =>
    have hstep : ((after live moves).step m).coordinator.started ≤
        (after live moves).coordinator.started + 1 := by
      cases m with
      | begin id r =>
        rw [step, Coordinator.begin]
        split
        · exact Nat.le_add_right ..
        · exact Nat.le_refl _
      | finish id =>
        rw [step, Coordinator.finish]
        split <;> exact Nat.le_add_right ..
      | notify id change =>
        rw [step, notify_eq, Coordinator.markCommitted_eq]
        exact Nat.le_add_right ..
      | watch | drop | act => exact Nat.le_add_right ..
    rw [after_snoc, List.length_append, List.length_singleton]
    omega

/-- The counters of a coordinator after some moves. -/
structure Metered (c : Coordinator Nat) : Prop where
  /-- those are registered that were registered, and not released since -/
  registered : ∀ id, id ∈ c.registered ↔ (Move.latest? id moves).isSome = true
  /-- each of them once -/
  nodup : c.registered.Nodup
  /-- the running transactions are those that are registered -/
  active : c.active = c.registered.length
  /-- every transaction that was started is running, committed or aborted -/
  total : c.started = c.active + c.committed + c.aborted
  /-- whenever a slot is released, there is a running transaction to take off -/
  unsaturated : ∀ id ∈ c.registered, (c.finish id).active + 1 = c.active
  /-- no counter exceeds the number of the moves -/
  bounded : c.started ≤ moves.length

theorem metered_after : Metered moves (after live moves).coordinator where
  registered := fun id => by
    rw [← participant_after live moves id, Option.isSome_map, Option.isSome_iff_exists]
    exact SortedMap.mem_keys_iff
  nodup := SortedMap.nodup_keys _
  active := (balanced_after live moves).active.trans (List.length_map ..).symm
  total := (balanced_after live moves).total
  unsaturated := fun _ hid => (balanced_after live moves).active_finish hid
  bounded := started_after_le live moves

end Gathering

/-! ## Calls of connections -/

namespace System

variable {σ : Type} [Backend σ]

/-- The books after some episodes. -/
structure Booked (es : List (Episode σ)) (sys : System σ) : Prop where
  /-- the slots are those of the running transactions -/
  slots : ∀ id, sys.coordinator.slots.get? id =
    Coordinator.slotOf id (sys.connection id).isActive
  /-- the counters balance -/
  balanced : sys.coordinator.Balanced
  /-- the transactions that have begun -/
  started : sys.coordinator.started = es.countP Episode.begins
  /-- the transactions that were committed -/
  committed : sys.coordinator.committed = es.countP Episode.commits
  /-- the transactions that ended otherwise -/
  aborted : sys.coordinator.aborted = es.countP Episode.aborts

omit [Backend σ] in
theorem countP_snoc (p : Episode σ → Bool) (es : List (Episode σ)) (e : Episode σ) :
    (es ++ [e]).countP p = es.countP p + (p e).toNat := by
  rw [List.countP_append, List.countP_singleton]
  cases p e <;> rfl

/-- One more episode. -/
theorem Booked.snoc {es : List (Episode σ)} {e : Episode σ} (h : Booked es e.before)
    {id : ConnectionId} (hon : e.turn.On id)
    (hreaches : e.before.Reaches id e.milestones e.after) : Booked (es ++ [e]) e.after := by
  have hentered := Episode.entered hon hreaches (h.slots id)
  have hcounted := Episode.counted hon hreaches (h.slots id)
  refine ⟨fun j => ?_, ?_, ?_, ?_, ?_⟩
  · rw [hentered.slots, hreaches.active]
    split
    · rename_i hj
      rw [hj]
    · exact h.slots j
  · exact (h.balanced.foldl_enter id e.milestones).congr hreaches.books
  · rw [hcounted.started, h.started, countP_snoc]
  · rw [hcounted.committed, h.committed, countP_snoc]
  · rw [hcounted.aborted, h.aborted, countP_snoc]

theorem Recorded.booked {es : List (Episode σ)} {asked : ConnectionId → Request}
    {sch : Schedule (System σ) Answer} (h : Recorded es asked sch) : Booked es sch.state := by
  have hlast : ∀ {es : List (Episode σ)} {e : Episode σ} {asked : ConnectionId → Request}
      {sch : Schedule (System σ) Answer}, Recorded (es ++ [e]) asked sch → Booked es e.before →
      Booked (es ++ [e]) e.after := by
    intro es e asked sch h hbooked
    obtain ⟨id, hon⟩ := e.turn.exists_on
    exact hbooked.snoc hon
      (h.reaches.2 e (List.mem_append_right _ List.mem_cons_self) id hon)
  induction h with
  | start => exact ⟨fun _ => rfl, .new, rfl, rfl, rfl⟩
  | call id req h hnone ih => exact hlast (h.call id req hnone) ih
  | join id h ih => exact hlast (h.join id) ih
  | disconnect h hnone hd ih => exact hlast (h.disconnect hnone hd) ih
  | aside h ha ih => exact hlast (h.aside ha) ih

/-- The metrics after some episodes. -/
structure Metered (es : List (Episode σ)) (sys : System σ) : Prop where
  /-- the connections with a running transaction -/
  active : sys.coordinator.active = sys.connections.entries.countP fun e => e.2.isActive
  /-- the transactions that have begun -/
  started : sys.coordinator.started = es.countP Episode.begins
  /-- the commits that have ended a running transaction and were answered -/
  committed : sys.coordinator.committed = es.countP Episode.commits
  /-- the transactions that have ended in any other way -/
  aborted : sys.coordinator.aborted = es.countP Episode.aborts

theorem Booked.metered {es : List (Episode σ)} {sys : System σ} (h : Booked es sys) :
    Metered es sys := by
  refine ⟨?_, h.started, h.committed, h.aborted⟩
  -- the registered connections are those with a running transaction
  have hperm : sys.coordinator.slots.keys.Perm
      (sys.connections.filter fun _ c => c.isActive).keys := by
    refine (List.perm_ext_iff_of_nodup (SortedMap.nodup_keys _) (SortedMap.nodup_keys _)).mpr ?_
    intro id
    have hslot : id ∈ sys.coordinator.slots.keys ↔ (sys.connection id).isActive = true := by
      rw [SortedMap.mem_keys_iff, h.slots, Coordinator.slotOf]
      split <;> simp_all
    rw [hslot, SortedMap.keys, List.mem_map]
    constructor
    · intro hactive
      rcases hget : sys.connections.get? id with _ | c
      · rw [connection_of_get?_none hget] at hactive
        cases hactive
      · rw [connection, hget] at hactive
        exact ⟨(id, c), List.mem_filter.mpr ⟨SortedMap.get?_eq_some_iff.mp hget, hactive⟩, rfl⟩
    · rintro ⟨⟨j, c⟩, he, rfl⟩
      obtain ⟨hmem, hactive⟩ := List.mem_filter.mp he
      rw [connection, SortedMap.get?_eq_some_iff.mpr hmem]
      exact hactive
  have hlength := hperm.length_eq
  rw [SortedMap.keys, SortedMap.keys, List.length_map, List.length_map] at hlength
  rw [h.balanced.active, List.countP_eq_length_filter]
  exact hlength

end System

/-- The counters of a coordinator agree with its registry and with each other after all calls, and
no total goes back. In a schedule they count the running transactions, those that have begun, those
that a commit has ended that was answered, and those that have ended in any other way. -/
theorem metrics_balance {π σ : Type} [Participant π] [Backend σ] :
    (∀ (live : SortedMap Nat π) (moves : List (Move π)),
      Gathering.Metered moves (Gathering.after live moves).coordinator ∧
      ∀ m, (Gathering.after live moves).coordinator.Follows
        (Gathering.after live (moves ++ [m])).coordinator) ∧
    (∀ (es : List (Episode σ)) (asked : ConnectionId → Request)
      (sch : Schedule (System σ) Answer), System.Recorded es asked sch →
        System.Metered es sch.state) ∧
    ∀ sch : Schedule (System σ) Answer, System.Scheduled sch →
      ∃ es asked, System.Recorded es asked sch := by
  refine ⟨fun live moves => ⟨Gathering.metered_after live moves, fun m => ?_⟩, ?_, ?_⟩
  · rw [Gathering.after_snoc]
    exact Gathering.follows_step _ m
  · intro es asked sch h
    exact h.booked.metered
  · intro sch h
    exact h.recorded

/-- While the transaction of `a` holds the gate, `b` begins one and is not admitted in time; `a` is
committed, and `c` begins. -/
def contended : Schedule (System Session) Answer :=
  let start : System Session := .new
  let joined : Schedule (System Session) Answer := .start { start with
    connections := start.connections.insert "b"
      { Connection.new "b" .writeThrough with lockTimeout := some 50 } }
  [("a", .setIsolation .writeThrough), ("a", .begin), ("b", .begin), ("a", .commit),
    ("c", .begin)].foldl (fun sch e => (sch.call e.1 (System.handle e.1 e.2)).2) joined

/-- Of the three transactions one was committed, one was aborted, and one runs. -/
theorem contended_metrics :
    ∃ es asked, System.Recorded es asked contended ∧
      contended.state.connections.entries.countP (fun e => e.2.isActive) = 1 ∧
      es.countP Episode.begins = 3 ∧ es.countP Episode.commits = 1 ∧
      es.countP Episode.aborts = 1 := by
  have hscheduled : System.Scheduled contended :=
    ((((((System.Scheduled.start).aside (.connect rfl)).call "a" _).call "a" _).call "b" _).call
      "a" _).call "c" _
  obtain ⟨es, asked, hrecorded⟩ := (@metrics_balance Recorder Session _ _).2.2 _ hscheduled
  have hmetered := (@metrics_balance Recorder Session _ _).2.1 es asked _ hrecorded
  refine ⟨es, asked, hrecorded, ?_, ?_, ?_, ?_⟩
  · exact hmetered.active.symm.trans (by decide +kernel)
  · exact hmetered.started.symm.trans (by decide +kernel)
  · exact hmetered.committed.symm.trans (by decide +kernel)
  · exact hmetered.aborted.symm.trans (by decide +kernel)

end QuadTxn
