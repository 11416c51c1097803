import QuadTxn.Proofs.Coordination.Gatherings
import QuadTxn.Txn.Recorder

/-!
# Announcements reach the right participants, once

Whatever has happened in a gathering whose participants are registered under one name each, an
announcement is made once to every participant that is alive, tracks its reads and was last
registered under another name, then once to every commit listener, and it changes nothing in the
registry but the mark of the name it is made under (`Gathering.announcements_reach_latest`). So a
participant has been told just what was announced under other names while it was alive, tracked its
reads and had its slot.
-/

namespace QuadTxn

namespace Gathering

variable {π : Type} [Participant π]

/-- An announcement to the addressed participants and to a number of listeners. -/
structure Announces (addressed : Nat → Prop) (listeners : Nat) (id : ConnectionId)
    (change : ChangeSet) (g g' : Gathering π) : Prop where
  /-- the addressed participants are called once each, and then the listeners in their order -/
  calls : ∃ rs : List Nat, rs.Nodup ∧ (∀ r, r ∈ rs ↔ addressed r) ∧
    g'.calls = g.calls ++
      (rs.map (.changed · change) ++ (List.range listeners).map (.committed · change))
  /-- the addressed participants have been told once -/
  told : ∀ r, addressed r → g'.live.get? r = (g.live.get? r).map (Participant.changed change)
  /-- all others are as they were -/
  untold : ∀ r, ¬addressed r → g'.live.get? r = g.live.get? r
  /-- the slot of the name is marked if there is one, and the other slots are as they were -/
  marked : ∀ j, g'.coordinator.slots.get? j =
    if j = id then (g.coordinator.slots.get? id).map fun slot => { slot with committed := true }
    else g.coordinator.slots.get? j
  /-- nothing else changes but what the listeners were told -/
  rest : g'.coordinator = { g.coordinator with
    slots := g'.coordinator.slots
    told := g.coordinator.told ++ (List.range listeners).map fun i => (i, change) }

theorem filterMap_toldTo_changed {rs : List Nat} (hnodup : rs.Nodup) (change : ChangeSet)
    (r : Nat) :
    (rs.map (.changed · change)).filterMap (Callback.toldTo? r) =
      if r ∈ rs then [change] else [] := by
  induction hnodup with
  | nil => rfl
  | @cons r' rs hne _ ih =>
    rw [List.map_cons, List.filterMap_cons, ih, Callback.toldTo?]
    by_cases hr : r' = r
    · -- it is not called again
      have hlater : r ∉ rs := fun hr' => hne r hr' hr
      simp [hr, hlater]
    · simp [hr, Ne.symm hr]

theorem filterMap_toldTo_committed (is : List Nat) (change : ChangeSet) (r : Nat) :
    (is.map (.committed · change)).filterMap (Callback.toldTo? r) = [] := by
  rw [List.filterMap_map, List.filterMap_eq_nil_iff]
  intro i _
  rfl

/-- What a participant is told by an announcement. -/
theorem Announces.toldTo {addressed : Nat → Prop} [DecidablePred addressed] {listeners : Nat}
    {id : ConnectionId} {change : ChangeSet} {g g' : Gathering π}
    (h : Announces addressed listeners id change g g') (r : Nat) :
    g'.calls.filterMap (Callback.toldTo? r) =
      g.calls.filterMap (Callback.toldTo? r) ++ if addressed r then [change] else [] := by
  obtain ⟨rs, hnodup, hmem, hcalls⟩ := h.calls
  rw [hcalls, List.filterMap_append, List.filterMap_append, filterMap_toldTo_changed hnodup,
    filterMap_toldTo_committed, List.append_nil]
  simp only [hmem]

section After

variable {live : SortedMap Nat π}

/-- One announcement, after all that has happened before. -/
theorem announces {moves : List (Move π)}
    (hone : ∀ r i j, .begin i r ∈ moves → .begin j r ∈ moves → i = j) (id : ConnectionId)
    (change : ChangeSet) :
    Announces (Addressed live moves id) (moves.countP Move.isWatch) id change (after live moves)
      ((after live moves).notify id change) := by
  have hc : ∀ j, (((after live moves).coordinator.markCommitted id).slots.get? j).map
      (·.participant) = Move.latest? j moves := fun j =>
    (Coordinator.participant_markCommitted _ id j).trans (participant_after live moves j)
  have hmem := mem_audience_iff live moves hc id
  have hnodup := audience_nodup_of_latest moves hc hone (after live moves).live id
  have hlisteners : ((after live moves).coordinator.markCommitted id).listeners =
      moves.countP Move.isWatch := by
    rw [Coordinator.markCommitted_eq]
    exact listeners_after live moves
  rw [notify_eq, ← hlisteners]
  refine ⟨⟨_, hnodup, hmem, rfl⟩, fun r hr => ?_, fun r hr => ?_, fun j => ?_, ?_⟩
  · exact (System.get?_foldl_modify hnodup _ r).trans (if_pos ((hmem r).mpr hr))
  · exact (System.get?_foldl_modify hnodup _ r).trans (if_neg (mt (hmem r).mp hr))
  · exact Coordinator.get?_slots_markCommitted _ id j
  · rw [Coordinator.markCommitted_eq]

/-- What a participant has been told is what it was told before, and what was due to it since. -/
theorem filterMap_calls_after (r : Nat) (past rest : List (Move π))
    (hone : ∀ r i j, .begin i r ∈ past ++ rest → .begin j r ∈ past ++ rest → i = j) :
    (after live (past ++ rest)).calls.filterMap (Callback.toldTo? r) =
      (after live past).calls.filterMap (Callback.toldTo? r) ++ due live r past rest := by
  induction rest generalizing past with
  | nil => rw [List.append_nil, due, List.append_nil]
  | cons m rest ih =>
    have hsplit : past ++ m :: rest = past ++ [m] ++ rest := by simp
    have hstep : (after live (past ++ [m])).calls.filterMap (Callback.toldTo? r) =
        (after live past).calls.filterMap (Callback.toldTo? r) ++ owed live r past m := by
      rw [after_snoc]
      cases m with
      | notify id change =>
        exact (announces (fun r i j hi hj => hone r i j (List.mem_append_left _ hi)
          (List.mem_append_left _ hj)) id change).toldTo r
      | begin | finish | watch | drop | act => exact (List.append_nil _).symm
    rw [hsplit] at hone ⊢
    rw [ih _ hone, hstep, due, List.append_assoc]

end After

/-- Whatever has happened before, an announcement calls each participant once that is alive, tracks
its reads and was last registered under another name, and then each commit listener once. So each
participant has been told, in order, just what was announced under other names in such a time. -/
theorem announcements_reach_latest (live : SortedMap Nat π) (moves : List (Move π))
    (hone : ∀ r i j, .begin i r ∈ moves → .begin j r ∈ moves → i = j) :
    (∀ past id change rest, moves = past ++ .notify id change :: rest →
      Announces (Addressed live past id) (past.countP Move.isWatch) id change (after live past)
        (after live (past ++ [.notify id change]))) ∧
    (∀ r, (after live moves).calls.filterMap (Callback.toldTo? r) = due live r [] moves) ∧
    (∀ r, ((after live moves).live.get? r).isSome = true ↔
      (live.get? r).isSome = true ∧ .drop r ∉ moves) ∧
    ∀ (g : Gathering π) (change : ChangeSet),
      ((g.notify change.source change).coordinator, (g.notify change.source change).live) =
        (g.coordinator.markCommitted change.source).publish g.live change := by
  refine ⟨?_, fun r => ?_, alive_after live moves, notify_eq_publish⟩
  · rintro past id change rest rfl
    rw [after_snoc]
    exact announces (fun r i j hi hj => hone r i j (List.mem_append_left _ hi)
      (List.mem_append_left _ hj)) id change
  · rw [← List.nil_append moves, filterMap_calls_after r [] moves hone, List.nil_append]
    rfl

/-- Four recorders, of whom the third does not track its reads. -/
def recorders : SortedMap Nat Recorder :=
  .ofList [(1, ⟨true, []⟩), (2, ⟨true, []⟩), (3, ⟨false, []⟩), (4, ⟨true, []⟩)]

/-- The recorder of `b` is replaced between two announcements of `a`, and later let go. -/
def replacement : List (Move Recorder) :=
  let change : ChangeSet := ⟨"a", ∅, ∅⟩
  [.begin "a" 1, .begin "b" 2, .begin "c" 3, .watch, .notify "a" change, .begin "b" 4,
    .notify "a" change, .notify "d" ⟨"d", ∅, ∅⟩, .drop 4, .notify "a" change]

/-- A recorder is told of what others commit, until it is replaced or let go. -/
theorem replaced_recorder_is_left_out :
    (∀ r i j, .begin i r ∈ replacement → .begin j r ∈ replacement → i = j) ∧
      [1, 2, 3, 4].map (fun r => ((after recorders replacement).calls.filterMap
        (Callback.toldTo? r)).map (·.source)) = [["d"], ["a"], [], ["a", "d"]] := by
  have hone : ∀ r i j, .begin i r ∈ replacement → .begin j r ∈ replacement → i = j := by
    intro r i j hi hj
    simp only [replacement, List.mem_cons, Move.begin.injEq, reduceCtorEq, List.not_mem_nil]
      at hi hj
    grind
  refine ⟨hone, ?_⟩
  simp only [(announcements_reach_latest recorders replacement hone).2.1]
  decide +kernel

end Gathering

end QuadTxn
