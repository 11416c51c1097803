import Mathlib.Data.List.Induction
import QuadTxn.Proofs.Coordination.Books
import QuadTxn.Proofs.Runs.Effects

/-!
# Gatherings

A coordinator and the participants that are alive make a gathering. Participants of any kind are
registered under names, released, let go, and change by themselves; change sets are announced under
any name, be it registered or not. An announcement is made call by call, first to the participants
and then to the commit listeners, and the gathering keeps account of the calls
(`Gathering.notify`). Announced under the name of its source, a change set is published as
`Coordinator.publish` does it (`Gathering.notify_eq_publish`).

What a gathering is like is told by what has happened in it: who was last registered under a name
(`Move.latest?`), how many listeners were added, and who was let go.
-/

namespace QuadTxn

/-- A call that a coordinator makes when it announces a change set. -/
inductive Callback where
  /-- a participant is told of a change set -/
  | changed (participant : Nat) (change : ChangeSet)
  /-- a commit listener is told of a change set -/
  | committed (listener : Nat) (change : ChangeSet)

/-- What a participant is told in a call, if it is the one that is called. -/
def Callback.toldTo? (r : Nat) : Callback → Option ChangeSet
  | .changed participant change => if participant = r then some change else none
  | .committed .. => none

/-- Something that happens in a gathering. -/
inductive Move (π : Type) where
  /-- a participant is registered under a name -/
  | begin (id : ConnectionId) (participant : Nat)
  /-- the slot of a name is released -/
  | finish (id : ConnectionId)
  /-- a change set is announced under a name -/
  | notify (id : ConnectionId) (change : ChangeSet)
  /-- a commit listener is added -/
  | watch
  /-- a participant is let go -/
  | drop (participant : Nat)
  /-- a participant changes by itself -/
  | act (participant : Nat) (f : π → π)

namespace Move

variable {π : Type}

/-- Whether a commit listener is added. -/
def isWatch : Move π → Bool
  | .watch => true
  | _ => false

/-- The participant under a name, given the one before. -/
def holder? (id : ConnectionId) (former : Option Nat) : Move π → Option Nat
  | .begin j r => if j = id then some r else former
  | .finish j => if j = id then none else former
  | _ => former

/-- The participant that was last registered under a name, unless the name was released since. -/
def latest? (id : ConnectionId) (moves : List (Move π)) : Option Nat :=
  moves.foldl (holder? id) none

theorem latest?_snoc (id : ConnectionId) (moves : List (Move π)) (m : Move π) :
    latest? id (moves ++ [m]) = m.holder? id (latest? id moves) := by
  rw [latest?, List.foldl_append]
  rfl

/-- Who holds a name was registered under it. -/
theorem mem_of_latest? {id : ConnectionId} {moves : List (Move π)} {r : Nat}
    (h : latest? id moves = some r) : .begin id r ∈ moves := by
  induction moves using List.reverseRecOn with
  | nil => cases h
  | append_singleton moves m ih =>
    rw [latest?_snoc] at h
    have hformer : latest? id moves = some r → .begin id r ∈ moves ++ [m] := fun hr =>
      List.mem_append_left _ (ih hr)
    cases m with
    | begin j r' =>
      by_cases hj : j = id
      · rw [holder?, if_pos hj] at h
        obtain rfl := Option.some.inj h
        rw [hj]
        exact List.mem_append_right _ List.mem_cons_self
      · rw [holder?, if_neg hj] at h
        exact hformer h
    | finish j =>
      by_cases hj : j = id
      · rw [holder?, if_pos hj] at h
        cases h
      · rw [holder?, if_neg hj] at h
        exact hformer h
    | notify | watch | drop | act => exact hformer h

end Move

/-- A coordinator, the participants that are alive, and the calls that were made to them. -/
structure Gathering (π : Type) where
  /-- the coordinator, which knows participants by number -/
  coordinator : Coordinator Nat
  /-- the participants that are alive, by number -/
  live : SortedMap Nat π
  /-- the calls that the coordinator has made, in order -/
  calls : List Callback

namespace Gathering

variable {π : Type} [Participant π]

omit [Participant π] in
/-- Participants of whom none is registered yet. -/
def start (live : SortedMap Nat π) : Gathering π := ⟨.new, live, []⟩

/-- One call is made. -/
def make (g : Gathering π) (c : Callback) : Gathering π :=
  match c with
  | .changed r change =>
    { g with live := g.live.modify r (Participant.changed change), calls := g.calls ++ [c] }
  | .committed i change =>
    { g with
      coordinator := { g.coordinator with told := g.coordinator.told ++ [(i, change)] }
      calls := g.calls ++ [c] }

/-- The calls to be made for a change set that is announced under a name. -/
def callbacks (g : Gathering π) (id : ConnectionId) (change : ChangeSet) : List Callback :=
  (g.coordinator.audience g.live id).map (.changed · change) ++
    (List.range g.coordinator.listeners).map (.committed · change)

/-- Announce a change set under a name: mark the slot of the name, and make the calls. -/
def notify (g : Gathering π) (id : ConnectionId) (change : ChangeSet) : Gathering π :=
  let marked := { g with coordinator := g.coordinator.markCommitted id }
  (marked.callbacks id change).foldl make marked

/-- What becomes of a gathering. -/
def step (g : Gathering π) : Move π → Gathering π
  | .begin id r => { g with coordinator := g.coordinator.begin id r }
  | .finish id => { g with coordinator := g.coordinator.finish id }
  | .notify id change => g.notify id change
  | .watch => { g with coordinator := g.coordinator.watch }
  | .drop r => { g with live := g.live.erase r }
  | .act r f => { g with live := g.live.modify r f }

/-- The gathering of some participants after all that has happened in it. -/
def after (live : SortedMap Nat π) (moves : List (Move π)) : Gathering π :=
  moves.foldl step (start live)

theorem after_snoc (live : SortedMap Nat π) (moves : List (Move π)) (m : Move π) :
    after live (moves ++ [m]) = (after live moves).step m := by
  rw [after, List.foldl_append]
  rfl

/-! ## Announcements -/

theorem foldl_make_changed (g : Gathering π) (change : ChangeSet) (rs : List Nat) :
    (rs.map (.changed · change)).foldl make g =
      { g with
        live := rs.foldl (fun m r => m.modify r (Participant.changed change)) g.live
        calls := g.calls ++ rs.map (.changed · change) } := by
  induction rs generalizing g with
  | nil => simp
  | cons r rs ih => simp [make, ih]

theorem foldl_make_committed (g : Gathering π) (change : ChangeSet) (is : List Nat) :
    (is.map (.committed · change)).foldl make g =
      { g with
        coordinator :=
          { g.coordinator with told := g.coordinator.told ++ is.map fun i => (i, change) }
        calls := g.calls ++ is.map (.committed · change) } := by
  induction is generalizing g with
  | nil => simp
  | cons i is ih => simp [make, ih]

/-- All that an announcement changes. -/
theorem notify_eq (g : Gathering π) (id : ConnectionId) (change : ChangeSet) :
    g.notify id change =
      let c := g.coordinator.markCommitted id
      { coordinator :=
          { c with told := c.told ++ (List.range c.listeners).map fun i => (i, change) }
        live := (c.audience g.live id).foldl
          (fun m r => m.modify r (Participant.changed change)) g.live
        calls := g.calls ++ ((c.audience g.live id).map (.changed · change) ++
          (List.range c.listeners).map (.committed · change)) } := by
  rw [notify, callbacks, List.foldl_append, foldl_make_changed, foldl_make_committed]
  simp

/-- Announced under the name of its source, a change set is published. -/
theorem notify_eq_publish (g : Gathering π) (change : ChangeSet) :
    ((g.notify change.source change).coordinator, (g.notify change.source change).live) =
      (g.coordinator.markCommitted change.source).publish g.live change := by
  rw [notify_eq]
  rfl

/-! ## What a gathering is like -/

section After

variable (live : SortedMap Nat π) (moves : List (Move π))

/-- The slot of a name is held by the participant that was last registered under it. -/
theorem participant_after (id : ConnectionId) :
    ((after live moves).coordinator.slots.get? id).map (·.participant) =
      Move.latest? id moves := by
  induction moves using List.reverseRecOn with
  | nil => rfl
  | append_singleton moves m ih =>
    rw [after_snoc, Move.latest?_snoc, ← ih]
    cases m with
    | begin j r =>
      rw [step, Coordinator.get?_slots_begin, Move.holder?]
      by_cases hj : id = j
      · rw [if_pos hj, if_pos hj.symm]
        rfl
      · rw [if_neg hj, if_neg (Ne.symm hj)]
    | finish j =>
      rw [step, Coordinator.get?_slots_finish, Move.holder?]
      by_cases hj : id = j
      · rw [if_pos hj, if_pos hj.symm]
        rfl
      · rw [if_neg hj, if_neg (Ne.symm hj)]
    | notify j change =>
      rw [step, notify_eq]
      exact Coordinator.participant_markCommitted _ j id
    | watch | drop | act => rfl

theorem listeners_after :
    (after live moves).coordinator.listeners = moves.countP Move.isWatch := by
  induction moves using List.reverseRecOn with
  | nil => rfl
  | append_singleton moves m ih =>
    rw [after_snoc, List.countP_append, ← ih]
    cases m with
    | finish j =>
      rw [step, Coordinator.finish]
      split <;> rfl
    | notify j change =>
      rw [step, notify_eq]
      change ((after live moves).coordinator.markCommitted j).listeners = _
      rw [Coordinator.markCommitted_eq]
      rfl
    | begin | watch | drop | act => rfl

/-- The participants that are alive are those that have not been let go. -/
theorem alive_after (r : Nat) : ((after live moves).live.get? r).isSome = true ↔
    (live.get? r).isSome = true ∧ .drop r ∉ moves := by
  induction moves using List.reverseRecOn with
  | nil => simp [after, start]
  | append_singleton moves m ih =>
    rw [after_snoc, List.mem_append, not_or, ← and_assoc, ← ih, List.mem_singleton]
    cases m with
    | drop r' =>
      rw [step, SortedMap.get?_erase]
      by_cases hr : r = r'
      · simp [hr]
      · simp [hr]
    | act r' f =>
      have hsame := (after live moves).live.isSome_get?_foldl_modify [r'] f r
      simpa [step] using hsame
    | notify j change =>
      -- those that are told of a change set stay alive
      rw [step, notify_eq, SortedMap.isSome_get?_foldl_modify]
      simp
    | begin | finish | watch => simp [step]

/-! ## Who is addressed -/

/-- The participant is alive, tracks its reads, and was last registered under a name other than the
given one. -/
def Addressed (id : ConnectionId) (r : Nat) : Prop :=
  ∃ j, j ≠ id ∧ Move.latest? j moves = some r ∧
    ∃ p, (after live moves).live.get? r = some p ∧ Participant.tracksReads p = true

/-- Announcements are made to those who are addressed. -/
theorem mem_audience_iff {c : Coordinator Nat}
    (hc : ∀ j, (c.slots.get? j).map (·.participant) = Move.latest? j moves) (id : ConnectionId)
    (r : Nat) : r ∈ c.audience (after live moves).live id ↔ Addressed live moves id r := by
  rw [Coordinator.audience, List.mem_filter, List.mem_map]
  constructor
  · rintro ⟨⟨⟨j, slot⟩, he, rfl⟩, htracks⟩
    obtain ⟨hmem, hne⟩ := List.mem_filter.mp he
    have hslot : c.slots.get? j = some slot := SortedMap.get?_eq_some_iff.mpr hmem
    refine ⟨j, by simpa using hne, ?_, ?_⟩
    · rw [← hc, hslot]
      rfl
    · simpa [Option.any_eq_true] using htracks
  · rintro ⟨j, hne, hlatest, p, hp, htracks⟩
    rw [← hc] at hlatest
    obtain ⟨slot, hslot, rfl⟩ := Option.map_eq_some_iff.mp hlatest
    have hmem := SortedMap.get?_eq_some_iff.mp hslot
    refine ⟨⟨(j, slot), List.mem_filter.mpr ⟨hmem, by simpa using hne⟩, rfl⟩, ?_⟩
    simp [hp, htracks]

instance (id : ConnectionId) (r : Nat) : Decidable (Addressed live moves id r) :=
  decidable_of_iff _ (mem_audience_iff live moves (participant_after live moves) id r)

/-- A participant that is registered under one name only is addressed once. -/
theorem audience_nodup_of_latest {c : Coordinator Nat}
    (hc : ∀ j, (c.slots.get? j).map (·.participant) = Move.latest? j moves)
    (hone : ∀ r i j, .begin i r ∈ moves → .begin j r ∈ moves → i = j) (m : SortedMap Nat π)
    (id : ConnectionId) : (c.audience m id).Nodup := by
  have hheld : ∀ e ∈ c.slots.entries, .begin e.1 e.2.participant ∈ moves := by
    intro e he
    refine Move.mem_of_latest? ?_
    rw [← hc, SortedMap.get?_eq_some_iff.mpr he]
    rfl
  rw [Coordinator.audience]
  refine List.Pairwise.filter _ (List.pairwise_map.mpr ?_)
  refine List.Pairwise.imp_of_mem ?_ (c.slots.sorted.filter _)
  intro e f he hf hlt heq
  -- entries with the same participant would be entries of the same name
  have hname := hone _ _ _ (hheld e (List.mem_filter.mp he).1)
    (heq ▸ hheld f (List.mem_filter.mp hf).1)
  rw [hname] at hlt
  simp [Std.ReflCmp.compare_self] at hlt

/-- What a participant is to be told in a move, after others: a change set that is announced, if it
is addressed. -/
def owed (r : Nat) (past : List (Move π)) : Move π → List ChangeSet
  | .notify id change => if Addressed live past id r then [change] else []
  | _ => []

/-- What a participant is to be told in the course of some moves, after others. -/
def due (r : Nat) (past : List (Move π)) : List (Move π) → List ChangeSet
  | [] => []
  | m :: rest => owed live r past m ++ due r (past ++ [m]) rest

end After

end Gathering

end QuadTxn
