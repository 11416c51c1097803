import QuadTxn.Proofs.Calls.Native
import QuadTxn.Proofs.Guarantees.Views

/-!
# The last write wins

A caller asks a staging area for the batches of kinds, and stages additions and removals into them.
Whatever batch it goes to, the last staging of a statement decides whether the statement is to be
added or to be removed (`Staging.last_staging_wins`). So the batches can be written in any order,
and the view is what comes of it.

The argument goes by the calls one after the other (`Staging.Tracks`): a staging takes its statement
off the other side of every batch, and no call touches the kind of a batch.
-/

namespace QuadTxn

namespace Staging

/-! ## What a caller does -/

/-- A call of a staging area, with the position that is answered where one is. -/
inductive Event where
  /-- the batch of a kind is asked for, and is at a position -/
  | asked (kind : BatchKind) (i : Nat)
  /-- an addition is staged into the batch at a position -/
  | added (i : Nat) (s : Statement)
  /-- a removal is staged into the batch at a position -/
  | removed (i : Nat) (s : Statement)
  /-- everything is discarded -/
  | cleared

/-- The calls since the area was last cleared. -/
def sinceCleared (es : List Event) : List Event :=
  es.foldl (fun es e => match e with
    | .cleared => []
    | e => es ++ [e]) []

/-- A sequence of calls of a new staging area, and what it makes of the area. Writes are staged only
into positions that were answered since the area was last cleared. -/
inductive Played : List Event → Staging → Prop where
  /-- nothing has been called -/
  | start : Played [] ∅
  /-- a kind is looked up -/
  | ask {es : List Event} {g : Staging} (h : Played es g) (kind : BatchKind) :
    Played (es ++ [.asked kind (g.idFor kind).1]) (g.idFor kind).2
  /-- an addition is staged -/
  | add {es : List Event} {g : Staging} (h : Played es g) {kind : BatchKind} {i : Nat}
    (hi : .asked kind i ∈ sinceCleared es) (s : Statement) :
    Played (es ++ [.added i s]) (g.stageAdd i s)
  /-- a removal is staged -/
  | remove {es : List Event} {g : Staging} (h : Played es g) {kind : BatchKind} {i : Nat}
    (hi : .asked kind i ∈ sinceCleared es) (s : Statement) :
    Played (es ++ [.removed i s]) (g.stageRemove i s)
  /-- the area is cleared -/
  | clear {es : List Event} {g : Staging} (h : Played es g) : Played (es ++ [.cleared]) ∅

/-- The write that a call stages, if it stages one. -/
def Event.write? : Event → Option Write
  | .added _ s => some (.add s)
  | .removed _ s => some (.remove s)
  | .asked _ _ | .cleared => none

/-- The writes that were staged since the area was last cleared. -/
def staged (es : List Event) : List Write := (sinceCleared es).filterMap Event.write?

/-- The last staged write of a statement. -/
def lastStaged? (es : List Event) (s : Statement) : Option Write :=
  (staged es).reverse.find? fun w => w = .add s ∨ w = .remove s

section Events

variable (es : List Event) (s t : Statement) (i : Nat)

theorem sinceCleared_cleared : sinceCleared (es ++ [.cleared]) = [] := by
  rw [sinceCleared, List.foldl_append]
  rfl

theorem sinceCleared_snoc {e : Event} (he : e ≠ .cleared) :
    sinceCleared (es ++ [e]) = sinceCleared es ++ [e] := by
  rw [sinceCleared, List.foldl_append]
  cases e with
  | cleared => exact absurd rfl he
  | _ => rfl

theorem staged_asked (kind : BatchKind) : staged (es ++ [.asked kind i]) = staged es := by
  rw [staged, sinceCleared_snoc es Event.noConfusion, List.filterMap_append]
  exact List.append_nil _

theorem staged_write {e : Event} {w : Write} (hw : e.write? = some w) :
    staged (es ++ [e]) = staged es ++ [w] := by
  have he : e ≠ .cleared := fun heq => by
    rw [heq] at hw
    cases hw
  rw [staged, sinceCleared_snoc es he, List.filterMap_append, List.filterMap_cons_some hw]
  rfl

theorem lastStaged?_asked (kind : BatchKind) :
    lastStaged? (es ++ [.asked kind i]) s = lastStaged? es s := by
  rw [lastStaged?, staged_asked]
  rfl

theorem lastStaged?_added :
    lastStaged? (es ++ [.added i t]) s = if s = t then some (.add t) else lastStaged? es s := by
  rw [lastStaged?, staged_write es rfl, List.reverse_append]
  by_cases h : s = t
  · simp [h]
  · simp [h, Ne.symm h, lastStaged?]

theorem lastStaged?_removed :
    lastStaged? (es ++ [.removed i t]) s =
      if s = t then some (.remove t) else lastStaged? es s := by
  rw [lastStaged?, staged_write es rfl, List.reverse_append]
  by_cases h : s = t
  · simp [h]
  · simp [h, Ne.symm h, lastStaged?]

end Events

/-! ## What the calls keep up -/

/-- A staging area after some calls: it holds each kind where it was answered to be, once, and each
statement on the side on which it was last staged. -/
structure Tracks (es : List Event) (g : Staging) : Prop where
  /-- a position that was answered is that of the kind -/
  answered : ∀ kind i, .asked kind i ∈ sinceCleared es → g.kinds[i]? = some kind
  /-- there is one batch of a kind -/
  distinct : g.kinds.Nodup
  /-- a statement is to be added if that was staged last -/
  isAdded_iff : ∀ s, g.isAdded s = true ↔ lastStaged? es s = some (.add s)
  /-- a statement is to be removed if that was staged last -/
  isRemoved_iff : ∀ s, g.isRemoved s = true ↔ lastStaged? es s = some (.remove s)

namespace Tracks

variable {es : List Event} {g : Staging}

theorem empty (hnone : sinceCleared es = []) : Tracks es ∅ where
  answered kind i h := by
    rw [hnone] at h
    cases h
  distinct := .nil
  isAdded_iff s := by simp [lastStaged?, staged, hnone]
  isRemoved_iff s := by simp [lastStaged?, staged, hnone]

theorem ask (h : Tracks es g) (kind : BatchKind) :
    Tracks (es ++ [.asked kind (g.idFor kind).1]) (g.idFor kind).2 := by
  obtain ⟨hkind, ⟨rest, hrest⟩, hdistinct⟩ := g.kinds_idFor kind
  obtain ⟨-, hadded, hremoved⟩ := g.idFor_spec kind
  refine ⟨?_, hdistinct h.distinct, ?_, ?_⟩
  · intro kind' i hi
    rw [sinceCleared_snoc es Event.noConfusion, List.mem_append, List.mem_singleton] at hi
    rcases hi with hi | hi
    · -- a batch that is missing is put at the end, so that no position moves
      have hat := h.answered kind' i hi
      obtain ⟨hlt, -⟩ := List.getElem?_eq_some_iff.mp hat
      rw [← hrest, List.getElem?_append_left hlt, hat]
    · cases hi
      exact hkind
  · intro s
    rw [hadded, h.isAdded_iff, lastStaged?_asked]
  · intro s
    rw [hremoved, h.isRemoved_iff, lastStaged?_asked]

/-- A position that was answered is that of a batch. -/
theorem lt_length (h : Tracks es g) {kind : BatchKind} {i : Nat}
    (hi : .asked kind i ∈ sinceCleared es) : i < g.batches.length := by
  obtain ⟨hlt, -⟩ := List.getElem?_eq_some_iff.mp (h.answered kind i hi)
  rwa [kinds, List.length_map] at hlt

theorem add (h : Tracks es g) {kind : BatchKind} {i : Nat}
    (hi : .asked kind i ∈ sinceCleared es) (s : Statement) :
    Tracks (es ++ [.added i s]) (g.stageAdd i s) := by
  have hlt := h.lt_length hi
  refine ⟨?_, ?_, ?_, ?_⟩
  · intro kind' j hj
    rw [sinceCleared_snoc es Event.noConfusion, List.mem_append, List.mem_singleton] at hj
    rw [kinds_stageAdd]
    exact h.answered kind' j (hj.resolve_right nofun)
  · rw [kinds_stageAdd]
    exact h.distinct
  · intro t
    rw [isAdded_stageAdd hlt, lastStaged?_added, h.isAdded_iff]
    by_cases heq : t = s <;> simp [heq]
  · intro t
    rw [isRemoved_stageAdd hlt, lastStaged?_added, h.isRemoved_iff]
    by_cases heq : t = s <;> simp [heq]

theorem remove (h : Tracks es g) {kind : BatchKind} {i : Nat}
    (hi : .asked kind i ∈ sinceCleared es) (s : Statement) :
    Tracks (es ++ [.removed i s]) (g.stageRemove i s) := by
  have hlt := h.lt_length hi
  refine ⟨?_, ?_, ?_, ?_⟩
  · intro kind' j hj
    rw [sinceCleared_snoc es Event.noConfusion, List.mem_append, List.mem_singleton] at hj
    rw [kinds_stageRemove]
    exact h.answered kind' j (hj.resolve_right nofun)
  · rw [kinds_stageRemove]
    exact h.distinct
  · intro t
    rw [isAdded_stageRemove hlt, lastStaged?_removed, h.isAdded_iff]
    by_cases heq : t = s <;> simp [heq]
  · intro t
    rw [isRemoved_stageRemove hlt, lastStaged?_removed, h.isRemoved_iff]
    by_cases heq : t = s <;> simp [heq]

theorem of_played (h : Played es g) : Tracks es g := by
  induction h with
  | start => exact empty rfl
  | ask _ kind ih => exact ih.ask kind
  | add _ hi s ih => exact ih.add hi s
  | remove _ hi s ih => exact ih.remove hi s
  | clear => exact empty (sinceCleared_cleared _)

/-- The last staging cannot have been both, so no statement is pending on both sides. -/
theorem consistent (h : Tracks es g) : g.Consistent := by
  intro s hs
  rw [← Bool.not_eq_true, h.isRemoved_iff, (h.isAdded_iff s).mp hs]
  exact nofun

/-- Two positions that were answered are the same exactly if the kinds are. -/
theorem position_iff (h : Tracks es g) {kind kind' : BatchKind} {i i' : Nat}
    (hi : .asked kind i ∈ sinceCleared es) (hi' : .asked kind' i' ∈ sinceCleared es) :
    i = i' ↔ kind = kind' := by
  have hat := h.answered kind i hi
  have hat' := h.answered kind' i' hi'
  constructor
  · rintro rfl
    exact Option.some.inj (hat.symm.trans hat')
  · rintro rfl
    obtain ⟨hlt, -⟩ := List.getElem?_eq_some_iff.mp hat
    exact (List.getElem?_inj hlt h.distinct).mp (hat.trans hat'.symm)

end Tracks

/-! ## What there is to write -/

/-- A staging area is settled by the last stagings: these decide on which side each statement is
pending, and nothing else matters for what is written and for what is seen. -/
structure Decided (es : List Event) (g : Staging) : Prop where
  /-- a kind has one position, and no other kind has it -/
  position_iff : ∀ {kind kind' i i'}, .asked kind i ∈ sinceCleared es →
    .asked kind' i' ∈ sinceCleared es → (i = i' ↔ kind = kind')
  /-- there the batch of the kind is -/
  kind_at : ∀ {kind i}, .asked kind i ∈ sinceCleared es →
    ∃ b, g.batches[i]? = some b ∧ b.kind = kind
  /-- a statement is to be added exactly if it was last staged to be -/
  mem_added : ∀ s, s ∈ g.added ↔ lastStaged? es s = some (.add s)
  /-- a statement is to be removed exactly if it was last staged to be -/
  mem_removed : ∀ s, g.isRemoved s = true ↔ lastStaged? es s = some (.remove s)
  /-- no statement is pending on both sides, in whichever two batches -/
  apart : ∀ b ∈ g.batches, ∀ b' ∈ g.batches, ∀ s ∈ b.adds, s ∉ b'.removes
  /-- in whatever order the batches are written, the result is the same -/
  written : ∀ (m : Model) (bs : List Batch), bs.Perm g.batches →
    m.replay (bs.flatMap Batch.writes) = (m.diff g.removed).insertMany g.added.toList
  /-- so it is when they are written in a native transaction -/
  flushed : ∀ (st : Frame Session) (bs : List Batch), st.self.session.Open → bs.Perm g.batches →
    (bs.foldl Frame.storeBatch st).visible.statements =
      (st.visible.statements.diff g.removed).insertMany g.added.toList
  /-- this is what the view lists when it is asked for everything -/
  seen : ∀ m : Model, g.onTopOf (m := Except StoreError) (fun p => .ok (m.select p)) .any =
    .ok ((m.diff g.removed).insertMany g.added.toList).toList
  /-- and of this it lists what a pattern selects, in order and without repeats -/
  listed : ∀ (m : Model) (p : Pattern), ∃ l,
    g.onTopOf (m := Except StoreError) (fun p => .ok (m.select p)) p = .ok l ∧
      Model.Lists ((m.diff g.removed).insertMany g.added.toList) p l

/-- In whichever batches the writes of a statement are staged, the last one of them wins. -/
theorem last_staging_wins {es : List Event} {g : Staging} (h : Played es g) : Decided es g := by
  have htracks := Tracks.of_played h
  have hlisted : ∀ (m : Model) (p : Pattern),
      g.onTopOf (m := Except StoreError) (fun p => .ok (m.select p)) p =
        .ok ((g.onto m).select p) := by
    intro m p
    rw [← overlay_select]
    rfl
  refine ⟨htracks.position_iff, ?_, ?_, htracks.isRemoved_iff,
    consistent_iff.mp htracks.consistent, ?_, ?_, ?_, ?_⟩
  · intro kind i hi
    have hat := htracks.answered kind i hi
    rw [kinds, List.getElem?_map] at hat
    exact Option.map_eq_some_iff.mp hat
  · intro s
    rw [mem_added, htracks.isAdded_iff]
  · intro m bs hperm
    rw [htracks.consistent.replay_perm hperm, onto_eq]
  · intro st bs hopen hperm
    rw [Frame.foldl_storeBatch, Frame.visible_foldl_writeNative hopen,
      htracks.consistent.replay_perm hperm, onto_eq]
  · intro m
    rw [hlisted, Model.select_any, onto_eq]
  · intro m p
    refine ⟨_, hlisted m p, ?_⟩
    rw [← onto_eq]
    exact Model.lists_select _ p

/-- An addition and a later removal of one statement, staged into two batches: the removal wins. -/
theorem later_removal_wins :
    let s : Statement := ⟨.iri "s", .iri "p", .iri "o", none⟩
    let update : BatchKind := .update "INSERT" [] ∅
    let es : List Event := [.asked .explicit 0, .asked update 1, .added 1 s, .removed 0 s]
    ∃ g, Played es g ∧ Decided es g ∧ s ∉ g.added ∧ g.isRemoved s = true := by
  intro s update es
  have hplayed : Played es _ :=
    (((Played.start.ask .explicit).ask update).add (List.mem_cons_of_mem _ List.mem_cons_self) s
      ).remove List.mem_cons_self s
  have hdecided := last_staging_wins hplayed
  refine ⟨_, hplayed, hdecided, ?_, ?_⟩
  · rw [hdecided.mem_added]
    decide +kernel
  · rw [hdecided.mem_removed]
    decide +kernel

end Staging

end QuadTxn
