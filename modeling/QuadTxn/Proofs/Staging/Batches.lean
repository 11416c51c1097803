import QuadTxn.Proofs.Staging.View
import Mathlib.Data.List.Basic

/-!
# Batches of staged writes

The writes of a batch are its removals, then its additions (`Batch.writes`). The batches of a
staging area can be written in any order, as long as no statement is pending on both sides in any
two of them: the result is the view (`Staging.Consistent.replay_perm`).

There is one batch of a kind, and it keeps its position (`Staging.kinds_idFor`).
-/

namespace QuadTxn

/-- The writes of a batch, in the order in which they are done: the removals, then the additions. -/
def Batch.writes (b : Batch) : List Write :=
  b.removes.toList.map Write.remove ++ b.adds.toList.map Write.add

namespace Model

theorem mem_replay_removes {m : Model} {l : List Statement} {s : Statement} :
    s ∈ m.replay (l.map Write.remove) ↔ s ∈ m ∧ s ∉ l := by
  induction l generalizing m with
  | nil => simp
  | cons t l ih =>
    refine (ih (m := m.apply (.remove t))).trans ?_
    rw [mem_apply_remove, List.mem_cons, not_or, and_assoc]

theorem mem_replay_adds {m : Model} {l : List Statement} {s : Statement} :
    s ∈ m.replay (l.map Write.add) ↔ s ∈ m ∨ s ∈ l := by
  induction l generalizing m with
  | nil => simp
  | cons t l ih =>
    refine (ih (m := m.apply (.add t))).trans ?_
    rw [mem_apply_add, List.mem_cons, or_comm (a := s = t), or_assoc]

theorem mem_replay_batch {m : Model} {b : Batch} {s : Statement} :
    s ∈ m.replay b.writes ↔ (s ∈ m ∧ s ∉ b.removes) ∨ s ∈ b.adds := by
  rw [Batch.writes, replay_append, mem_replay_adds, mem_replay_removes]
  rfl

/-- Batches that never have a statement on both sides can be written one after the other. -/
theorem mem_replay_batches {bs : List Batch} {s : Statement}
    (hbs : (∃ b ∈ bs, s ∈ b.adds) → ∀ b ∈ bs, s ∉ b.removes) {m : Model} :
    s ∈ m.replay (bs.flatMap Batch.writes) ↔
      (s ∈ m ∧ ∀ b ∈ bs, s ∉ b.removes) ∨ ∃ b ∈ bs, s ∈ b.adds := by
  induction bs generalizing m with
  | nil => simp
  | cons b bs ih =>
    have hrest : (∃ b ∈ bs, s ∈ b.adds) → ∀ b ∈ bs, s ∉ b.removes := by
      rintro ⟨b', hb', hs⟩ b'' hb''
      exact hbs ⟨b', List.mem_cons_of_mem _ hb', hs⟩ b'' (List.mem_cons_of_mem _ hb'')
    -- no later batch takes out what this one adds
    have hhead : s ∈ b.adds → ∀ b' ∈ bs, s ∉ b'.removes := fun hs b' hb' =>
      hbs ⟨b, List.mem_cons_self, hs⟩ b' (List.mem_cons_of_mem _ hb')
    rw [List.flatMap_cons, replay_append, ih hrest, mem_replay_batch]
    simp only [List.mem_cons, forall_eq_or_imp, exists_eq_or_imp]
    constructor
    · rintro (⟨⟨hs, hb⟩ | hb, hall⟩ | hany)
      · exact .inl ⟨hs, hb, hall⟩
      · exact .inr (.inl hb)
      · exact .inr (.inr hany)
    · rintro (⟨hs, hb, hall⟩ | hb | hany)
      · exact .inl ⟨.inl ⟨hs, hb⟩, hall⟩
      · exact .inl ⟨.inr hb, hhead hb⟩
      · exact .inr hany

end Model

namespace Staging

variable {g : Staging} {s : Statement}

theorem mem_added : s ∈ g.added ↔ g.isAdded s = true := by
  rw [added, SortedSet.mem_ofList, List.mem_flatMap, isAdded_iff]
  rfl

theorem mem_removed : s ∈ g.removed ↔ g.isRemoved s = true := by
  rw [removed, SortedSet.mem_ofList, List.mem_flatMap, isRemoved_iff]
  rfl

/-- The view is what the store holds, less what is to be removed, with what is to be added. -/
theorem onto_eq (g : Staging) (m : Model) :
    g.onto m = (m.diff g.removed).insertMany g.added.toList := by
  ext s
  rw [mem_onto, SortedSet.mem_insertMany, SortedSet.mem_diff, ← SortedSet.mem_def, mem_added,
    mem_removed, Bool.not_eq_true]

/-- No statement is pending on both sides, in whichever two batches. -/
theorem consistent_iff :
    g.Consistent ↔ ∀ b ∈ g.batches, ∀ b' ∈ g.batches, ∀ s ∈ b.adds, s ∉ b'.removes := by
  constructor
  · intro h b hb b' hb' s hs hs'
    have hremoved := h s (isAdded_iff.mpr ⟨b, hb, hs⟩)
    rw [isRemoved_iff.mpr ⟨b', hb', hs'⟩] at hremoved
    cases hremoved
  · intro h s hs
    obtain ⟨b, hb, hs⟩ := isAdded_iff.mp hs
    rw [← Bool.not_eq_true, isRemoved_iff]
    rintro ⟨b', hb', hs'⟩
    exact h b hb b' hb' s hs hs'

/-- The batches can be written in any order, and the result is the view. -/
theorem Consistent.replay_perm (h : g.Consistent) {bs : List Batch} (hperm : bs.Perm g.batches)
    (m : Model) : m.replay (bs.flatMap Batch.writes) = g.onto m := by
  ext s
  have hsides : (∃ b ∈ bs, s ∈ b.adds) → ∀ b ∈ bs, s ∉ b.removes := by
    rintro ⟨b, hb, hs⟩ b' hb'
    exact consistent_iff.mp h b (hperm.mem_iff.mp hb) b' (hperm.mem_iff.mp hb') s hs
  rw [Model.mem_replay_batches hsides, mem_onto, isAdded_iff, ← Bool.not_eq_true, isRemoved_iff]
  simp [hperm.mem_iff]

/-! ## Positions and kinds -/

/-- The kinds of the batches, each at the position of its batch. -/
def kinds (g : Staging) : List BatchKind := g.batches.map (·.kind)

/-- A batch that is changed keeps its kind, if the change keeps it. -/
private theorem map_kind_modify {change : Batch → Batch} (hkeeps : ∀ b, (change b).kind = b.kind)
    (bs : List Batch) (i : Nat) : (bs.modify i change).map (·.kind) = bs.map (·.kind) := by
  refine List.ext_getElem? fun j => ?_
  rw [List.getElem?_map, List.getElem?_modify, List.getElem?_map]
  rcases bs[j]? with _ | b
  · rfl
  · by_cases hij : i = j <;> simp [hij, hkeeps]

theorem kinds_stageAdd (g : Staging) (i : Nat) (s : Statement) :
    (g.stageAdd i s).kinds = g.kinds := by
  simp [kinds, stageAdd, map_kind_modify, Function.comp_def]

theorem kinds_stageRemove (g : Staging) (i : Nat) (s : Statement) :
    (g.stageRemove i s).kinds = g.kinds := by
  simp [kinds, stageRemove, map_kind_modify, Function.comp_def]

/-- Looking a kind up gives the position of its batch; a batch that is missing is put at the end. -/
theorem kinds_idFor (g : Staging) (kind : BatchKind) :
    (g.idFor kind).2.kinds[(g.idFor kind).1]? = some kind ∧
      (g.kinds <+: (g.idFor kind).2.kinds) ∧
      (g.kinds.Nodup → (g.idFor kind).2.kinds.Nodup) := by
  rw [idFor]
  split
  · rename_i i hi
    obtain ⟨hlt, hkind, -⟩ := List.findIdx?_eq_some_iff_getElem.mp hi
    refine ⟨?_, List.prefix_refl _, id⟩
    rw [kinds, List.getElem?_map, List.getElem?_eq_getElem hlt, Option.map_some,
      of_decide_eq_true hkind]
  · rename_i hnone
    have hnew : kind ∉ g.kinds := by
      intro hmem
      obtain ⟨b, hb, rfl⟩ := List.mem_map.mp hmem
      exact of_decide_eq_false (List.findIdx?_eq_none_iff.mp hnone b hb) rfl
    have hkinds : (Staging.mk (g.batches ++ [⟨kind, ∅, ∅⟩])).kinds = g.kinds ++ [kind] :=
      List.map_append
    rw [hkinds]
    refine ⟨?_, List.prefix_append _ _, fun hnodup => ?_⟩
    · have hlength : g.kinds.length = g.batches.length := List.length_map Batch.kind
      rw [← hlength, List.getElem?_concat_length]
    · exact List.nodup_append.mpr ⟨hnodup, List.pairwise_singleton _ _,
        fun k hk k' hk' heq => hnew (List.mem_singleton.mp hk' ▸ heq ▸ hk)⟩

end Staging

end QuadTxn
