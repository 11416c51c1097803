import QuadTxn.Proofs.Statements.Replay
import QuadTxn.Txn.Staging

/-!
# What staged writes make of a store

`Staging.onto` is the set of statements that a transaction sees over a set that its store holds.
Listing the view of a pattern is listing this set (`overlay_select`), and staging a write does to
it what the write does (`onto_add`, `onto_remove`), whatever the store holds. So the staged writes
stand for the list of writes that was staged, over every store (`Staging.Follows`).

The last staging of a statement decides on which side it is pending, in whichever batch it is; no
statement is pending on both sides (`Staging.Consistent`).
-/

namespace QuadTxn

namespace Staging

/-- Whether a statement is to be added. -/
def isAdded (g : Staging) (s : Statement) : Bool := g.batches.any (s ∈ ·.adds)

theorem isAdded_iff {g : Staging} {s : Statement} :
    g.isAdded s = true ↔ ∃ b ∈ g.batches, s ∈ b.adds := by
  simp [isAdded]

theorem isRemoved_iff {g : Staging} {s : Statement} :
    g.isRemoved s = true ↔ ∃ b ∈ g.batches, s ∈ b.removes := by
  simp [isRemoved]

@[simp] theorem isAdded_empty (s : Statement) : (∅ : Staging).isAdded s = false := rfl

@[simp] theorem isRemoved_empty (s : Statement) : (∅ : Staging).isRemoved s = false := rfl

/-! ## The last staging decides -/

/-- Looking the batch of a kind up gives a position that there is, and stages nothing. -/
theorem idFor_spec (g : Staging) (kind : BatchKind) :
    (g.idFor kind).1 < (g.idFor kind).2.batches.length ∧
      (∀ s, (g.idFor kind).2.isAdded s = g.isAdded s) ∧
      ∀ s, (g.idFor kind).2.isRemoved s = g.isRemoved s := by
  rw [idFor]
  split
  · rename_i i hi
    obtain ⟨hlt, -⟩ := List.findIdx?_eq_some_iff_getElem.mp hi
    exact ⟨hlt, fun _ => rfl, fun _ => rfl⟩
  · refine ⟨by simp, fun s => ?_, fun s => ?_⟩
    · simp [isAdded]
    · simp [isRemoved]

/-- What the modification of one member does to a test that it makes succeed under `q`. -/
private theorem any_modify {α : Type} {p : α → Bool} {q : Bool} {f : α → α}
    (hf : ∀ a, p (f a) = (q || p a)) {l : List α} {i : Nat} (hi : i < l.length) :
    (l.modify i f).any p = (q || l.any p) := by
  induction l generalizing i with
  | nil => cases hi
  | cons a l ih =>
    cases i with
    | zero => simp [hf, Bool.or_assoc]
    | succ i =>
      rw [List.modify_succ_cons, List.any_cons, List.any_cons, ih (Nat.lt_of_succ_lt_succ hi),
        Bool.or_left_comm]

/-- Some erased set holds a statement if some set does and the statement is not the erased one. -/
private theorem any_erase {α : Type} (side : α → Model) (l : List α) (s t : Statement) :
    (l.any fun a => decide (t ∈ (side a).erase s)) = true ↔
      (l.any fun a => decide (t ∈ side a)) = true ∧ t ≠ s := by
  simp only [List.any_eq_true, decide_eq_true_eq, SortedSet.mem_erase]
  constructor
  · rintro ⟨a, ha, ht, hne⟩
    exact ⟨⟨a, ha, ht⟩, hne⟩
  · rintro ⟨⟨a, ha, ht⟩, hne⟩
    exact ⟨a, ha, ht, hne⟩

theorem isAdded_stageAdd {g : Staging} {i : Nat} (hi : i < g.batches.length) (s t : Statement) :
    (g.stageAdd i s).isAdded t = true ↔ t = s ∨ g.isAdded t = true := by
  -- the statement has been taken off the other side of every batch before it is put into one
  rw [stageAdd, isAdded, isAdded, any_modify (q := decide (t = s)) (by simp) (by simpa),
    List.any_map]
  simp [Function.comp_def]

theorem isRemoved_stageAdd {g : Staging} {i : Nat} (hi : i < g.batches.length) (s t : Statement) :
    (g.stageAdd i s).isRemoved t = true ↔ g.isRemoved t = true ∧ t ≠ s := by
  rw [stageAdd, isRemoved, any_modify (q := false) (by simp) (by simpa), List.any_map,
    Bool.false_or]
  exact any_erase Batch.removes g.batches s t

theorem isRemoved_stageRemove {g : Staging} {i : Nat} (hi : i < g.batches.length)
    (s t : Statement) :
    (g.stageRemove i s).isRemoved t = true ↔ t = s ∨ g.isRemoved t = true := by
  rw [stageRemove, isRemoved, isRemoved, any_modify (q := decide (t = s)) (by simp) (by simpa),
    List.any_map]
  simp [Function.comp_def]

theorem isAdded_stageRemove {g : Staging} {i : Nat} (hi : i < g.batches.length) (s t : Statement) :
    (g.stageRemove i s).isAdded t = true ↔ g.isAdded t = true ∧ t ≠ s := by
  rw [stageRemove, isAdded, any_modify (q := false) (by simp) (by simpa), List.any_map,
    Bool.false_or]
  exact any_erase Batch.adds g.batches s t

@[simp] theorem isAdded_add {g : Staging} {kind : BatchKind} {s t : Statement} :
    (g.add kind s).isAdded t = true ↔ t = s ∨ g.isAdded t = true := by
  obtain ⟨hi, hadded, -⟩ := g.idFor_spec kind
  rw [add, isAdded_stageAdd hi, hadded]

@[simp] theorem isRemoved_add {g : Staging} {kind : BatchKind} {s t : Statement} :
    (g.add kind s).isRemoved t = true ↔ g.isRemoved t = true ∧ t ≠ s := by
  obtain ⟨hi, -, hremoved⟩ := g.idFor_spec kind
  rw [add, isRemoved_stageAdd hi, hremoved]

@[simp] theorem isRemoved_remove {g : Staging} {kind : BatchKind} {s t : Statement} :
    (g.remove kind s).isRemoved t = true ↔ t = s ∨ g.isRemoved t = true := by
  obtain ⟨hi, -, hremoved⟩ := g.idFor_spec kind
  rw [remove, isRemoved_stageRemove hi, hremoved]

@[simp] theorem isAdded_remove {g : Staging} {kind : BatchKind} {s t : Statement} :
    (g.remove kind s).isAdded t = true ↔ g.isAdded t = true ∧ t ≠ s := by
  obtain ⟨hi, hadded, -⟩ := g.idFor_spec kind
  rw [remove, isAdded_stageRemove hi, hadded]

/-! ## No statement is pending on both sides -/

/-- No statement is both to be added and to be removed. -/
def Consistent (g : Staging) : Prop := ∀ s, g.isAdded s = true → g.isRemoved s = false

theorem Consistent.empty : (∅ : Staging).Consistent := fun _ _ => rfl

theorem Consistent.add {g : Staging} (h : g.Consistent) (kind : BatchKind) (s : Statement) :
    (g.add kind s).Consistent := by
  intro t ht
  rw [← Bool.not_eq_true, isRemoved_add]
  rintro ⟨hremoved, hne⟩
  rcases isAdded_add.mp ht with rfl | hadded
  · exact hne rfl
  · rw [h t hadded] at hremoved
    cases hremoved

theorem Consistent.remove {g : Staging} (h : g.Consistent) (kind : BatchKind) (s : Statement) :
    (g.remove kind s).Consistent := by
  intro t ht
  obtain ⟨hadded, hne⟩ := isAdded_remove.mp ht
  rw [← Bool.not_eq_true, isRemoved_remove]
  rintro (rfl | hremoved)
  · exact hne rfl
  · rw [h t hadded] at hremoved
    cases hremoved

/-! ## The view -/

/-- What a transaction sees over the statements that its store holds. -/
def onto (g : Staging) (m : Model) : Model :=
  (m.filter fun s => !g.isRemoved s).insertMany (g.addedMatching .any)

theorem mem_addedMatching {g : Staging} {p : Pattern} {s : Statement} :
    s ∈ g.addedMatching p ↔ g.isAdded s = true ∧ p.selects s = true := by
  rw [addedMatching, List.mem_flatMap, isAdded_iff]
  constructor
  · rintro ⟨b, hb, hs⟩
    obtain ⟨hm, hp⟩ := Model.mem_select.mp hs
    exact ⟨⟨b, hb, hm⟩, hp⟩
  · rintro ⟨⟨b, hb, hm⟩, hp⟩
    exact ⟨b, hb, Model.mem_select.mpr ⟨hm, hp⟩⟩

@[simp] theorem mem_onto {g : Staging} {m : Model} {s : Statement} :
    s ∈ g.onto m ↔ (s ∈ m ∧ g.isRemoved s = false) ∨ g.isAdded s = true := by
  rw [onto, SortedSet.mem_insertMany, SortedSet.mem_filter, mem_addedMatching]
  simp

@[simp] theorem onto_empty (m : Model) : (∅ : Staging).onto m = m := by
  ext s
  simp

/-- Listing the view of a pattern is listing what the pattern selects of the view. -/
theorem overlay_select (g : Staging) (p : Pattern) (m : Model) :
    g.overlay p (m.select p) = (g.onto m).select p := by
  have hset : (SortedSet.ofList ((m.select p).filter fun s => !g.isRemoved s)).insertMany
      (g.addedMatching p) = (g.onto m).filter p.selects := by
    ext s
    rw [SortedSet.mem_insertMany, SortedSet.mem_ofList, List.mem_filter, Model.mem_select,
      mem_addedMatching, SortedSet.mem_filter, mem_onto]
    -- what is pending to be added is merged in whether the pattern found it stored or not
    cases g.isRemoved s <;> simp [or_and_right]
  rw [overlay, hset, Model.select_eq_toList_filter]

/-- Staging an addition adds to the view. -/
@[simp] theorem onto_add (g : Staging) (kind : BatchKind) (s : Statement) (m : Model) :
    (g.add kind s).onto m = (g.onto m).insert s := by
  ext t
  rw [mem_onto, SortedSet.mem_insert, mem_onto, isAdded_add, ← Bool.not_eq_true, isRemoved_add]
  by_cases h : t = s <;> simp [h]

/-- Staging a removal takes out of the view. -/
@[simp] theorem onto_remove (g : Staging) (kind : BatchKind) (s : Statement) (m : Model) :
    (g.remove kind s).onto m = (g.onto m).erase s := by
  ext t
  rw [mem_onto, SortedSet.mem_erase, mem_onto, isAdded_remove, ← Bool.not_eq_true,
    isRemoved_remove]
  by_cases h : t = s <;> simp [h]

/-- A view that is there already does not change any more. -/
@[simp] theorem onto_onto (g : Staging) (m : Model) : g.onto (g.onto m) = g.onto m := by
  ext s
  rw [mem_onto, mem_onto]
  rcases g.isAdded s with _ | _ <;> simp

/-- Where no batch holds anything, the view is what the store holds. -/
theorem onto_of_not_hasChanges {g : Staging} (h : g.hasChanges = false) (m : Model) :
    g.onto m = m := by
  have hbatch : ∀ b ∈ g.batches, b.adds.toList = [] ∧ b.removes.toList = [] := by
    intro b hb
    have hempty : b.isEmpty = true := by simpa using List.any_eq_false.mp h b hb
    rw [Batch.isEmpty, Bool.and_eq_true, SortedSet.isEmpty_iff, SortedSet.isEmpty_iff] at hempty
    exact hempty
  have hadded : ∀ s, g.isAdded s = false := by
    intro s
    rw [← Bool.not_eq_true, isAdded_iff]
    rintro ⟨b, hb, hs⟩
    rw [SortedSet.mem_def, (hbatch b hb).1] at hs
    cases hs
  have hremoved : ∀ s, g.isRemoved s = false := by
    intro s
    rw [← Bool.not_eq_true, isRemoved_iff]
    rintro ⟨b, hb, hs⟩
    rw [SortedSet.mem_def, (hbatch b hb).2] at hs
    cases hs
  ext s
  simp [hadded, hremoved]

/-- The staged writes have the effect of a list of writes, over every store. -/
def Follows (g : Staging) (ws : List Write) : Prop := ∀ m : Model, g.onto m = m.replay ws

theorem Follows.empty : (∅ : Staging).Follows [] := fun m => onto_empty m

theorem Follows.add {g : Staging} {ws : List Write} (h : g.Follows ws) (kind : BatchKind)
    (s : Statement) : (g.add kind s).Follows (ws ++ [.add s]) := by
  intro m
  rw [onto_add, h m, Model.replay_append]
  rfl

theorem Follows.remove {g : Staging} {ws : List Write} (h : g.Follows ws) (kind : BatchKind)
    (s : Statement) : (g.remove kind s).Follows (ws ++ [.remove s]) := by
  intro m
  rw [onto_remove, h m, Model.replay_append]
  rfl

end Staging

end QuadTxn
