import QuadTxn.Store.Contents

/-!
# Writes on a set of statements

What a list of writes makes of a set of statements (`Model.replay`), and how far that depends on
the set it starts from: sets that agree on what some patterns select (`Model.Agree`) still agree on
it after the same writes. So a read of the later set is a read of the earlier one, seen through the
writes.
-/

namespace QuadTxn

namespace Model

/-- The set after one write; a write of a namespace binding leaves it alone. -/
def apply (m : Model) : Write → Model
  | .add s => m.insert s
  | .remove s => m.erase s
  | .bind _ _ | .unbind _ | .unbindAll => m

/-- The set after a list of writes, in order. -/
def replay (m : Model) (ws : List Write) : Model := ws.foldl apply m

@[simp] theorem replay_nil (m : Model) : m.replay [] = m := rfl

theorem replay_append (m : Model) (ws ws' : List Write) :
    m.replay (ws ++ ws') = (m.replay ws).replay ws' := List.foldl_append

@[simp] theorem mem_apply_add {m : Model} {s t : Statement} :
    t ∈ m.apply (.add s) ↔ t = s ∨ t ∈ m := SortedSet.mem_insert

@[simp] theorem mem_apply_remove {m : Model} {s t : Statement} :
    t ∈ m.apply (.remove s) ↔ t ∈ m ∧ t ≠ s := SortedSet.mem_erase

/-- After the same write a statement is there in both of two sets, or in neither, if that was so
before. -/
theorem mem_apply_congr {m m' : Model} {s : Statement} (h : s ∈ m ↔ s ∈ m') (w : Write) :
    s ∈ m.apply w ↔ s ∈ m'.apply w := by
  cases w with
  | add t => rw [mem_apply_add, mem_apply_add, h]
  | remove t => rw [mem_apply_remove, mem_apply_remove, h]
  | bind label name => exact h
  | unbind label => exact h
  | unbindAll => exact h

theorem mem_replay_congr {m m' : Model} {s : Statement} (h : s ∈ m ↔ s ∈ m') (ws : List Write) :
    s ∈ m.replay ws ↔ s ∈ m'.replay ws := by
  induction ws generalizing m m' with
  | nil => exact h
  | cons w ws ih => exact ih (mem_apply_congr h w)

/-- Writes of other statements leave a statement where it is. -/
theorem mem_replay_of_unwritten {s : Statement} {ws : List Write} (hadd : .add s ∉ ws)
    (hremove : .remove s ∉ ws) (m : Model) : s ∈ m.replay ws ↔ s ∈ m := by
  induction ws generalizing m with
  | nil => exact Iff.rfl
  | cons w ws ih =>
    obtain ⟨hadd, hadds⟩ := not_or.mp (mt List.mem_cons.mpr hadd)
    obtain ⟨hremove, hremoves⟩ := not_or.mp (mt List.mem_cons.mpr hremove)
    refine (ih hadds hremoves (m.apply w)).trans ?_
    cases w with
    | add t =>
      have hne : s ≠ t := fun heq => hadd (by rw [heq])
      rw [mem_apply_add, or_iff_right hne]
    | remove t =>
      have hne : s ≠ t := fun heq => hremove (by rw [heq])
      rw [mem_apply_remove, and_iff_left hne]
    | bind label name => exact Iff.rfl
    | unbind label => exact Iff.rfl
    | unbindAll => exact Iff.rfl

/-- Listing what a pattern selects is listing a subset. -/
theorem select_eq_toList_filter (m : Model) (p : Pattern) :
    m.select p = (m.filter p.selects).toList := rfl

/-- Whether a pattern selects anything is whether the listing of it has anything. -/
theorem anySelected_eq (m : Model) (p : Pattern) : m.anySelected p = !(m.select p).isEmpty := by
  rw [Bool.eq_iff_iff, anySelected_iff]
  simp only [Bool.not_eq_true', List.isEmpty_eq_false_iff_exists_mem, mem_select]

/-! ## Agreement on patterns -/

/-- Two sets hold the same statements, as far as some of the patterns selects them. -/
def Agree (ps : List Pattern) (m m' : Model) : Prop :=
  ∀ p ∈ ps, ∀ s, p.selects s = true → (s ∈ m ↔ s ∈ m')

theorem Agree.refl (ps : List Pattern) (m : Model) : Agree ps m m := fun _ _ _ _ => Iff.rfl

theorem Agree.trans {ps : List Pattern} {m₁ m₂ m₃ : Model} (h₁₂ : Agree ps m₁ m₂)
    (h₂₃ : Agree ps m₂ m₃) : Agree ps m₁ m₃ :=
  fun p hp s hs => (h₁₂ p hp s hs).trans (h₂₃ p hp s hs)

/-- Sets that agree still agree after the same writes. -/
theorem Agree.replay {ps : List Pattern} {m m' : Model} (h : Agree ps m m') (ws : List Write) :
    Agree ps (m.replay ws) (m'.replay ws) :=
  fun p hp s hs => mem_replay_congr (h p hp s hs) ws

/-- Sets that agree on a pattern list the same under every pattern that selects no more. -/
theorem Agree.select_eq {ps : List Pattern} {m m' : Model} (h : Agree ps m m') {p q : Pattern}
    (hp : p ∈ ps) (hq : ∀ s, q.selects s = true → p.selects s = true) :
    m.select q = m'.select q := by
  have hfilter : m.filter q.selects = m'.filter q.selects := by
    ext s
    rw [SortedSet.mem_filter, SortedSet.mem_filter]
    constructor
    · rintro ⟨hm, hs⟩
      exact ⟨(h p hp s (hq s hs)).mp hm, hs⟩
    · rintro ⟨hm, hs⟩
      exact ⟨(h p hp s (hq s hs)).mpr hm, hs⟩
  rw [select_eq_toList_filter, select_eq_toList_filter, hfilter]

/-- Sets that agree on everything are equal. -/
theorem Agree.eq_of_any {ps : List Pattern} {m m' : Model} (h : Agree ps m m')
    (hany : Pattern.any ∈ ps) : m = m' :=
  SortedSet.ext fun s => h _ hany s (Pattern.selects_any s)

/-- A change that touches nothing that the patterns select leaves the sets in agreement on them. -/
theorem agree_of_diff {ps : List Pattern} {m m' : Model}
    (hadded : ∀ p ∈ ps, ∀ s ∈ m'.diff m, p.selects s = false)
    (hremoved : ∀ p ∈ ps, ∀ s ∈ m.diff m', p.selects s = false) : Agree ps m m' := by
  intro p hp s hs
  constructor
  · intro hm
    by_cases hm' : s ∈ m'
    · exact hm'
    · rw [hremoved p hp s (SortedSet.mem_diff.mpr ⟨hm, hm'⟩)] at hs
      cases hs
  · intro hm'
    by_cases hm : s ∈ m
    · exact hm
    · rw [hadded p hp s (SortedSet.mem_diff.mpr ⟨hm', hm⟩)] at hs
      cases hs

end Model

namespace Contents

theorem apply_statements (c : Contents) (w : Write) :
    (c.apply w).statements = c.statements.apply w := by
  cases w <;> rfl

end Contents

end QuadTxn
