import QuadTxn.Txn.Coordinator

/-!
# The books of a coordinator

A coordinator keeps a slot for each running transaction, and four counters. What its calls do to the
slots is said by their views. The books balance (`Coordinator.Balanced`) if the running transactions
are as many as the slots, and every transaction that was started is running, committed or aborted;
every call keeps them balanced.
-/

namespace QuadTxn

namespace Coordinator

variable {ρ : Type}

/-- The slots and the counters agree; the gate and the listeners may be different. -/
structure SameBooks (c c' : Coordinator ρ) : Prop where
  /-- the registered transactions -/
  slots : c'.slots = c.slots
  /-- how many of them run -/
  active : c'.active = c.active
  /-- how many were started -/
  started : c'.started = c.started
  /-- how many were committed -/
  committed : c'.committed = c.committed
  /-- how many ended otherwise -/
  aborted : c'.aborted = c.aborted

theorem SameBooks.refl (c : Coordinator ρ) : c.SameBooks c := ⟨rfl, rfl, rfl, rfl, rfl⟩

theorem SameBooks.trans {c₁ c₂ c₃ : Coordinator ρ} (h₁₂ : c₁.SameBooks c₂)
    (h₂₃ : c₂.SameBooks c₃) : c₁.SameBooks c₃ where
  slots := h₂₃.slots.trans h₁₂.slots
  active := h₂₃.active.trans h₁₂.active
  started := h₂₃.started.trans h₁₂.started
  committed := h₂₃.committed.trans h₁₂.committed
  aborted := h₂₃.aborted.trans h₁₂.aborted

section Calls

variable {c c' : Coordinator ρ} (h : c.SameBooks c') (id : ConnectionId)

include h

theorem SameBooks.begin (p : ρ) : (c.begin id p).SameBooks (c'.begin id p) := by
  refine ⟨?_, ?_, ?_, h.committed, h.aborted⟩
  · simp [Coordinator.begin, h.slots]
  · simp [Coordinator.begin, h.slots, h.active]
  · simp [Coordinator.begin, h.slots, h.started]

theorem SameBooks.finish : (c.finish id).SameBooks (c'.finish id) := by
  rw [Coordinator.finish, Coordinator.finish, h.slots]
  split
  · exact h
  · refine ⟨rfl, ?_, h.started, ?_, ?_⟩
    · simp [h.active]
    · simp [h.committed]
    · simp [h.aborted]

theorem SameBooks.markCommitted : (c.markCommitted id).SameBooks (c'.markCommitted id) := by
  rw [Coordinator.markCommitted, Coordinator.markCommitted, h.slots]
  split
  · exact h
  · exact ⟨rfl, h.active, h.started, h.committed, h.aborted⟩

end Calls

/-! ## Slots -/

theorem get?_slots_begin (c : Coordinator ρ) (id : ConnectionId) (p : ρ) (j : ConnectionId) :
    (c.begin id p).slots.get? j = if j = id then some ⟨p, false⟩ else c.slots.get? j :=
  SortedMap.get?_insert _ _ _ _

/-- Only the slot of the connection is released. -/
theorem slots_finish (c : Coordinator ρ) (id : ConnectionId) :
    (c.finish id).slots = c.slots.erase id := by
  rw [finish]
  split
  · rename_i hnone
    rw [SortedMap.erase_of_none hnone]
  · rfl

theorem get?_slots_finish (c : Coordinator ρ) (id j : ConnectionId) :
    (c.finish id).slots.get? j = if j = id then none else c.slots.get? j := by
  rw [slots_finish, SortedMap.get?_erase]

/-- Only the slot of the connection is marked, if there is one. -/
theorem get?_slots_markCommitted (c : Coordinator ρ) (id j : ConnectionId) :
    (c.markCommitted id).slots.get? j =
      if j = id then (c.slots.get? id).map fun slot => { slot with committed := true }
      else c.slots.get? j := by
  rw [markCommitted]
  split
  · rename_i hnone
    by_cases hj : j = id
    · rw [if_pos hj, hj, hnone]
      rfl
    · rw [if_neg hj]
  · rename_i slot hslot
    rw [SortedMap.get?_insert, hslot]
    rfl

/-- A slot that is marked keeps its participant. -/
theorem participant_markCommitted (c : Coordinator ρ) (id j : ConnectionId) :
    ((c.markCommitted id).slots.get? j).map (·.participant) =
      (c.slots.get? j).map (·.participant) := by
  rw [get?_slots_markCommitted]
  split
  · rename_i hj
    rw [hj]
    rcases c.slots.get? id with _ | slot
    · rfl
    · rfl
  · rfl

/-- Marking a slot changes the slots at most. -/
theorem markCommitted_eq (c : Coordinator ρ) (id : ConnectionId) :
    c.markCommitted id = { c with slots := (c.markCommitted id).slots } := by
  rw [markCommitted]
  split <;> rfl

/-! ## Balance -/

/-- The counters agree with the slots and with each other. -/
structure Balanced (c : Coordinator ρ) : Prop where
  /-- the running transactions are those that have a slot -/
  active : c.active = c.slots.size
  /-- every transaction that was started is running, committed or aborted -/
  total : c.started = c.active + c.committed + c.aborted

theorem Balanced.new : (new : Coordinator ρ).Balanced := ⟨rfl, rfl⟩

theorem Balanced.congr {c c' : Coordinator ρ} (h : c.Balanced) (hs : c.SameBooks c') :
    c'.Balanced where
  active := by rw [hs.active, hs.slots, h.active]
  total := by rw [hs.started, hs.active, hs.committed, hs.aborted, h.total]

section Balanced

variable {c : Coordinator ρ} (h : c.Balanced) (id : ConnectionId)

include h

theorem Balanced.begin (p : ρ) : (c.begin id p).Balanced := by
  have hactive := h.active
  have htotal := h.total
  rcases hslot : c.slots.get? id with _ | slot
  · have hsize := SortedMap.size_insert_of_none hslot (Slot.mk p false)
    constructor
    · simp [Coordinator.begin, SortedMap.contains, hslot, hsize, hactive]
    · simp only [Coordinator.begin, SortedMap.contains, hslot]
      simp
      omega
  · have hsize := SortedMap.size_insert_of_some hslot (Slot.mk p false)
    constructor
    · simp [Coordinator.begin, SortedMap.contains, hslot, hsize, hactive]
    · simp [Coordinator.begin, SortedMap.contains, hslot, htotal]

/-- A slot that is released was counted, so that there is one to take off. -/
theorem Balanced.active_pos {slot : Slot ρ} (hslot : c.slots.get? id = some slot) :
    0 < c.active := by
  have hsize := SortedMap.size_erase_of_some hslot
  rw [h.active]
  omega

theorem Balanced.finish : (c.finish id).Balanced := by
  rw [Coordinator.finish]
  rcases hslot : c.slots.get? id with _ | slot
  · exact h
  · have hsize := SortedMap.size_erase_of_some hslot
    have hactive := h.active
    have htotal := h.total
    constructor
    · change c.active - 1 = (c.slots.erase id).size
      omega
    · change c.started = c.active - 1 + (c.committed + _) + (c.aborted + _)
      -- the outcome is counted on one side or on the other
      rcases slot.committed with _ | _
      · simp only [Bool.false_eq_true, if_false]
        omega
      · simp only [if_true]
        omega

theorem Balanced.markCommitted : (c.markCommitted id).Balanced := by
  rw [Coordinator.markCommitted]
  rcases hslot : c.slots.get? id with _ | slot
  · exact h
  · exact ⟨h.active.trans (SortedMap.size_insert_of_some hslot _).symm, h.total⟩

end Balanced

end Coordinator

end QuadTxn
