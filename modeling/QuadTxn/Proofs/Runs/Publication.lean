import QuadTxn.Proofs.Runs.Histories
import QuadTxn.Proofs.Runs.Invariants

/-!
# What a commit publishes

A commit of a native transaction that is in step with the store publishes exactly the difference
that it makes, if anybody is reached (`System.change_of_commits`). If nobody is reached, what it
publishes makes no difference to any other connection (`System.noteCommit_of_commits`).
-/

namespace QuadTxn

/-- The change from one set of statements to another. -/
def ChangeSet.between (source : ConnectionId) (before after : Model) : ChangeSet :=
  ⟨source, after.diff before, before.diff after⟩

/-- A map that has a key has more than one exactly if it has another key. -/
theorem SortedMap.one_lt_size_iff {κ ν : Type} [Ord κ] [DecidableEq κ] [Std.LawfulEqOrd κ]
    {m : SortedMap κ ν} {k : κ} {v : ν} (hk : m.get? k = some v) :
    1 < m.size ↔ ∃ k', k' ≠ k ∧ ∃ v', m.get? k' = some v' := by
  simp only [get?_eq_some_iff] at hk ⊢
  have hsorted := m.sorted
  rw [size]
  generalize m.entries = entries at hk hsorted ⊢
  constructor
  · intro hlength
    rcases entries with _ | ⟨e, _ | ⟨e', rest⟩⟩
    · simp at hlength
    · simp at hlength
    · -- the first two keys differ, so one of them is another key
      have hne : e.1 ≠ e'.1 := by
        intro heq
        have hlt := (List.pairwise_cons.mp hsorted).1 e' List.mem_cons_self
        rw [heq] at hlt
        simp [Std.ReflCmp.compare_self] at hlt
      by_cases he : e.1 = k
      · exact ⟨e'.1, fun heq => hne (he.trans heq.symm), e'.2,
          List.mem_cons_of_mem _ List.mem_cons_self⟩
      · exact ⟨e.1, he, e.2, List.mem_cons_self⟩
  · rintro ⟨k', hk', v', hmem⟩
    rcases entries with _ | ⟨e, _ | ⟨e', rest⟩⟩
    · cases hmem
    · obtain rfl := List.mem_singleton.mp hk
      cases List.mem_singleton.mp hmem
      exact absurd rfl hk'
    · simp

namespace System

variable {sys : System Session} (h : sys.Coherent)

include h

/-- A change set published by a connection that runs a transaction reaches somebody exactly if there
is a commit listener or another connection runs a transaction. -/
theorem isWatched_iff {id : ConnectionId} (hact : (sys.connection id).isActive = true) :
    sys.coordinator.isWatched = true ↔
      0 < sys.coordinator.listeners ∨ ∃ j, j ≠ id ∧ (sys.connection j).isActive = true := by
  obtain ⟨slot, hslot⟩ := (slot_isSome_iff h id).mpr hact
  have hmany : 1 < sys.coordinator.slots.size ↔
      ∃ j, j ≠ id ∧ (sys.connection j).isActive = true := by
    rw [SortedMap.one_lt_size_iff hslot]
    simp only [slot_isSome_iff h]
  rw [Coordinator.isWatched, Bool.or_eq_true, decide_eq_true_eq, decide_eq_true_eq]
  exact or_congr Iff.rfl hmany

section Commit

variable {id : ConnectionId} {change : ChangeSet} {st : Frame Session}
  (hc : (sys.frame id).Commits (.ok (some change)) st) (hs : (sys.frame id).Synced)

include hc

omit h in
theorem active_of_commits : (sys.connection id).isActive = true := by
  cases hc with
  | done hact => exact hact

include hs

/-- A commit that reaches anybody publishes the exact change. -/
theorem change_of_commits : change.source = id ∧ (sys.coordinator.isWatched = true →
    change = .between id sys.store.contents.statements st.store.contents.statements) := by
  have hname : (sys.frame id).self.id = id := h.name id
  obtain ⟨hsource, hchange⟩ := hc.change_eq (h.frame id) hs
  rw [hname] at hsource hchange
  exact ⟨hsource, hchange⟩

/-- Each other connection is as if it had been told of the exact change. -/
theorem noteCommit_of_commits {j : ConnectionId} (hj : j ≠ id) :
    (sys.connection j).noteCommit change = (sys.connection j).noteCommit
      (.between id sys.store.contents.statements st.store.contents.statements) := by
  rcases hwatched : sys.coordinator.isWatched with _ | _
  · have hinactive : (sys.connection j).isActive = false := by
      rcases hj' : (sys.connection j).isActive with _ | _
      · rfl
      · rw [(isWatched_iff h (active_of_commits hc)).mpr (.inr ⟨j, hj, hj'⟩)] at hwatched
        cases hwatched
    have htracking := tracking_of_inactive h hinactive
    simp [Connection.noteCommit, htracking]
  · rw [(change_of_commits h hc hs).2 hwatched]

end Commit

/-! ## Changes of the committed statements -/

omit h in
/-- Only a commit changes the committed statements, unless one is put in directly. -/
theorem contents_of_other {sys' : System Session} {o : Occurrence} {r : Except TxnError Answer}
    (he : Effect sys o r sys') (hinsert : ∀ s, o ≠ .insert s)
    (hcommit : ∀ j, o ≠ .request j .commit) : sys'.store.contents = sys.store.contents := by
  cases he with
  | move _ hm => exact hm.contents
  | disconnect hm => exact hm.contents
  | insert => exact absurd rfl (hinsert _)
  | commitFails => exact absurd rfl (hcommit _)
  | commitSkips => exact absurd rfl (hcommit _)
  | commit => exact absurd rfl (hcommit _)
  | _ => rfl

/-- While a transaction runs on, and native transactions are in step, a change of the committed
statements is published by another connection, and the transaction has no native one. -/
theorem publishes_of_changed {sys' : System Session} {o : Occurrence} {r : Except TxnError Answer}
    (hs : Step sys o r sys') (hstep : sys.InStep) (hinsert : ∀ s, o ≠ .insert s)
    {id : ConnectionId} (hact : (sys.connection id).isActive = true)
    (hact' : (sys'.connection id).isActive = true) {s : Statement}
    (hne : ¬(s ∈ sys.store.contents.statements ↔ s ∈ sys'.store.contents.statements)) :
    ∃ j change, j ≠ id ∧ Transition.Publishes j change ⟨sys, o, r, sys'⟩ ∧
      (s ∈ change.added ∨ s ∈ change.removed) ∧ ¬(sys.connection id).Engaged := by
  by_cases hcommit : ∃ j, o = .request j .commit
  · obtain ⟨j, rfl⟩ := hcommit
    rcases commit_of_done h hs.2 with ⟨e, st, -, hc, -, rfl⟩ | ⟨change?, st, hon, hc, -, rfl⟩
    · have hsame : (sys.setFrame j st).store.contents = sys.store.contents := hc.error_contents
      rw [hsame] at hne
      exact absurd Iff.rfl hne
    · rcases change? with _ | change
      · cases hc
        exact absurd Iff.rfl hne
      · have hj : j ≠ id := by
          rintro rfl
          obtain ⟨-, c, hended⟩ := hc.done_self
          rw [Option.elim_some, connection_commit h hc, connection_setFrame_self, hended] at hact'
          cases hact'
        have hwatched := (isWatched_iff h (active_of_commits hc)).mpr (.inr ⟨id, hj.symm, hact⟩)
        have hchange := (change_of_commits h hc (hstep j)).2 hwatched
        refine ⟨j, change, hj, ⟨rfl, by rw [publication?, hon]⟩, ?_,
          not_engaged_of_commits h hc hj.symm⟩
        -- a statement that differs is on one of the two sides of the difference
        have hne : ¬(s ∈ sys.store.contents.statements ↔ s ∈ st.store.contents.statements) := hne
        rw [hchange, ChangeSet.between, SortedSet.mem_diff, SortedSet.mem_diff]
        by_cases hs : s ∈ sys.store.contents.statements
        · exact .inr ⟨hs, fun hs' => hne (iff_of_true hs hs')⟩
        · exact .inl ⟨Classical.not_not.mp fun hs' => hne (iff_of_false hs hs'), hs⟩
  · rw [contents_of_other (effect_of_step h hs) hinsert fun j heq => hcommit ⟨j, heq⟩] at hne
    exact absurd Iff.rfl hne

end System

end QuadTxn
