import QuadTxn.Proofs.Calls.Tracking
import QuadTxn.Proofs.Ledger.History

/-!
# The check of the ledger

A running transaction that can have its native transaction need not wait to be prepared or
committed (`Frame.prepare_done`, `Frame.commit_done`), and it fails with a conflict exactly if that
is the verdict on its ledger (`Frame.Prepares.conflict_iff`, `Frame.Commits.conflict_iff`). What
the verdict is depends on the flags: a serializable transaction must have no change in its ledger,
and one that only tracks its reads no phantom.
-/

namespace QuadTxn

namespace Frame

/-! ## The verdict -/

section Verdict

variable {σ : Type} {st : Frame σ}

/-- The verdict is a conflict if the transaction is serializable and its ledger holds a change. -/
theorem verdict?_eq_conflict_iff : (∃ c, st.verdict? = some (.conflict c)) ↔
    st.self.isolation.serializable = true ∧ st.self.ledger.changes ≠ [] := by
  rw [verdict?]
  by_cases hser : st.self.isolation.serializable = true
  · rw [if_pos hser, Ledger.firstConflict?]
    rcases st.self.ledger.changes with _ | ⟨change, changes⟩
    · simp
    · simp [hser]
  · rw [if_neg hser]
    refine iff_of_false ?_ fun hboth => hser hboth.1
    rintro ⟨c, hc⟩
    obtain ⟨observed, cause, heq⟩ :=
      Ledger.eq_phantom_of_phantom? (Option.ite_none_right_eq_some.mp hc).2
    cases heq

/-- The verdict is a phantom if the transaction only tracks its reads and its ledger holds one. -/
theorem verdict?_eq_phantom_iff :
    (∃ observed cause, st.verdict? = some (.phantom observed cause)) ↔
      st.self.isolation.snapshot = true ∧ st.self.isolation.serializable = false ∧
        (st.self.ledger.phantom? Read.affectedBy).isSome := by
  rw [verdict?]
  rcases st.self.isolation.serializable with _ | _
  · rcases st.self.isolation.snapshot with _ | _
    · simp
    · -- whatever is found is a phantom
      simp only [Bool.false_eq_true, if_false, if_true, true_and, Option.isSome_iff_exists]
      constructor
      · rintro ⟨observed, cause, hfound⟩
        exact ⟨_, hfound⟩
      · rintro ⟨e, hfound⟩
        obtain ⟨observed, cause, rfl⟩ := Ledger.eq_phantom_of_phantom? hfound
        exact ⟨observed, cause, hfound⟩
  · simp

/-- A transaction that passes the check has no phantom in its ledger, if it tracks its reads. -/
theorem phantom?_of_verdict (hsnap : st.self.isolation.snapshot = true)
    (hv : st.verdict? = none) : st.self.ledger.phantom? Read.affectedBy = none := by
  rw [verdict?] at hv
  split at hv
  · rename_i hser
    rw [Option.map_eq_none_iff, Ledger.firstConflict?, Option.map_eq_none_iff,
      List.head?_eq_none_iff] at hv
    rw [Ledger.phantom?, hv]
    rfl
  · exact hv

end Verdict

/-! ## Being prepared against it -/

section Prepare

variable {st : Frame Session} (hw : st.unwritable? = none) (ha : st.Available)

include hw ha

/-- A transaction that can have its native one fails to be prepared with a conflict if that is the
verdict. -/
theorem Prepares.conflict_iff {r : Except TxnError Unit} {st' : Frame Session}
    (hp : Prepares st r st') {e : TxnError} (he : e.isConflict = true) :
    r = .error e ↔ st.verdict? = some e := by
  have hother : ∀ {r : Except TxnError Unit}, st.verdict? = none →
      (∀ e', r = .error e' → e'.isConflict = false) → (r = .error e ↔ st.verdict? = some e) := by
    intro r hv hr
    refine iff_of_false (fun heq => ?_) (by simp [hv])
    rw [hr e heq] at he
    cases he
  cases hp with
  | skip hw' => exact absurd hw hw'
  | timeout hp hf =>
    refine absurd ha (not_or.mpr ⟨?_, hf⟩)
    simp [hp]
  | conflict _ _ hv =>
    rw [hv, Except.error.injEq, Option.some.injEq]
  | failed _ _ hv => exact hother hv fun e' heq => Except.error.inj heq ▸ rfl
  | done _ _ hv => exact hother hv fun _ heq => (nomatch heq)

theorem Commits.conflict_iff {r : Except TxnError (Option ChangeSet)} {st' : Frame Session}
    (hc : Commits st r st') {e : TxnError} (he : e.isConflict = true) :
    r = .error e ↔ st.verdict? = some e := by
  cases hc with
  | skip hact =>
    rw [isActive_of_writable hw] at hact
    cases hact
  | refused _ hp =>
    rw [← hp.conflict_iff hw ha he, Except.error.injEq, Except.error.injEq]
  | failed _ hp =>
    refine iff_of_false (fun heq => ?_) fun hv => ?_
    · cases heq
      cases he
    · cases (hp.conflict_iff hw ha he).mpr hv
  | done _ hp =>
    refine iff_of_false nofun fun hv => ?_
    cases (hp.conflict_iff hw ha he).mpr hv

variable (h : st.Coherent)

include h

/-- A transaction that can have its native one need not wait to be prepared. -/
theorem prepare_done : ∃ r st', (Connection.prepare st).done? = some (r, st') := by
  rw [prepare_eq h hw ha]
  rcases st.verdict? with _ | e
  · rcases st.store.failPrepare with _ | _
    · exact ⟨_, _, rfl⟩
    · exact ⟨_, _, rfl⟩
  · exact ⟨_, _, rfl⟩

/-- Nor need it wait to be committed. -/
theorem commit_done : ∃ r st', (Connection.commit st).done? = some (r, st') := by
  have hact := isActive_of_writable hw
  obtain ⟨r, st₁, hd⟩ := prepare_done hw ha h
  have hp := prepares_of_done h hd
  rw [commit_eq_bind hact]
  rcases hprepare : Connection.prepare st with ⟨a, st₂⟩ | ⟨e, st₂⟩ | _
  · rw [hprepare] at hd
    obtain ⟨rfl, rfl⟩ := Prod.mk.inj (Option.some.inj hd)
    obtain ⟨t, ht, -⟩ := prepared_txn h hp hact
    rw [Outcome.bind_ok, native_commit_eq ht]
    split
    · exact ⟨_, _, rfl⟩
    · exact ⟨_, _, rfl⟩
  · exact ⟨_, _, rfl⟩
  · rw [hprepare] at hd
    cases hd

end Prepare

end Frame

end QuadTxn
