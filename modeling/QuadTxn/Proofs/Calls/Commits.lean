import QuadTxn.Proofs.Calls.Log

/-!
# Native transactions in step

A native transaction is in step with the store if its working copy is the committed contents with
its journal replayed, and its account of changes is the difference between the two
(`Frame.Synced`). Every call keeps it in step (`Frame.Moves.synced`). So a commit replays the log
of the transaction on the committed statements (`Frame.Commits.statements_eq`) and publishes
exactly what it changes (`Frame.Commits.change_eq`).
-/

namespace QuadTxn

namespace Frame

/-! ## Staying in step -/

/-- Being in step depends on the session, the account and the contents of the store. -/
theorem Synced.congr {st st' : Frame Session} (hs : st.Synced)
    (hsession : st'.self.session = st.self.session) (hnet : st'.self.net = st.self.net)
    (hcontents : st'.store.contents = st.store.contents) : st'.Synced := by
  intro t ht
  rw [hsession] at ht
  rw [hnet, hcontents]
  exact hs t ht

theorem Synced.write {st : Frame Session} (hs : st.Synced) (kind : BatchKind) (w : Write) :
    (st.write kind w).Synced := by
  rw [Frame.write]
  split
  · exact (hs.writeNative w).congr rfl rfl rfl
  · cases w <;> exact hs.congr rfl rfl rfl

theorem Synced.perform {st : Frame Session} (hs : st.Synced) (req : Request) :
    (st.perform req).Synced := by
  obtain ⟨ledger, events, heq, -⟩ := noted_eq st req
  have hnoted : (st.noted req).Synced := by
    rw [heq]
    exact hs.congr rfl rfl rfl
  exact .foldl (fun hs w => hs.write req.batch w) hnoted _

theorem engaged_synced {st : Frame Session} (h : st.Coherent) (hw : st.unwritable? = none)
    (hs : st.Synced) : st.engaged.Synced := by
  rw [engaged]
  split
  · exact hs
  · rename_i hp
    exact opened_synced (h.staging ((phase_of_writable hw).resolve_right hp)).2.1

/-- A native transaction that is ready for commit is as much in step as before. -/
theorem Synced.prepared {st : Frame Session} (hs : st.Synced) : st.prepared.Synced := by
  intro t ht
  rcases htxn : st.self.session.txn with _ | t₀
  · simp [Frame.prepared, Session.sealed, htxn] at ht
  · obtain rfl : { t₀ with prepared := true } = t := by
      simpa [Frame.prepared, Session.sealed, htxn] using ht
    exact hs t₀ htxn

theorem Prepares.synced {st : Frame Session} (h : st.Coherent) {st' : Frame Session}
    (hp : Prepares st (.ok ()) st') (hs : st.Synced) : st'.Synced := by
  cases hp with
  | skip => exact hs
  | done hw => exact (engaged_synced h hw hs).flushed.prepared

theorem Prepares.error_session {st : Frame Session} {e : TxnError} {st' : Frame Session}
    (hp : Prepares st (.error e) st') : st'.self.session = ⟨none⟩ := by
  cases hp <;> rfl

/-- A move keeps the native transaction in step. -/
theorem Moves.synced {st : Frame Session} (h : st.Coherent) {req : Request}
    {r : Except TxnError Answer} {st' : Frame Session} (hm : Moves st req r st')
    (hs : st.Synced) : st'.Synced := by
  cases hm with
  | refused => exact hs
  | statements => exact hs.perform req
  | binding => exact hs.write _ _
  | bindings => exact hs
  | lookup => exact hs
  | beginStaged hp => exact synced_of_none (h.idle hp).1
  | beginDirect =>
    have hopened : st.begun.locked.opened.Synced := opened_synced rfl
    exact hopened.congr rfl rfl rfl
  | beginTimeout => exact synced_of_none rfl
  | @prepare r _ hp =>
    rcases r with e | _
    · exact synced_of_none hp.error_session
    · exact hp.synced h hs
  | rollback =>
    split
    · exact synced_of_none rfl
    · exact hs
  | flags => exact hs.congr rfl rfl rfl
  | switch _ hp =>
    have hopened : st.locked.opened.Synced := opened_synced (h.staging hp).2.1
    exact hopened.flushed.congr rfl rfl rfl
  | switchTimeout => exact hs
  | listen => exact hs.congr rfl rfl rfl
  | unlisten => exact hs.congr rfl rfl rfl

/-! ## Commits -/

theorem Prepares.ok_phase {st : Frame Session} {st' : Frame Session}
    (hp : Prepares st (.ok ()) st') (hact : st.self.isActive = true) :
    st'.self.phase = .prepared := by
  cases hp with
  | skip hw => exact prepared_of_unwritable hact hw
  | done => rfl

theorem Prepares.ok_slots {st : Frame Session} {st' : Frame Session}
    (hp : Prepares st (.ok ()) st') : st'.coordinator.slots = st.coordinator.slots := by
  cases hp with
  | skip => rfl
  | done =>
    obtain ⟨session, net, gate, heq⟩ := prepared_eq st
    rw [heq]

section Commits

variable {st : Frame Session} (h : st.Coherent) {change : ChangeSet} {st' : Frame Session}
  (hc : Commits st (.ok (some change)) st') (hs : st.Synced)

include h hc hs

/-- A commit publishes the exact change, if that reaches anybody. -/
theorem Commits.change_eq : change.source = st.self.id ∧
    (st.coordinator.isWatched = true → change = ⟨st.self.id,
      st'.store.contents.statements.diff st.store.contents.statements,
      st.store.contents.statements.diff st'.store.contents.statements⟩) := by
  cases hc with
  | @done st₁ hact hp =>
    have hkeeps := hp.keeps h
    obtain ⟨t, ht, -⟩ := (hp.coherent h).prepared (hp.ok_phase hact)
    obtain ⟨hworking, hnet⟩ := hp.synced h hs t ht
    have hcontents : st₁.committed.store.contents = t.working := by
      simp [committed, journal, ht, hworking]
    have hwatched : st₁.coordinator.isWatched = st.coordinator.isWatched := by
      rw [Coordinator.isWatched, Coordinator.isWatched, hkeeps.watchers, hp.ok_slots]
    refine ⟨hkeeps.id, fun hw => ?_⟩
    rw [published, hwatched, hw, hnet, hkeeps.id, hcontents, hp.contents]
    rfl

/-- A commit replays the log on the committed statements. -/
theorem Commits.statements_eq {ws : List Write} (hl : st.Logged ws) :
    st'.store.contents.statements = st.store.contents.statements.replay ws := by
  cases hc with
  | @done st₁ hact hp =>
    have h₁ := hp.coherent h
    obtain ⟨t, ht, -, honto⟩ := h₁.prepared (hp.ok_phase hact)
    obtain ⟨hworking, -⟩ := hp.synced h hs t ht
    have hcontents : st₁.committed.store.contents = t.working := by
      simp [committed, journal, ht, hworking]
    -- the journal need not be the log, but the working copy is the view
    have hview := (hp.logged h hl).seen_eq h₁
    have hvisible : st₁.visible = t.working := by simp [visible, Session.visible, ht]
    rw [seen, hvisible, honto, hp.contents] at hview
    rw [hcontents]
    exact hview

end Commits

end Frame

end QuadTxn
