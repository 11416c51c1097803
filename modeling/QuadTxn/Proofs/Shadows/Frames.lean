import QuadTxn.Proofs.Calls.Preservation

/-!
# Calls on twin frames

Twins are frames that differ at most in what their connections have reported and in the coordinator
(`Frame.Twins`). If the gate is free to the second whenever it is free to the first, then a call
that the first is granted the gate for is answered the same on both, and leaves twins
(`Frame.Moves.twins`, `Frame.Commits.twins`).

Apart from what a request says outlasts it, nothing of a transaction is left on its connection once
the transaction has ended (`Frame.Moves.ended`).
-/

namespace QuadTxn

/-- The request changes what outlasts a transaction: the isolation, or the listeners of writes. -/
def Request.outlasts : Request → Bool
  | .setReadSnapshot _ | .setSnapshot _ | .setSerializable _ | .setIsolation _ => true
  | .listen _ | .unlisten _ => true
  | _ => false

theorem Request.outlasts_of_flags {req : Request} {i i' : Isolation}
    (h : req.flags? i = some i') : req.outlasts = true := by
  cases req <;> first | rfl | cases h

theorem TxnError.isConflict_of_isRefusal {e : TxnError} (h : e.isRefusal = true) :
    e.isConflict = false := by
  cases e <;> first | rfl | cases h

/-- Connections that differ at most in what they have reported. -/
def Connection.Twins (c c' : Connection Session) : Prop :=
  ∃ events, c' = { c with events := events }

namespace Connection.Twins

variable {c c₁ c₂ c₃ : Connection Session}

theorem refl (c : Connection Session) : c.Twins c := ⟨c.events, rfl⟩

theorem symm (h : c₁.Twins c₂) : c₂.Twins c₁ := by
  obtain ⟨events, rfl⟩ := h
  exact ⟨c₁.events, rfl⟩

theorem trans (h₁₂ : c₁.Twins c₂) (h₂₃ : c₂.Twins c₃) : c₁.Twins c₃ := by
  obtain ⟨events₂, rfl⟩ := h₁₂
  obtain ⟨events₃, rfl⟩ := h₂₃
  exact ⟨events₃, rfl⟩

theorem ended (h : c₁.Twins c₂) : c₁.ended.Twins c₂.ended := by
  obtain ⟨events, rfl⟩ := h
  exact ⟨events, rfl⟩

end Connection.Twins

namespace Frame

/-- Frames whose connections are twins, over the same store. -/
structure Twins (st st' : Frame Session) : Prop where
  /-- the connections are twins -/
  self : st.self.Twins st'.self
  /-- the store is the same -/
  store : st'.store = st.store

namespace Twins

variable {st st' : Frame Session} (h : st.Twins st')

include h

theorem eq : ∃ events k, st' = ⟨{ st.self with events := events }, st.store, k⟩ := by
  obtain ⟨self, store, k⟩ := st'
  obtain ⟨⟨events, rfl⟩, rfl⟩ := h
  exact ⟨events, k, rfl⟩

/-! ## Parts of calls -/

theorem phase : st'.self.phase = st.self.phase := by
  obtain ⟨events, k, rfl⟩ := h.eq
  rfl

theorem active : st'.self.isActive = st.self.isActive := by
  obtain ⟨events, k, rfl⟩ := h.eq
  rfl

theorem visible : st'.visible = st.visible := by
  obtain ⟨events, k, rfl⟩ := h.eq
  rfl

theorem seen : st'.seen = st.seen := by
  obtain ⟨events, k, rfl⟩ := h.eq
  rfl

theorem verdict? : st'.verdict? = st.verdict? := by
  obtain ⟨events, k, rfl⟩ := h.eq
  rfl

theorem refusal? (req : Request) : st'.refusal? req = st.refusal? req := by
  obtain ⟨events, k, rfl⟩ := h.eq
  cases req <;> rfl

/-- A change that has nothing to do with what was reported is made alike. -/
theorem update {f : Connection Session → Connection Session}
    (hf : ∀ c events, (f c).Twins (f { c with events := events })) :
    (st.update f).Twins (st'.update f) := by
  obtain ⟨events, k, rfl⟩ := h.eq
  exact ⟨hf _ _, rfl⟩

theorem foldl {α : Type} {f : Frame Session → α → Frame Session}
    (hf : ∀ {st st' : Frame Session}, st.Twins st' → ∀ a, (f st a).Twins (f st' a)) (l : List α) :
    (l.foldl f st).Twins (l.foldl f st') := by
  induction l generalizing st st' with
  | nil => exact h
  | cons a l ih => exact ih (hf h a)

theorem storeAdd (s : Statement) : (st.storeAdd s).Twins (st'.storeAdd s) := by
  rw [Frame.storeAdd, Frame.storeAdd, h.visible]
  split
  · exact h
  · exact h.update fun _ _ => ⟨_, rfl⟩

theorem storeRemove (s : Statement) : (st.storeRemove s).Twins (st'.storeRemove s) := by
  rw [Frame.storeRemove, Frame.storeRemove, h.visible]
  exact h.update fun _ _ => ⟨_, rfl⟩

theorem writeNative (w : Write) : (st.writeNative w).Twins (st'.writeNative w) := by
  cases w with
  | add s => exact h.storeAdd s
  | remove s => exact h.storeRemove s
  | bind | unbind | unbindAll => exact h.update (f := (Connection.record · _)) fun _ _ => ⟨_, rfl⟩

theorem storeBatch (b : Batch) : (st.storeBatch b).Twins (st'.storeBatch b) :=
  (h.foldl storeRemove _).foldl storeAdd _

theorem flushed : st.flushed.Twins st'.flushed := by
  have hbatches : st'.self.staging = st.self.staging := by
    obtain ⟨events, k, rfl⟩ := h.eq
    rfl
  have hbound : st.bound.Twins st'.bound := h.update fun _ _ => ⟨_, rfl⟩
  rw [Frame.flushed, Frame.flushed, hbatches]
  exact hbound.foldl storeBatch _

theorem opened : st.locked.opened.Twins st'.locked.opened := by
  obtain ⟨events, k, rfl⟩ := h.eq
  exact ⟨⟨_, rfl⟩, rfl⟩

theorem engaged : st.engaged.Twins st'.engaged := by
  rw [Frame.engaged, Frame.engaged, h.phase]
  split
  · exact h
  · exact h.opened

theorem write (kind : BatchKind) (w : Write) : (st.write kind w).Twins (st'.write kind w) := by
  have hreport : ∀ {st st' : Frame Session}, st.Twins st' → (st.report w).Twins (st'.report w) :=
    fun h => h.update fun _ _ => ⟨_, rfl⟩
  rw [Frame.write, Frame.write, h.phase]
  split
  · exact hreport (h.writeNative w)
  · refine hreport (h.update fun _ _ => ?_)
    cases w <;> exact ⟨_, rfl⟩

theorem merged (req : Request) : (st.merged req).Twins (st'.merged req) := by
  have hchanges : st'.self.staging.hasChanges = st.self.staging.hasChanges := by
    obtain ⟨events, k, rfl⟩ := h.eq
    rfl
  cases req with
  | evaluate q d b inferred =>
    simp only [Frame.merged, hchanges]
    split
    · exact h.update fun _ _ => ⟨_, rfl⟩
    · exact h
  | _ => exact h

theorem observe (r : Read) : (st.observe r).Twins (st'.observe r) := by
  refine h.update fun c events => ?_
  change (if c.isolation.snapshot then _ else _ : Connection Session).Twins
    (if c.isolation.snapshot then _ else _)
  split
  · exact ⟨events, rfl⟩
  · exact ⟨events, rfl⟩

theorem noted (req : Request) : (st.noted req).Twins (st'.noted req) := by
  rw [Frame.noted, Frame.noted, h.active]
  split
  · split
    · exact (h.merged req).observe _
    · exact h.merged req
  · exact h

theorem perform (req : Request) : (st.perform req).Twins (st'.perform req) := by
  rw [Frame.perform, Frame.perform, h.seen]
  exact (h.noted req).foldl (fun h => h.write req.batch) _

theorem abandoned : st.abandoned.Twins st'.abandoned := ⟨h.self.ended, h.store⟩

end Twins

/-! ## Whole calls -/

/-- Preparing makes no difference to whether anybody is told of commits. -/
theorem Prepares.isWatched {st st' : Frame Session} (hp : Prepares st (.ok ()) st') :
    st'.coordinator.isWatched = st.coordinator.isWatched := by
  cases hp with
  | skip => rfl
  | done =>
    obtain ⟨session, net, gate, heq⟩ := prepared_eq st
    rw [heq]
    rfl

section Calls

variable {st tw : Frame Session} (ht : st.Twins tw) (hfree : st.Free → tw.Free)

include ht hfree

theorem CanRead.twins (h : st.CanRead) (hst : st.Coherent) (htw : tw.Coherent) : tw.CanRead := by
  have hwriter := hst.writer
  have hfree' := hfree
  rw [hst.free_iff, htw.free_iff] at hfree'
  obtain ⟨events, k, rfl⟩ := ht.eq
  intro hact
  rcases h hact with hnone | hown
  · exact .inl (hfree' hnone)
  · exact .inr (htw.writer.mpr (hwriter.mp hown))

theorem Available.twins (h : st.Available) : tw.Available := by
  rcases h with hdirect | hf
  · obtain ⟨events, k, rfl⟩ := ht.eq
    exact .inl hdirect
  · exact .inr (hfree hf)

/-- A transaction is prepared alike, if the gate is not refused to the one only. -/
theorem Prepares.twins {r : Except TxnError Unit} {st' : Frame Session} (hp : Prepares st r st')
    (hdenied : ∀ ms, r = .error (.lockTimeout ms) → tw.Free → st.Free) :
    ∃ tw', Prepares tw r tw' ∧ st'.Twins tw' := by
  have hverdict := ht.verdict?
  have hsealed := ht.engaged.flushed
  have havailable := fun h => Available.twins ht hfree h
  obtain ⟨events, k, rfl⟩ := ht.eq
  cases hp with
  | skip hw => exact ⟨_, .skip hw, ht⟩
  | timeout hstaging hf hms =>
    exact ⟨_, .timeout hstaging (fun hf' => hf (hdenied _ rfl hf')) hms, ⟨_, rfl⟩, rfl⟩
  | conflict hw ha hv =>
    exact ⟨_, .conflict hw (havailable ha) (hverdict.trans hv), ⟨_, rfl⟩, rfl⟩
  | failed hw ha hv hfail =>
    exact ⟨_, .failed hw (havailable ha) (hverdict.trans hv) hfail, ⟨_, rfl⟩, rfl⟩
  | done hw ha hv hfail =>
    exact ⟨_, .done hw (havailable ha) (hverdict.trans hv) hfail,
      hsealed.update fun _ _ => ⟨_, rfl⟩⟩

/-- A request is answered alike, if the gate is not refused to the one only. -/
theorem Moves.twins {req : Request} {r : Except TxnError Answer} {st' : Frame Session}
    (hm : Moves st req r st') (hst : st.Coherent) (htw : tw.Coherent)
    (hdenied : ∀ ms, r = .error (.lockTimeout ms) → tw.Free → st.Free) :
    ∃ tw', Moves tw req r tw' ∧ st'.Twins tw' := by
  have hrefusal := ht.refusal? req
  cases hm with
  | refused hr => exact ⟨_, .refused (hrefusal.trans hr), ht⟩
  | statements hon hr hread =>
    refine ⟨_, ?_, ht.perform req⟩
    rw [← ht.seen]
    exact .statements hon (hrefusal.trans hr) fun h => (hread h).twins ht hfree hst htw
  | binding hb hr => exact ⟨_, .binding hb (hrefusal.trans hr), ht.write _ _⟩
  | prepare hp =>
    obtain ⟨tw', hp', ht'⟩ := hp.twins ht hfree fun ms heq => hdenied ms (by rw [heq]; rfl)
    exact ⟨tw', .prepare hp', ht'⟩
  | switch hs hp hf =>
    refine ⟨_, ?_, ht.opened.flushed.update fun _ _ => ⟨_, rfl⟩⟩
    obtain ⟨events, k, rfl⟩ := ht.eq
    exact .switch hs hp (hfree hf)
  | rollback =>
    refine ⟨_, .rollback, ?_⟩
    rw [ht.active]
    split
    · exact ht.abandoned
    · exact ht
  | bindings =>
    obtain ⟨events, k, rfl⟩ := ht.eq
    exact ⟨_, .bindings, ht⟩
  | lookup =>
    obtain ⟨events, k, rfl⟩ := ht.eq
    exact ⟨_, .lookup, ht⟩
  | beginStaged hp hr =>
    obtain ⟨events, k, rfl⟩ := ht.eq
    exact ⟨_, .beginStaged hp hr, ⟨_, rfl⟩, rfl⟩
  | beginDirect hp hr hf =>
    obtain ⟨events, k, rfl⟩ := ht.eq
    exact ⟨_, .beginDirect hp hr (hfree hf), ⟨_, rfl⟩, rfl⟩
  | beginTimeout hp hr hf hms =>
    obtain ⟨events, k, rfl⟩ := ht.eq
    exact ⟨_, .beginTimeout hp hr (fun hf' => hf (hdenied _ rfl hf')) hms, ⟨_, rfl⟩, rfl⟩
  | flags hi hr hs =>
    obtain ⟨events, k, rfl⟩ := ht.eq
    exact ⟨_, .flags hi (hrefusal.trans hr) hs, ⟨_, rfl⟩, rfl⟩
  | switchTimeout hs hp hf hms =>
    obtain ⟨events, k, rfl⟩ := ht.eq
    exact ⟨_, .switchTimeout hs hp (fun hf' => hf (hdenied _ rfl hf')) hms, ht⟩
  | listen =>
    obtain ⟨events, k, rfl⟩ := ht.eq
    exact ⟨_, .listen, ⟨_, rfl⟩, rfl⟩
  | unlisten =>
    obtain ⟨events, k, rfl⟩ := ht.eq
    exact ⟨_, .unlisten, ⟨_, rfl⟩, rfl⟩

/-- A commit fails alike. -/
theorem Commits.twins_error {e : TxnError} {st' : Frame Session} (hc : Commits st (.error e) st')
    (hdenied : ∀ ms, e = .lockTimeout ms → tw.Free → st.Free) :
    ∃ tw', Commits tw (.error e) tw' ∧ st'.Twins tw' := by
  cases hc with
  | refused hact hp =>
    obtain ⟨tw', hp', ht'⟩ := hp.twins ht hfree fun ms heq => hdenied ms (Except.error.inj heq)
    exact ⟨tw', .refused (ht.active.trans hact) hp', ht'⟩
  | failed hact hp hf =>
    obtain ⟨tw', hp', ht'⟩ := hp.twins ht hfree nofun
    have hfail : tw'.store.failCommit = true := ht'.store ▸ hf
    refine ⟨_, .failed (ht.active.trans hact) hp' hfail, ht'.self.ended, ?_⟩
    exact congrArg (fun store => { store with failCommit := false }) ht'.store

/-- A commit succeeds alike, and the same is published if it is published to anybody on either
side. -/
theorem Commits.twins {change : ChangeSet} {st' : Frame Session}
    (hc : Commits st (.ok (some change)) st') :
    ∃ change' tw', Commits tw (.ok (some change')) tw' ∧ st'.Twins tw' ∧
      change'.source = change.source ∧
      (st.coordinator.isWatched = true → tw.coordinator.isWatched = true → change' = change) := by
  cases hc with
  | @done mid hact hp hf =>
    obtain ⟨mid', hp', hmid⟩ := hp.twins ht hfree nofun
    have hfail : mid'.store.failCommit = false := hmid.store ▸ hf
    have hwatched := hp.isWatched
    have hwatched' := hp'.isWatched
    refine ⟨_, _, .done (ht.active.trans hact) hp' hfail, ?_⟩
    obtain ⟨events, k, rfl⟩ := hmid.eq
    refine ⟨⟨⟨_, rfl⟩, rfl⟩, rfl, fun h h' => ?_⟩
    rw [published, published, hwatched, hwatched', h, h']

end Calls

/-! ## What is forgotten with a transaction -/

section Forgotten

variable {st st' : Frame Session}

theorem write_ended (st : Frame Session) (kind : BatchKind) (w : Write) :
    st.self.ended.Twins (st.write kind w).self.ended := by
  rw [write]
  split
  · obtain ⟨session, net, heq⟩ := writeNative_nativeOnly st w
    rw [heq]
    exact ⟨_, rfl⟩
  · cases w <;> exact ⟨_, rfl⟩

theorem foldl_write_ended (st : Frame Session) (kind : BatchKind) (ws : List Write) :
    st.self.ended.Twins (ws.foldl (write kind) st).self.ended := by
  induction ws generalizing st with
  | nil => exact .refl _
  | cons w ws ih => exact (write_ended st kind w).trans (ih _)

theorem perform_ended (st : Frame Session) (req : Request) :
    st.self.ended.Twins (st.perform req).self.ended := by
  have hnoted : st.self.ended.Twins (st.noted req).self.ended := by
    obtain ⟨ledger, events, heq, -⟩ := noted_eq st req
    rw [heq]
    exact ⟨_, rfl⟩
  exact hnoted.trans (foldl_write_ended _ _ _)

/-- Outside a transaction there is nothing to forget. -/
theorem Coherent.ended_of_idle (h : st.Coherent) (hp : st.self.phase = .idle) :
    st.self.ended = st.self := by
  obtain ⟨hsession, htracking, hledger, hnet, hstaging, hgraphs, hnamespaces⟩ := h.idle hp
  rw [Connection.ended, Connection.reset, ← hsession, ← hp, ← htracking, ← hledger, ← hnet,
    ← hstaging, ← hgraphs, ← hnamespaces]

theorem Prepares.ended {r : Except TxnError Unit} (hp : Prepares st r st') :
    st.self.ended.Twins st'.self.ended := by
  cases hp with
  | skip => exact .refl _
  | timeout => exact ⟨_, rfl⟩
  | conflict => exact ⟨_, rfl⟩
  | failed => exact ⟨_, rfl⟩
  | done =>
    obtain ⟨session, net, gate, heq⟩ := prepared_eq st
    rw [heq]
    exact ⟨_, rfl⟩

/-- What outlasts the transaction is as it was. -/
theorem Moves.ended {req : Request} {r : Except TxnError Answer} (hm : Moves st req r st')
    (hreq : req.outlasts = false) : st.self.ended.Twins st'.self.ended := by
  cases hm with
  | refused => exact .refl _
  | statements => exact perform_ended st req
  | binding => exact write_ended st _ _
  | bindings => exact .refl _
  | lookup => exact .refl _
  | beginStaged => exact ⟨_, rfl⟩
  | beginDirect => exact ⟨_, rfl⟩
  | beginTimeout => exact ⟨_, rfl⟩
  | prepare hp => exact hp.ended
  | rollback =>
    split
    · exact ⟨_, rfl⟩
    · exact .refl _
  | flags hi => exact absurd (Request.outlasts_of_flags hi) (by simp [hreq])
  | switch hs => cases hs.1; cases hreq
  | switchTimeout => exact .refl _
  | listen => cases hreq
  | unlisten => cases hreq

/-- The store is as it was, unless it has failed to prepare, which ends the transaction. -/
theorem Prepares.store {r : Except TxnError Unit} (hp : Prepares st r st') :
    st'.store = st.store ∨
      r = .error (.storage (.injected "prepare")) ∧ st'.self.phase = .idle := by
  cases hp with
  | failed => exact .inr ⟨rfl, rfl⟩
  | done =>
    obtain ⟨session, net, gate, heq⟩ := prepared_eq st
    rw [heq]
    exact .inl rfl
  | _ => exact .inl rfl

theorem Moves.store {req : Request} {r : Except TxnError Answer} (hm : Moves st req r st') :
    st'.store = st.store ∨
      r = .error (.storage (.injected "prepare")) ∧ st'.self.phase = .idle := by
  cases hm with
  | statements => exact .inl (perform_continues st req).store
  | binding => exact .inl (write_continues st _ _).store
  | prepare hp =>
    rcases hp.store with hstore | ⟨rfl, hidle⟩
    · exact .inl hstore
    · exact .inr ⟨rfl, hidle⟩
  | rollback => split <;> exact .inl rfl
  | switch => exact .inl (flushed_nativeOnly st.locked.opened).continues.store
  | _ => exact .inl rfl

/-! ## What a conflict comes to -/

theorem Prepares.of_conflict {e : TxnError} (hp : Prepares st (.error e) st')
    (he : e.isConflict = true) : st' = st.abandoned := by
  cases hp with
  | timeout => cases he
  | conflict => rfl
  | failed => cases he

/-- Only a preparation meets a conflict, and that ends the transaction. -/
theorem Moves.of_conflict {req : Request} {r : Except TxnError Answer} (hm : Moves st req r st')
    {e : TxnError} (hr : r = .error e) (he : e.isConflict = true) : st' = st.abandoned := by
  cases hm with
  | refused hrefused =>
    obtain rfl := Except.error.inj hr
    rw [TxnError.isConflict_of_isRefusal (isRefusal_of_refusal hrefused)] at he
    cases he
  | @prepare r _ hp =>
    rcases r with e' | ⟨⟩
    · obtain rfl : e' = e := Except.error.inj hr
      exact hp.of_conflict he
    · cases hr
  | beginTimeout =>
    cases hr
    cases he
  | switchTimeout =>
    cases hr
    cases he
  | _ => cases hr

/-- A transaction that a conflict prevents from being committed is abandoned. -/
theorem Commits.of_conflict {e : TxnError} (hc : Commits st (.error e) st')
    (he : e.isConflict = true) : st' = st.abandoned := by
  cases hc with
  | refused _ hp => exact hp.of_conflict he
  | failed => cases he

end Forgotten

end Frame

end QuadTxn
