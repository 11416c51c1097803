import QuadTxn.Proofs.Calls.Bindings
import QuadTxn.Proofs.Shadows.Frames

/-!
# Staged writes that are done early

A transaction that stages its writes has counterparts: direct transactions over the same store that
have the same ledger, see the same statements and find the same namespaces bound
(`Frame.Counterpart`). When it switches to direct writes, it becomes one of them
(`Frame.counterpart_switched`).

Whatever the two read and write, they are answered the same and stay counterparts
(`Frame.Counterpart.step`): the one stages the write that the other does at once, and the logs of
the two are the same. So their commits come to the same (`Frame.Counterpart.commits`), though the
one writes all that is staged only then.
-/

namespace QuadTxn

namespace Request

/-- The request reads or writes statements or namespace bindings. -/
def isData : Request → Bool
  | .begin | .prepare | .commit | .rollback => false
  | .setReadSnapshot _ | .setSnapshot _ | .setSerializable _ | .setIsolation _ => false
  | .listen _ | .unlisten _ => false
  | _ => true

theorem isData_cases {req : Request} (h : req.isData = true) :
    req.onStatements = true ∨ (∃ w, req.binding? = some w) ∨ req = .getNamespaces ∨
      ∃ label, req = .namespaceOf label := by
  cases req with
  | bindLabel | unbindLabel | unbindAll => exact .inr (.inl ⟨_, rfl⟩)
  | getNamespaces => exact .inr (.inr (.inl rfl))
  | namespaceOf label => exact .inr (.inr (.inr ⟨label, rfl⟩))
  | _ => first | exact .inl rfl | cases h

end Request

namespace Connection

/-- The connections differ as one whose transaction stages its writes differs from one whose
transaction does them directly. -/
def Redirects (c c' : Connection Session) : Prop :=
  ∃ session net events, c' =
    { c.unstage with
      session := session
      net := net
      events := events
      phase := .direct
      isolation := { c.isolation with readSnapshot := false } }

/-- The connections differ at most in what they have reported, and the second one does not stage
its writes. -/
def Siblings (c c' : Connection Session) : Prop :=
  ∃ events, c' =
    { c with events := events, isolation := { c.isolation with readSnapshot := false } }

theorem Redirects.ended {c c' : Connection Session} (h : c.Redirects c') :
    c.ended.Siblings c'.ended := by
  obtain ⟨session, net, events, rfl⟩ := h
  exact ⟨events, rfl⟩

end Connection

namespace Frame

/-! ## Connections that write differently -/

section Redirects

variable {st tw : Frame Session} (hp : st.self.phase = .staging)
  (h : st.self.Redirects tw.self)

include hp h

theorem noted_redirects (req : Request) : (st.noted req).self.Redirects (tw.noted req).self := by
  obtain ⟨session, net, events, hself⟩ := h
  obtain ⟨ledger, reports, hnoted, -, hledger⟩ := noted_eq st req
  obtain ⟨ledger', reports', hnoted', -, hledger'⟩ := noted_eq tw req
  have hsame : ledger' = ledger := by
    rw [hledger (by simp [Connection.isActive, hp]),
      hledger' (by simp [Connection.isActive, hself]), hself]
    rfl
  refine ⟨session, net, tw.self.events ++ reports', ?_⟩
  rw [hnoted, hnoted', hsame, update_self, update_self, hself]
  rfl

/-- A write is staged on the one side, and done on the other. -/
theorem write_redirects (kind : BatchKind) (w : Write) :
    (st.write kind w).self.Redirects (tw.write kind w).self := by
  obtain ⟨session, net, events, hself⟩ := h
  obtain ⟨session', net', hnative⟩ := writeNative_nativeOnly tw w
  have hstages : st.write kind w = (st.update (·.stage kind w)).report w := by
    rw [write, if_neg (by simp [hp])]
  have hwrites : tw.write kind w = (tw.writeNative w).report w := by
    rw [write, if_pos (by rw [hself])]
  refine ⟨session', net', tw.self.events ++ w.events st.self.listeners, ?_⟩
  rw [hstages, hwrites, hnative, report, report, update_self, update_self, update_self,
    update_self, hself]
  cases w <;> rfl

theorem foldl_write_redirects (kind : BatchKind) (ws : List Write) :
    (ws.foldl (write kind) st).self.Redirects (ws.foldl (write kind) tw).self := by
  induction ws generalizing st tw with
  | nil => exact h
  | cons w ws ih =>
    -- after a write the one side still stages, and the next one is done only on the other
    exact ih ((write_continues st kind w).phase.trans hp) (write_redirects hp h kind w)

theorem perform_redirects (hseen : tw.seen = st.seen) (req : Request) :
    (st.perform req).self.Redirects (tw.perform req).self := by
  rw [perform, perform, hseen]
  exact foldl_write_redirects ((noted_continues st req).phase.trans hp)
    (noted_redirects hp h req) _ _

end Redirects

/-! ## Counterparts -/

/-- A transaction that stages its writes and can have the gate, and a direct transaction that has
the gate and has done the same. -/
structure Counterpart (st tw : Frame Session) : Prop where
  /-- the one side is coherent -/
  coherent : st.Coherent
  /-- the other side is coherent -/
  coherent' : tw.Coherent
  /-- the one side stages its writes -/
  staging : st.self.phase = .staging
  /-- the gate can be taken -/
  free : st.Free
  /-- the connections differ in how writes are done -/
  self : st.self.Redirects tw.self
  /-- what is committed is the same -/
  store : tw.store = st.store
  /-- the other side has the gate -/
  coordinator : tw.coordinator = st.locked.coordinator
  /-- its native transaction is in step with the store -/
  synced : tw.Synced
  /-- the same statements are written -/
  logged : ∃ ws, st.Logged ws ∧ tw.Logged ws
  /-- the same namespace bindings are written -/
  binds : ∃ ws, st.Binds ws ∧ tw.Binds ws

/-- A transaction that switches to direct writes becomes a counterpart of what it was. -/
theorem counterpart_switched {st : Frame Session} (h : st.Coherent)
    (hp : st.self.phase = .staging) (hf : st.Free) :
    Counterpart st st.locked.opened.flushed.switched := by
  have hact : st.self.isActive = true := by simp [Connection.isActive, hp]
  have hmove : Moves st (.setReadSnapshot false) (.ok .none) st.locked.opened.flushed.switched :=
    .switch ⟨rfl, hact, (h.staging hp).2.2⟩ hp hf
  -- what is staged is a log, whatever was done to stage it
  have hlogged : st.Logged (st.self.staging.batches.flatMap Batch.writes) := by
    rw [logged_staging hp]
    intro m
    rw [h.sound.consistent.replay_perm .rfl]
  have hbinds : st.Binds st.self.namespaces.writes := by
    rw [binds_staging hp]
    intro t
    rw [NamespaceOverlay.replay_writes]
  have hlogged' := hmove.logged h rfl hlogged
  have hbinds' := hmove.binds h rfl hbinds
  rw [Request.logged_of_not_onStatements rfl, List.append_nil] at hlogged'
  obtain ⟨session, net, hflushed⟩ := flushed_nativeOnly st.locked.opened
  refine
    { coherent := h
      coherent' := hmove.coherent h
      staging := hp
      free := hf
      self := ⟨session, net, st.self.events, ?_⟩
      store := ?_
      coordinator := ?_
      synced := hmove.synced h (synced_of_none (h.staging hp).1)
      logged := ⟨_, hlogged, hlogged'⟩
      binds := ⟨_, hbinds, ?_⟩ }
  · rw [hflushed]
    rfl
  · rw [hflushed]
    rfl
  · rw [hflushed]
    rfl
  · simpa [Request.bound, Request.binding?] using hbinds'

namespace Counterpart

variable {st tw : Frame Session} (h : st.Counterpart tw)

include h

theorem direct : tw.self.phase = .direct := by
  obtain ⟨session, net, events, hself⟩ := h.self
  rw [hself]

theorem writable : st.unwritable? = none := by simp [unwritable?, h.staging]

theorem writable' : tw.unwritable? = none := by simp [unwritable?, h.direct]

theorem seen : tw.seen = st.seen := by
  obtain ⟨ws, hlogged, hlogged'⟩ := h.logged
  rw [hlogged.seen_eq h.coherent, hlogged'.seen_eq h.coherent', h.store]

theorem table : tw.table = st.table := by
  obtain ⟨ws, hbinds, hbinds'⟩ := h.binds
  rw [hbinds.table_eq h.coherent, hbinds'.table_eq h.coherent', h.store]

theorem canRead : st.CanRead := fun _ => .inl (h.coherent.free_iff.mp h.free)

theorem canRead' : tw.CanRead := fun _ => .inr (h.coherent'.writer.mpr (.inl h.direct))

theorem refusal? {req : Request} (hreq : req.isData = true) :
    tw.refusal? req = st.refusal? req := by
  -- where writes can be done, only what is malformed is refused
  have hrefusal : ∀ st : Frame Session, st.unwritable? = none →
      st.refusal? req = if req.isWrite then req.malformed? else none := by
    intro st hw
    rcases hwrite : req.isWrite with _ | _
    · revert hwrite hreq
      cases req <;> first | exact fun _ _ => rfl | exact nofun
    · rw [refusal?_of_isWrite hwrite, hw, Option.or_none]
      rfl
  rw [hrefusal st h.writable, hrefusal tw h.writable']

/-- Moves that are answered the same, and lead to connections that write differently, lead to
counterparts. -/
theorem moved {req : Request} {r : Except TxnError Answer} {st' tw' : Frame Session}
    (hm : Moves st req r st') (hm' : Moves tw req r tw') (hc : Continues st st')
    (hc' : Continues tw tw') (hself : st'.self.Redirects tw'.self) : st'.Counterpart tw' := by
  have hp := hc.phase.trans h.staging
  have hact : st'.self.isActive = true := by simp [Connection.isActive, hp]
  have hact' : tw'.self.isActive = true := by
    simp [Connection.isActive, hc'.phase.trans h.direct]
  obtain ⟨ws, hlogged, hlogged'⟩ := h.logged
  obtain ⟨bs, hbinds, hbinds'⟩ := h.binds
  have hlogged' := hm'.logged h.coherent' hact' hlogged'
  rw [h.seen] at hlogged'
  exact
    { coherent := hm.coherent h.coherent
      coherent' := hm'.coherent h.coherent'
      staging := hp
      free := by
        rw [Free, hc.coordinator]
        exact h.free
      self := hself
      store := hc'.store.trans (h.store.trans hc.store.symm)
      coordinator := by rw [hc'.coordinator, h.coordinator, locked, locked, hc.coordinator, hc.id]
      synced := hm'.synced h.coherent' h.synced
      logged := ⟨_, hm.logged h.coherent hact hlogged, hlogged'⟩
      binds := ⟨_, hm.binds h.coherent hact hbinds, hm'.binds h.coherent' hact' hbinds'⟩ }

/-- Whatever is read or written, both sides are answered the same, and stay counterparts. -/
theorem step {req : Request} (hreq : req.isData = true) :
    ∃ r st' tw', Moves st req r st' ∧ Moves tw req r tw' ∧ st'.Counterpart tw' ∧
      (req.isWrite = false → ∃ a, r = .ok a) := by
  have hrefusal := h.refusal? hreq
  rcases hr : st.refusal? req with _ | e
  rotate_left
  · -- a refusal is the same on both sides, and only writes are refused
    rw [hr] at hrefusal
    refine ⟨_, st, tw, .refused hr, .refused hrefusal, h, ?_⟩
    intro hwrite
    revert hr hwrite hreq
    cases req <;> exact nofun
  rw [hr] at hrefusal
  rcases Request.isData_cases hreq with hon | ⟨w, hb⟩ | rfl | ⟨label, rfl⟩
  · have hm : Moves st req (.ok (req.answerIn st.seen)) (st.perform req) :=
      .statements hon hr fun _ => h.canRead
    have hm' : Moves tw req (.ok (req.answerIn st.seen)) (tw.perform req) := by
      rw [← h.seen]
      exact .statements hon hrefusal fun _ => h.canRead'
    exact ⟨_, _, _, hm, hm', h.moved hm hm' (perform_continues st req) (perform_continues tw req)
      (perform_redirects h.staging h.self h.seen req), fun _ => ⟨_, rfl⟩⟩
  · have hm := Moves.binding hb hr
    have hm' := Moves.binding hb hrefusal
    exact ⟨_, _, _, hm, hm', h.moved hm hm' (write_continues st _ w) (write_continues tw _ w)
      (write_redirects h.staging h.self _ w), fun _ => ⟨_, rfl⟩⟩
  · have hlist : tw.self.namespaces.view tw.visible.namespaces.bindings =
        st.self.namespaces.view st.visible.namespaces.bindings := by
      rw [NamespaceOverlay.view_eq, NamespaceOverlay.view_eq]
      exact congrArg NamespaceTable.bindings h.table
    exact ⟨_, st, tw, .bindings, hlist ▸ .bindings, h, fun _ => ⟨_, rfl⟩⟩
  · have hlookup : (tw.self.namespaces.lookup (m := Id) label
          fun l => tw.visible.namespaces.get? l).run =
        (st.self.namespaces.lookup (m := Id) label fun l => st.visible.namespaces.get? l).run := by
      rw [NamespaceOverlay.lookup_eq, NamespaceOverlay.lookup_eq]
      exact congrArg (SortedMap.get? · label) h.table
    exact ⟨_, st, tw, .lookup, hlookup ▸ .lookup, h, fun _ => ⟨_, rfl⟩⟩

end Counterpart

/-! ## Commits of counterparts -/

/-- Frames after transactions that have come to the same. -/
structure Siblings (st st' : Frame Session) : Prop where
  /-- the connections are siblings -/
  self : st.self.Siblings st'.self
  /-- the store is the same -/
  store : st'.store = st.store
  /-- the coordinator is the same -/
  coordinator : st'.coordinator = st.coordinator

/-- What happens to both stores alike makes no difference. -/
theorem Siblings.withStore {st st' : Frame Session} (h : st.Siblings st') (f : Store → Store) :
    Siblings { st with store := f st.store } { st' with store := f st'.store } :=
  ⟨h.self, congrArg f h.store, h.coordinator⟩

/-- Native transactions that make the same of the same store leave siblings when they are
committed. -/
theorem committed_siblings {mid mid' : Frame Session}
    (hended : mid.self.ended.Siblings mid'.self.ended) (hstore : mid'.store = mid.store)
    (hcoordinator : mid'.coordinator = mid.coordinator)
    (hcontents : mid'.committed.store.contents = mid.committed.store.contents) :
    mid.committed.Siblings mid'.committed where
  self := hended
  store :=
    calc mid'.committed.store
      _ = { mid'.store with
            contents := mid'.committed.store.contents
            version := mid'.store.version + 1 } := rfl
      _ = { mid.store with
            contents := mid.committed.store.contents
            version := mid.store.version + 1 } := by rw [hstore, hcontents]
  coordinator := by
    have hid : mid'.self.id = mid.self.id := by
      obtain ⟨events, heq⟩ := hended
      exact (congrArg Connection.id heq :)
    rw [committed, committed, hcoordinator, hid]

/-- A preparation of a transaction that takes writes has prepared it. -/
theorem Prepares.eq_prepared {st mid : Frame Session} (hp : Prepares st (.ok ()) mid)
    (hw : st.unwritable? = none) : mid = st.engaged.flushed.prepared := by
  cases hp with
  | skip hskip => exact absurd hw hskip
  | done => rfl

theorem prepared_ended (st : Frame Session) :
    st.engaged.flushed.prepared.self.ended = st.self.ended := by
  obtain ⟨session, net, gate, heq⟩ := prepared_eq st
  rw [heq]
  rfl

theorem prepared_store (st : Frame Session) : st.engaged.flushed.prepared.store = st.store :=
  engaged_flushed_store st

/-- That the transaction has been prepared is forgotten with it. -/
theorem prepared_abandoned {st : Frame Session} (h : st.Coherent) (ha : st.Available) :
    st.engaged.flushed.prepared.abandoned = st.abandoned := by
  have hphase : st.engaged.flushed.prepared.abandoned = st.engaged.flushed.abandoned := rfl
  rw [hphase, (flushed_nativeOnly st.engaged).abandoned_eq, abandoned_engaged h ha]

/-- A commit that reaches nobody publishes no change. -/
theorem Commits.change_of_unwatched {st st' : Frame Session} (h : st.Coherent)
    {change : ChangeSet} (hc : Commits st (.ok (some change)) st')
    (hwatched : st.coordinator.isWatched = false) : change = ⟨st.self.id, ∅, ∅⟩ := by
  cases hc with
  | done hact hp =>
    rw [published, hp.isWatched, hwatched, (hp.keeps h).id]
    rfl

/-- Commits of one connection that make the same difference publish the same. -/
theorem Commits.change_unique {st st' tw tw' : Frame Session} (h : st.Coherent)
    (h' : tw.Coherent) (hs : st.Synced) (hs' : tw.Synced) {change change' : ChangeSet}
    (hc : Commits st (.ok (some change)) st') (hc' : Commits tw (.ok (some change')) tw')
    (hid : tw.self.id = st.self.id)
    (hwatched : tw.coordinator.isWatched = st.coordinator.isWatched)
    (hbefore : tw.store = st.store) (hafter : tw'.store = st'.store) : change' = change := by
  rcases hreached : st.coordinator.isWatched with _ | _
  · rw [hc.change_of_unwatched h hreached,
      hc'.change_of_unwatched h' (hwatched.trans hreached), hid]
  · rw [(hc.change_eq h hs).2 hreached, (hc'.change_eq h' hs').2 (hwatched.trans hreached), hid,
      hbefore, hafter]

namespace Counterpart

variable {st tw : Frame Session} (h : st.Counterpart tw)

include h

theorem id : tw.self.id = st.self.id := by
  obtain ⟨session, net, events, hself⟩ := h.self
  rw [hself]
  rfl

theorem available : st.Available := .inr h.free

theorem available' : tw.Available := .inl h.direct

theorem verdict? : tw.verdict? = st.verdict? := by
  obtain ⟨session, net, events, hself⟩ := h.self
  rw [Frame.verdict?, Frame.verdict?, hself]
  rfl

theorem abandoned : st.abandoned.Siblings tw.abandoned where
  self := h.self.ended
  store := h.store
  coordinator := by
    have hlocked : tw.abandoned.coordinator = st.locked.abandoned.coordinator := by
      rw [Frame.abandoned, h.coordinator, h.id]
      rfl
    rw [hlocked, abandoned_locked (h.coherent.free_iff.mp h.free)]

theorem prepared_coordinator :
    tw.engaged.flushed.prepared.coordinator = st.engaged.flushed.prepared.coordinator := by
  have hcontinues := (flushed_nativeOnly st.engaged).continues.coordinator
  have hcontinues' := (flushed_nativeOnly tw.engaged).continues.coordinator
  have hengaged : st.engaged.coordinator = st.locked.coordinator := by
    rw [engaged, if_neg (by simp [h.staging])]
    rfl
  have hengaged' : tw.engaged = tw := if_pos h.direct
  change tw.engaged.flushed.coordinator = st.engaged.flushed.coordinator
  rw [hcontinues, hcontinues', hengaged, hengaged', h.coordinator]

/-- If both can be committed, the same is committed and published. -/
theorem commits_done {mid mid' : Frame Session} (hp : Prepares st (.ok ()) mid)
    (hp' : Prepares tw (.ok ()) mid') (hf : mid.store.failCommit = false)
    (hf' : mid'.store.failCommit = false) :
    mid.committed.Siblings mid'.committed ∧ mid'.published = mid.published := by
  have hc : Commits st _ _ := .done (isActive_of_writable h.writable) hp hf
  have hc' : Commits tw _ _ := .done (isActive_of_writable h.writable') hp' hf'
  obtain rfl := hp.eq_prepared h.writable
  obtain rfl := hp'.eq_prepared h.writable'
  have hs : st.Synced := synced_of_none (h.coherent.staging h.staging).1
  obtain ⟨ws, hlogged, hlogged'⟩ := h.logged
  obtain ⟨bs, hbinds, hbinds'⟩ := h.binds
  -- the native transactions differ in their journals, but each commit replays the same log
  have hstatements : tw.engaged.flushed.prepared.committed.store.contents.statements =
      st.engaged.flushed.prepared.committed.store.contents.statements := by
    rw [hc.statements_eq h.coherent hs hlogged, hc'.statements_eq h.coherent' h.synced hlogged',
      h.store]
  have hnamespaces : tw.engaged.flushed.prepared.committed.store.contents.namespaces =
      st.engaged.flushed.prepared.committed.store.contents.namespaces := by
    rw [hc.namespaces_eq hbinds, hc'.namespaces_eq hbinds', h.store]
  have hended : st.engaged.flushed.prepared.self.ended.Siblings
      tw.engaged.flushed.prepared.self.ended := by
    rw [prepared_ended, prepared_ended]
    exact h.self.ended
  have hstore : tw.engaged.flushed.prepared.store = st.engaged.flushed.prepared.store := by
    rw [prepared_store, prepared_store, h.store]
  have hsiblings := committed_siblings hended hstore h.prepared_coordinator
    (congrArg₂ Contents.mk hstatements hnamespaces)
  have hwatched : tw.coordinator.isWatched = st.coordinator.isWatched := by
    rw [h.coordinator]
    rfl
  exact ⟨hsiblings, hc.change_unique h.coherent h.coherent' hs h.synced hc' h.id hwatched h.store
    hsiblings.store⟩

/-- A commit comes to the same on both sides. -/
theorem commits : ∃ r st' tw', Commits st r st' ∧ Commits tw r tw' ∧ st'.Siblings tw' := by
  have hact := isActive_of_writable h.writable
  have hact' := isActive_of_writable h.writable'
  have hverdict := h.verdict?
  have habandoned := h.abandoned
  rcases hv : st.verdict? with _ | e
  rotate_left
  · rw [hv] at hverdict
    exact ⟨_, _, _, .refused hact (.conflict h.writable h.available hv),
      .refused hact' (.conflict h.writable' h.available' hverdict), habandoned⟩
  rw [hv] at hverdict
  rcases hprepare : st.store.failPrepare with _ | _
  rotate_left
  · have hprepare' : tw.store.failPrepare = true := by rw [h.store, hprepare]
    exact ⟨_, _, _, .refused hact (.failed h.writable h.available hv hprepare),
      .refused hact' (.failed h.writable' h.available' hverdict hprepare'),
      habandoned.withStore fun store => { store with failPrepare := false }⟩
  have hprepare' : tw.store.failPrepare = false := by rw [h.store, hprepare]
  have hp : Prepares st (.ok ()) st.engaged.flushed.prepared :=
    .done h.writable h.available hv hprepare
  have hp' : Prepares tw (.ok ()) tw.engaged.flushed.prepared :=
    .done h.writable' h.available' hverdict hprepare'
  have hf := congrArg Store.failCommit (prepared_store st)
  have hf' := congrArg Store.failCommit ((prepared_store tw).trans h.store)
  rcases hcommit : st.store.failCommit with _ | _
  · obtain ⟨hsiblings, hpublished⟩ := h.commits_done hp hp' (hf.trans hcommit) (hf'.trans hcommit)
    exact ⟨_, _, _, .done hact hp (hf.trans hcommit),
      hpublished ▸ .done hact' hp' (hf'.trans hcommit), hsiblings⟩
  · have hc : Commits st _ _ := .failed hact hp (hf.trans hcommit)
    have hc' : Commits tw _ _ := .failed hact' hp' (hf'.trans hcommit)
    rw [prepared_abandoned h.coherent h.available] at hc
    rw [prepared_abandoned h.coherent' h.available'] at hc'
    exact ⟨_, _, _, hc, hc', habandoned.withStore fun store => { store with failCommit := false }⟩

end Counterpart

end Frame

end QuadTxn
