import QuadTxn.Proofs.Calls.Commits
import QuadTxn.Proofs.Staging.Bindings

/-!
# The table of namespace bindings follows the log

The bindings that a transaction has written are a list of writes. What the connection finds bound is
the committed bindings with this list replayed (`Frame.Binds.table_eq`), in every phase: while the
bindings are staged, once they are written natively, and after the native transaction is ready for
commit, when what is staged is laid over a table that holds it already. Every call keeps this
(`Frame.Moves.binds`), and a commit makes the table the committed one
(`Frame.Commits.namespaces_eq`).

Statements that others put into the store behind a native transaction make no difference here.
-/

namespace QuadTxn

/-- What a request adds to the namespace bindings written by its transaction, with what it was
answered. -/
def Request.bound (req : Request) : Except TxnError Answer → List Write
  | .ok _ => req.binding?.toList
  | .error _ => []

/-- Writing all that is staged makes of a table what the staged bindings make of it. -/
theorem NamespaceOverlay.replay_writes (o : NamespaceOverlay) (t : NamespaceTable) :
    t.replay o.writes = o.onto t := by
  rw [writes, NamespaceTable.replay_append, NamespaceTable.replay_append, replay_bind,
    replay_unbind, onto]
  simp only [SortedSet.mem_def]
  rcases o.cleared with _ | _
  · rfl
  · -- there is nothing left to unbind
    have hnone : (∅ : NamespaceTable).filter (fun label _ => label ∉ o.unbound.toList) = ∅ := rfl
    exact congrArg (SortedMap.insertMany · o.bound.entries) hnone

namespace Session

/-- A native transaction runs, its working copy has a table of bindings, and its journal makes this
table of the committed one. -/
def Binds (s : Session) (base table : NamespaceTable) : Prop :=
  ∃ t, s.txn = some t ∧ t.working.namespaces = table ∧ base.replay t.journal = table

theorem Binds.record {s : Session} {base table : NamespaceTable} (h : s.Binds base table)
    (w : Write) : (s.record w).Binds base (table.apply w) := by
  obtain ⟨t, ht, hworking, hjournal⟩ := h
  refine ⟨_, congrArg (Option.map _) ht, ?_, ?_⟩
  · rw [← hworking]
    exact Contents.apply_namespaces _ _
  · rw [NamespaceTable.replay_append, hjournal]
    rfl

theorem Binds.foldl_record {s : Session} {base table : NamespaceTable} (h : s.Binds base table)
    (ws : List Write) : (ws.foldl Session.record s).Binds base (table.replay ws) := by
  induction ws generalizing s table with
  | nil => exact h
  | cons w ws ih => exact ih (h.record w)

theorem Binds.sealed {s : Session} {base table : NamespaceTable} (h : s.Binds base table) :
    s.sealed.Binds base table := by
  obtain ⟨t, ht, hworking, hjournal⟩ := h
  exact ⟨_, congrArg (Option.map _) ht, hworking, hjournal⟩

end Session

namespace Frame

/-! ## Native writes -/

/-- The native transaction has a table of bindings. -/
def Holds (st : Frame Session) (table : NamespaceTable) : Prop :=
  st.self.session.Binds st.store.contents.namespaces table

theorem Holds.storeAdd {st : Frame Session} {table : NamespaceTable} (h : st.Holds table)
    (s : Statement) : (st.storeAdd s).Holds table := by
  rw [Frame.storeAdd]
  split
  · exact h
  · exact h.record (.add s)

theorem Holds.storeRemove {st : Frame Session} {table : NamespaceTable} (h : st.Holds table)
    (s : Statement) : (st.storeRemove s).Holds table := h.record (.remove s)

theorem Holds.writeNative {st : Frame Session} {table : NamespaceTable} (h : st.Holds table)
    (w : Write) : (st.writeNative w).Holds (table.apply w) := by
  cases w with
  | add s => exact h.storeAdd s
  | remove s => exact h.storeRemove s
  | bind label name => exact h.record (.bind label name)
  | unbind label => exact h.record (.unbind label)
  | unbindAll => exact h.record .unbindAll

theorem Holds.foldl {α : Type} {f : Frame Session → α → Frame Session} {table : NamespaceTable}
    (hf : ∀ {st : Frame Session}, st.Holds table → ∀ a, (f st a).Holds table)
    {st : Frame Session} (h : st.Holds table) (l : List α) : (l.foldl f st).Holds table := by
  induction l generalizing st with
  | nil => exact h
  | cons a l ih => exact ih (hf h a)

theorem Holds.storeBatch {st : Frame Session} {table : NamespaceTable} (h : st.Holds table)
    (b : Batch) : (st.storeBatch b).Holds table :=
  .foldl Holds.storeAdd (.foldl Holds.storeRemove h _) _

/-- Writing all that is staged lays the staged bindings over the table. -/
theorem Holds.flushed {st : Frame Session} {table : NamespaceTable} (h : st.Holds table) :
    st.flushed.Holds (st.self.namespaces.onto table) := by
  rw [← NamespaceOverlay.replay_writes]
  have hbound : st.bound.Holds (table.replay st.self.namespaces.writes) := h.foldl_record _
  exact .foldl Holds.storeBatch hbound _

/-- A native transaction that has just been started has the committed table. -/
theorem opened_holds (st : Frame Session) : st.opened.Holds st.store.contents.namespaces :=
  ⟨_, rfl, rfl, rfl⟩

/-! ## The written bindings -/

/-- The namespace bindings that the connection finds. -/
def table (st : Frame Session) : NamespaceTable :=
  st.self.namespaces.onto st.visible.namespaces

/-- The native transaction has a table, and what is staged is in it already. -/
def Carries (st : Frame Session) (table : NamespaceTable) : Prop :=
  st.Holds table ∧ st.self.namespaces.onto table = table

/-- A list of writes is what the transaction has written to the namespace bindings: the staged
bindings stand for it, and once there is a native transaction, that has the committed bindings with
the list replayed. -/
def Binds (st : Frame Session) (ws : List Write) : Prop :=
  match st.self.phase with
  | .idle => ws = []
  | .staging => st.self.namespaces.Follows ws
  | .direct | .prepared => st.Carries (st.store.contents.namespaces.replay ws)

section Binds

variable {st : Frame Session} {ws : List Write}

theorem binds_idle (hp : st.self.phase = .idle) : st.Binds ws ↔ ws = [] := by
  rw [Binds, hp]

theorem binds_staging (hp : st.self.phase = .staging) :
    st.Binds ws ↔ st.self.namespaces.Follows ws := by
  rw [Binds, hp]

theorem binds_engaged (hp : st.self.phase = .direct ∨ st.self.phase = .prepared) :
    st.Binds ws ↔ st.Carries (st.store.contents.namespaces.replay ws) := by
  rw [Binds]
  rcases hp with hp | hp <;> rw [hp]

theorem table_of_none (hs : st.self.session = ⟨none⟩) :
    st.table = st.self.namespaces.onto st.store.contents.namespaces := by
  simp [table, visible, Session.visible, hs]

theorem Carries.table_eq {t : NamespaceTable} (hc : st.Carries t) : st.table = t := by
  obtain ⟨⟨txn, htxn, hworking, -⟩, honto⟩ := hc
  have hvisible : st.visible.namespaces = t := by
    rw [visible, Session.visible, htxn]
    exact hworking
  rw [table, hvisible, honto]

/-- The connection finds the committed bindings with what it has written replayed. -/
theorem Binds.table_eq (hb : st.Binds ws) (h : st.Coherent) :
    st.table = st.store.contents.namespaces.replay ws := by
  rcases hp : st.self.phase with _ | _ | _ | _
  · obtain ⟨hsession, -, -, -, -, -, hnamespaces⟩ := h.idle hp
    obtain rfl := (binds_idle hp).mp hb
    rw [table_of_none hsession, hnamespaces, NamespaceOverlay.onto_empty,
      NamespaceTable.replay_nil]
  · rw [table_of_none (h.staging hp).1]
    exact (binds_staging hp).mp hb _
  · exact ((binds_engaged (.inl hp)).mp hb).table_eq
  · exact ((binds_engaged (.inr hp)).mp hb).table_eq

/-- A frame that differs in nothing that the bindings depend on has the same ones written. -/
theorem Binds.congr {st' : Frame Session} (hb : st.Binds ws)
    (hphase : st'.self.phase = st.self.phase)
    (hnamespaces : st'.self.namespaces = st.self.namespaces)
    (hsession : st'.self.session = st.self.session)
    (hcontents : st'.store.contents.namespaces = st.store.contents.namespaces) :
    st'.Binds ws := by
  rw [Binds] at hb ⊢
  rw [hphase, hnamespaces, Carries, Holds, hsession, hcontents, hnamespaces]
  exact hb

/-- Writes that are no writes of bindings can be left out. -/
theorem Binds.of_replay {ws' : List Write} (hb : st.Binds ws) (hact : st.self.isActive = true)
    (heq : ∀ t : NamespaceTable, t.replay ws = t.replay ws') : st.Binds ws' := by
  rw [Binds] at hb ⊢
  rcases hp : st.self.phase with _ | _ | _ | _
  · exact absurd hp (Connection.isActive_iff.mp hact)
  · simp only [hp] at hb
    exact fun t => (hb t).trans (heq t)
  · simpa only [hp, heq] using hb
  · simpa only [hp, heq] using hb

/-! ## Writes -/

/-- Staging a write does to the table what the write does. -/
theorem onto_stage (c : Connection Session) (kind : BatchKind) (w : Write) (t : NamespaceTable) :
    (c.stage kind w).namespaces.onto t = (c.namespaces.onto t).apply w := by
  cases w with
  | add s => rfl
  | remove s => rfl
  | bind label name => exact c.namespaces.onto_bind label name t
  | unbind label => exact c.namespaces.onto_unbind label t
  | unbindAll => exact c.namespaces.onto_clear t

theorem Binds.write (hb : st.Binds ws) (h : st.Coherent) (hw : st.unwritable? = none)
    (kind : BatchKind) (w : Write) : (st.write kind w).Binds (ws ++ [w]) := by
  have hc := write_continues st kind w
  rcases phase_of_writable hw with hp | hp
  · have hstaged : (st.write kind w).self.namespaces = (st.self.stage kind w).namespaces := by
      have hnot : st.self.phase ≠ .direct := by simp [hp]
      rw [Frame.write, if_neg hnot]
      rfl
    rw [binds_staging (hc.phase.trans hp), hstaged]
    exact ((binds_staging hp).mp hb).snoc (onto_stage st.self kind w)
  · obtain ⟨hholds, -⟩ := (binds_engaged (.inl hp)).mp hb
    have hwrite : st.write kind w = (st.writeNative w).report w := by rw [Frame.write, if_pos hp]
    obtain ⟨session, net, heq⟩ := writeNative_nativeOnly st w
    have hunstaged : (st.write kind w).self.namespaces = ∅ := by
      rw [hwrite, heq]
      exact (h.direct hp).2.2.2.2
    rw [binds_engaged (.inl (hc.phase.trans hp)), hc.store, NamespaceTable.replay_append, Carries,
      hunstaged, NamespaceOverlay.onto_empty, hwrite]
    exact ⟨hholds.writeNative w, rfl⟩

theorem Binds.foldl_write (hb : st.Binds ws) (h : st.Coherent) (hw : st.unwritable? = none)
    (kind : BatchKind) {ws' : List Write} (hwf : ∀ s, .add s ∈ ws' → s.WellFormed) :
    (ws'.foldl (Frame.write kind) st).Binds (ws ++ ws') := by
  induction ws' generalizing st ws with
  | nil =>
    rw [List.append_nil]
    exact hb
  | cons w ws' ih =>
    have hsound := write_sound h.sound hw kind
      (fun s hs => hwf s (hs ▸ List.mem_cons_self) : ∀ s, w = .add s → s.WellFormed)
    have hc := write_continues st kind w
    have hrest := ih (hb.write h hw kind w) (h.continues hc hsound) (hc.unwritable?.trans hw)
      fun s hs => hwf s (List.mem_cons_of_mem _ hs)
    rw [List.append_assoc] at hrest
    exact hrest

end Binds

/-- What a request on statements writes is nothing to the bindings. -/
theorem replay_writesIn (req : Request) (m : Model) (t : NamespaceTable) :
    t.replay (req.writesIn m) = t := by
  have hall : ∀ ws : List Write, (∀ w ∈ ws, (∃ s, w = .add s) ∨ ∃ s, w = .remove s) →
      t.replay ws = t := by
    intro ws
    induction ws with
    | nil => exact fun _ => rfl
    | cons w ws ih =>
      intro hws
      obtain ⟨hw, hrest⟩ := List.forall_mem_cons.mp hws
      rcases hw with ⟨s, rfl⟩ | ⟨s, rfl⟩
      · exact ih hrest
      · exact ih hrest
  exact hall _ fun _ hw => isStatement_of_mem_writesIn hw

theorem Binds.noted {st : Frame Session} {ws : List Write} (hb : st.Binds ws) (req : Request) :
    (st.noted req).Binds ws := by
  obtain ⟨ledger, events, heq, -⟩ := noted_eq st req
  rw [heq]
  exact hb.congr rfl rfl rfl rfl

/-- A request on statements leaves the written bindings as they are. -/
theorem Binds.perform {st : Frame Session} {ws : List Write} (hb : st.Binds ws)
    (h : st.Coherent) {req : Request} (hr : st.refusal? req = none) :
    (st.perform req).Binds ws := by
  by_cases hwrite : req.isWrite = true
  · rw [refusal?_of_isWrite hwrite, Option.or_eq_none_iff] at hr
    have hnoted := h.continues (noted_continues st req) (noted_sound h req)
    have hw : (st.noted req).unwritable? = none :=
      (noted_continues st req).unwritable?.trans hr.2
    have hact : (st.perform req).self.isActive = true := by
      rw [Connection.isActive, (perform_continues st req).phase]
      exact isActive_of_writable hr.2
    have hall := (hb.noted req).foldl_write hnoted hw req.batch
      (fun s hs => wellFormed_of_mem_writesIn hr.1 hs :
        ∀ s, .add s ∈ req.writesIn st.seen → s.WellFormed)
    refine hall.of_replay hact fun t => ?_
    rw [NamespaceTable.replay_append, replay_writesIn]
  · rw [perform_read (Request.writesIn_of_not_isWrite hwrite _)]
    exact hb.noted req

/-! ## Changes of phase -/

/-- The native transaction under the gate has a table over which the staged bindings make what the
transaction has written. -/
theorem Binds.engaged {st : Frame Session} {ws : List Write} (hb : st.Binds ws)
    (hw : st.unwritable? = none) : ∃ table, st.engaged.Holds table ∧
      st.self.namespaces.onto table = st.store.contents.namespaces.replay ws := by
  rw [Frame.engaged]
  split
  · rename_i hp
    exact ⟨_, (binds_engaged (.inl hp)).mp hb⟩
  · rename_i hp
    have hstaging := (phase_of_writable hw).resolve_right hp
    exact ⟨_, opened_holds st.locked, (binds_staging hstaging).mp hb _⟩

/-- A transaction that a preparation leaves running has written the same bindings. -/
theorem Prepares.binds {st st' : Frame Session} (hp : Prepares st (.ok ()) st') {ws : List Write}
    (hb : st.Binds ws) : st'.Binds ws := by
  cases hp with
  | skip => exact hb
  | done hw =>
    obtain ⟨table, hholds, honto⟩ := hb.engaged hw
    obtain ⟨session, hself⟩ := engaged_self st
    obtain ⟨session', net, hflushed⟩ := flushed_nativeOnly st.engaged
    have hstaged : st.engaged.self.namespaces = st.self.namespaces := by rw [hself]
    have hkept : st.engaged.flushed.prepared.self.namespaces = st.self.namespaces := by
      rw [hflushed, Frame.prepared, update_self, update_self, hself]
    have hstore : st.engaged.flushed.prepared.store = st.store := engaged_flushed_store st
    have hnative := hholds.flushed
    rw [hstaged, honto, Holds, engaged_flushed_store] at hnative
    rw [binds_engaged (.inr rfl), Carries, Holds, hkept, hstore, ← honto]
    refine ⟨?_, NamespaceOverlay.onto_onto _ _⟩
    rw [honto]
    exact hnative.sealed

/-! ## Moves and commits -/

/-- A move of a transaction that runs, before and after it, adds to the written bindings what the
request writes. -/
theorem Moves.binds {st : Frame Session} (h : st.Coherent) {req : Request}
    {r : Except TxnError Answer} {st' : Frame Session} (hm : Moves st req r st')
    (hact : st'.self.isActive = true) {ws : List Write} (hb : st.Binds ws) :
    st'.Binds (ws ++ req.bound r) := by
  have hsame : ∀ {req : Request} {r : Except TxnError Answer} {ws : List Write},
      req.binding? = none → ws ++ req.bound r = ws := by
    intro req r ws hreq
    rcases r with e | a
    · exact List.append_nil ws
    · rw [Request.bound, hreq]
      exact List.append_nil ws
  cases hm with
  | refused => simpa [Request.bound] using hb
  | @statements req hon hr =>
    have hreq : req.binding? = none := by
      rcases hbinding : req.binding? with _ | w
      · rfl
      · rw [Request.onStatements_of_binding hbinding] at hon
        cases hon
    rw [hsame hreq]
    exact hb.perform h hr
  | @binding _ w hbinding hr =>
    rw [Request.bound, hbinding]
    exact hb.write h (writable_of_binding hbinding hr) .explicit w
  | bindings => rwa [hsame rfl]
  | lookup => rwa [hsame rfl]
  | beginStaged hp =>
    obtain rfl : ws = [] := (binds_idle hp).mp hb
    exact (binds_staging rfl).mpr .empty
  | beginDirect hp =>
    obtain rfl : ws = [] := (binds_idle hp).mp hb
    exact (binds_engaged (.inl rfl)).mpr
      ⟨opened_holds st.begun.locked, NamespaceOverlay.onto_empty _⟩
  | beginTimeout => cases hact
  | prepare hp =>
    rw [hsame rfl]
    rename_i r
    rcases r with e | _
    · exact absurd hp.error_idle (Connection.isActive_iff.mp hact)
    · exact hp.binds hb
  | rollback =>
    rw [hsame rfl]
    split at hact
    · cases hact
    · rw [if_neg ‹_›]
      exact hb
  | @flags req _ hi =>
    have hreq : req.binding? = none := by
      cases req <;> first | rfl | cases hi
    rw [hsame hreq]
    exact hb.congr rfl rfl rfl rfl
  | switch hs hp =>
    have hstaged : st.self.namespaces.onto st.store.contents.namespaces = _ :=
      (binds_staging hp).mp hb _
    have hnative := (opened_holds st.locked).flushed
    have hstore : st.locked.opened.flushed.switched.store = st.store :=
      (flushed_nativeOnly st.locked.opened).continues.store
    rw [hsame (by rw [hs.1]; rfl), binds_engaged (.inl rfl), hstore, ← hstaged]
    exact ⟨hnative, NamespaceOverlay.onto_empty _⟩
  | switchTimeout => simpa [Request.bound] using hb
  | listen =>
    rw [hsame rfl]
    exact hb.congr rfl rfl rfl rfl
  | unlisten =>
    rw [hsame rfl]
    exact hb.congr rfl rfl rfl rfl

/-- A commit makes the bindings that the connection finds the committed ones. -/
theorem Commits.namespaces_eq {st : Frame Session} {change : ChangeSet} {st' : Frame Session}
    (hc : Commits st (.ok (some change)) st') {ws : List Write} (hb : st.Binds ws) :
    st'.store.contents.namespaces = st.store.contents.namespaces.replay ws := by
  cases hc with
  | @done st₁ hact hp =>
    obtain ⟨⟨t, ht, -, hjournal⟩, -⟩ := (binds_engaged (.inr (hp.ok_phase hact))).mp (hp.binds hb)
    have hreplay : st₁.committed.store.contents.namespaces =
        st₁.store.contents.namespaces.replay t.journal := by
      simp [committed, journal, ht, Contents.replay_namespaces]
    rw [hreplay, hjournal, hp.contents]

end Frame

end QuadTxn
