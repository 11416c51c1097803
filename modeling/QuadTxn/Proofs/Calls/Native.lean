import QuadTxn.Proofs.Calls.Lifecycle
import QuadTxn.Proofs.Staging.Batches

/-!
# The native transaction and its account of changes

A native transaction works on a copy of the store's contents, and the connection keeps account of
what has changed in the copy on balance. As long as the contents of the store stay as they were at
the start, the copy is these contents with the journal replayed, and the account is the difference
between the two, however often a statement was added and removed (`Frame.Synced`). Writing all that
is staged takes the copy to the view (`Frame.flushed_statements`).
-/

namespace QuadTxn

namespace Model

variable {m base : Model} {s : Statement}

theorem erase_of_not_mem (h : s ∉ m) : m.erase s = m := by
  ext t
  rw [SortedSet.mem_erase]
  constructor
  · exact And.left
  · rintro ht
    refine ⟨ht, ?_⟩
    rintro rfl
    exact h ht

/-- What is new with one statement more. -/
theorem insert_diff : (m.insert s).diff base =
    if s ∈ base then m.diff base else (m.diff base).insert s := by
  ext t
  by_cases hbase : s ∈ base
  · rw [if_pos hbase, SortedSet.mem_diff, SortedSet.mem_diff, SortedSet.mem_insert]
    by_cases ht : t = s <;> simp [ht, hbase]
  · rw [if_neg hbase, SortedSet.mem_diff, SortedSet.mem_insert, SortedSet.mem_insert,
      SortedSet.mem_diff]
    by_cases ht : t = s <;> simp [ht, hbase]

/-- What is new with one statement less. -/
theorem erase_diff : (m.erase s).diff base = (m.diff base).erase s := by
  ext t
  rw [SortedSet.mem_diff, SortedSet.mem_erase, SortedSet.mem_erase, SortedSet.mem_diff]
  exact and_right_comm

/-- What is gone with one statement more. -/
theorem diff_insert : base.diff (m.insert s) = (base.diff m).erase s := by
  ext t
  rw [SortedSet.mem_diff, SortedSet.mem_insert, SortedSet.mem_erase, SortedSet.mem_diff, not_or,
    and_assoc, and_comm (a := ¬t = s)]

/-- What is gone with one statement less. -/
theorem diff_erase : base.diff (m.erase s) =
    if s ∈ base then (base.diff m).insert s else base.diff m := by
  ext t
  by_cases hbase : s ∈ base
  · rw [if_pos hbase, SortedSet.mem_diff, SortedSet.mem_erase, SortedSet.mem_insert,
      SortedSet.mem_diff]
    by_cases ht : t = s <;> simp [ht, hbase]
  · rw [if_neg hbase, SortedSet.mem_diff, SortedSet.mem_erase, SortedSet.mem_diff]
    by_cases ht : t = s <;> simp [ht, hbase]

end Model

namespace NetChanges

variable {base now : Model} {s : Statement}

/-- The changes from one set of statements to another. -/
def between (base now : Model) : NetChanges := ⟨now.diff base, base.diff now⟩

theorem between_self (m : Model) : between m m = ∅ := by
  have hnone : m.diff m = ∅ := by
    ext s
    simp
  rw [between, hnone]
  rfl

/-- Adding a missing statement is accounted for. -/
theorem recordAdd_between (h : s ∉ now) :
    (between base now).recordAdd s = between base (now.insert s) := by
  have hremoved : s ∈ (between base now).removed ↔ s ∈ base :=
    SortedSet.mem_diff.trans (and_iff_left h)
  by_cases hbase : s ∈ base
  · -- the statement comes back
    rw [recordAdd, if_pos (hremoved.mpr hbase), between, between, Model.insert_diff,
      if_pos hbase, Model.diff_insert]
  · -- the statement is new, and it had not been removed either
    have hnone : (base.diff now).erase s = base.diff now :=
      Model.erase_of_not_mem (mt hremoved.mp hbase)
    rw [recordAdd, if_neg (mt hremoved.mp hbase), between, between, Model.insert_diff,
      if_neg hbase, Model.diff_insert, hnone]

/-- Removing a present statement is accounted for. -/
theorem recordRemove_between (h : s ∈ now) :
    (between base now).recordRemove s = between base (now.erase s) := by
  have hadded : s ∈ (between base now).added ↔ s ∉ base :=
    SortedSet.mem_diff.trans (and_iff_right h)
  by_cases hbase : s ∈ base
  · -- the statement is gone, and it had not been added either
    have hold : s ∉ (between base now).added := fun hs => hadded.mp hs hbase
    have hnone : (now.diff base).erase s = now.diff base := Model.erase_of_not_mem hold
    rw [recordRemove, if_neg hold, between, between, Model.erase_diff, hnone, Model.diff_erase,
      if_pos hbase]
  · -- the statement had been added
    rw [recordRemove, if_pos (hadded.mpr hbase), between, between, Model.erase_diff,
      Model.diff_erase, if_neg hbase]

end NetChanges

namespace Frame

/-! ## What a native write does to what is read -/

theorem visible_record {st : Frame Session} (h : st.self.session.Open) (w : Write) :
    (st.update (·.record w)).visible = st.visible.apply w := by
  obtain ⟨t, ht, -⟩ := h
  simp [visible, update, Connection.record, Session.record, Session.visible, ht]

theorem visible_storeAdd {st : Frame Session} (h : st.self.session.Open) (s : Statement) :
    (st.storeAdd s).visible.statements = st.visible.statements.insert s := by
  rw [storeAdd]
  split
  · rename_i hmem
    ext t
    rw [SortedSet.mem_insert]
    constructor
    · exact .inr
    · rintro (rfl | ht)
      · exact hmem
      · exact ht
  · exact congrArg Contents.statements (visible_record h (.add s))

theorem visible_storeRemove {st : Frame Session} (h : st.self.session.Open) (s : Statement) :
    (st.storeRemove s).visible.statements = st.visible.statements.erase s :=
  congrArg Contents.statements (visible_record h (.remove s))

theorem visible_writeNative {st : Frame Session} (h : st.self.session.Open) (w : Write) :
    (st.writeNative w).visible.statements = st.visible.statements.apply w := by
  cases w with
  | add s => exact visible_storeAdd h s
  | remove s => exact visible_storeRemove h s
  | bind label name => exact (congrArg Contents.statements (visible_record h (.bind label name)) :)
  | unbind label => exact (congrArg Contents.statements (visible_record h (.unbind label)) :)
  | unbindAll => exact (congrArg Contents.statements (visible_record h .unbindAll) :)

theorem visible_foldl_writeNative {st : Frame Session} (h : st.self.session.Open)
    (ws : List Write) :
    (ws.foldl writeNative st).visible.statements = st.visible.statements.replay ws := by
  induction ws generalizing st with
  | nil => rfl
  | cons w ws ih =>
    rw [List.foldl_cons, ih (writeNative_open h w), visible_writeNative h]
    rfl

/-- Batches are done write by write. -/
theorem foldl_storeBatch (bs : List Batch) (st : Frame Session) :
    bs.foldl storeBatch st = (bs.flatMap Batch.writes).foldl writeNative st := by
  induction bs generalizing st with
  | nil => rfl
  | cons b bs ih =>
    have hbatch : st.storeBatch b = b.writes.foldl writeNative st := by
      rw [Batch.writes, List.foldl_append, List.foldl_map, List.foldl_map]
      rfl
    rw [List.foldl_cons, ih, hbatch, List.flatMap_cons, List.foldl_append]

theorem apply_of_mem_namespaceWrites {o : NamespaceOverlay} {w : Write} (hw : w ∈ o.writes)
    (m : Model) : m.apply w = m := by
  simp only [NamespaceOverlay.writes, List.mem_append, List.mem_map] at hw
  rcases hw with (hw | ⟨label, -, rfl⟩) | ⟨e, -, rfl⟩
  · split at hw
    · obtain rfl := List.mem_singleton.mp hw
      rfl
    · cases hw
  · rfl
  · rfl

theorem visible_bound {st : Frame Session} (h : st.self.session.Open) :
    st.bound.visible.statements = st.visible.statements := by
  have hfold : ∀ (ws : List Write) (s : Session), s.Open →
      (∀ w ∈ ws, ∀ m : Model, m.apply w = m) →
      ((ws.foldl Session.record s).visible st.store).statements =
        (s.visible st.store).statements := by
    intro ws
    induction ws with
    | nil => exact fun _ _ _ => rfl
    | cons w ws ih =>
      intro s h hws
      rw [List.foldl_cons, ih _ (h.record w) fun w' hw' => hws w' (List.mem_cons_of_mem _ hw')]
      obtain ⟨t, ht, -⟩ := h
      simp only [Session.visible, Session.record, ht, Option.map_some, Contents.apply_statements,
        hws w List.mem_cons_self]
  exact hfold _ _ h fun w hw => apply_of_mem_namespaceWrites hw

/-- Writing all that is staged takes what is read to the view. -/
theorem flushed_statements {st : Frame Session} (h : st.self.session.Open)
    (hcons : st.self.staging.Consistent) : st.flushed.visible.statements = st.seen := by
  have hopen : st.bound.self.session.Open := Session.open_foldl_record h _
  rw [flushed, foldl_storeBatch, visible_foldl_writeNative hopen, visible_bound h,
    hcons.replay_perm .rfl]
  rfl

/-! ## The account -/

/-- The copy is the contents of the store with the journal replayed, and the account of changes is
the difference of their statements. -/
def Synced (st : Frame Session) : Prop :=
  ∀ t, st.self.session.txn = some t →
    t.working = st.store.contents.replay t.journal ∧
      st.self.net = .between st.store.contents.statements t.working.statements

theorem synced_of_none {st : Frame Session} (h : st.self.session = ⟨none⟩) : st.Synced := by
  intro t ht
  rw [h] at ht
  cases ht

/-- A native transaction that has just been started is in step. -/
theorem opened_synced {st : Frame Session} (h : st.self.net = ∅) : st.opened.Synced := by
  rintro t ⟨⟩
  exact ⟨rfl, h.trans (NetChanges.between_self _).symm⟩

/-- One recorded write keeps in step, if the account follows it. -/
theorem Synced.record {st : Frame Session} (h : st.Synced) {w : Write} {net : NetChanges}
    (hnet : ∀ t, st.self.session.txn = some t →
      st.self.net = .between st.store.contents.statements t.working.statements →
      net = .between st.store.contents.statements (t.working.statements.apply w)) :
    (st.update fun c => { c.record w with net := net }).Synced := by
  intro t ht
  rcases htxn : st.self.session.txn with _ | t₀
  · simp [update, Connection.record, Session.record, htxn] at ht
  · obtain ⟨hworking, hbetween⟩ := h t₀ htxn
    obtain rfl : { t₀ with
        working := t₀.working.apply w
        journal := t₀.journal ++ [w] } = t := by
      simpa [update, Connection.record, Session.record, htxn] using ht
    refine ⟨?_, ?_⟩
    · change t₀.working.apply w = st.store.contents.replay (t₀.journal ++ [w])
      rw [Contents.replay_append, hworking]
      rfl
    · change net = .between _ (t₀.working.apply w).statements
      rw [Contents.apply_statements]
      exact hnet t₀ htxn hbetween

theorem Synced.storeAdd {st : Frame Session} (h : st.Synced) (s : Statement) :
    (st.storeAdd s).Synced := by
  rw [Frame.storeAdd]
  split
  · exact h
  · rename_i hmem
    refine h.record fun t ht hnet => ?_
    have hnew : s ∉ t.working.statements := by
      simpa [visible, Session.visible, ht] using hmem
    rw [hnet, NetChanges.recordAdd_between hnew]
    rfl

theorem Synced.storeRemove {st : Frame Session} (h : st.Synced) (s : Statement) :
    (st.storeRemove s).Synced := by
  refine h.record fun t ht hnet => ?_
  have hvisible : st.visible = t.working := by simp [visible, Session.visible, ht]
  rw [hvisible, hnet]
  split
  · rename_i hmem
    exact NetChanges.recordRemove_between hmem
  · rename_i hmem
    have herase : t.working.statements.erase s = t.working.statements :=
      Model.erase_of_not_mem hmem
    exact congrArg _ herase.symm

theorem Synced.writeNative {st : Frame Session} (h : st.Synced) (w : Write) :
    (st.writeNative w).Synced := by
  cases w with
  | add s => exact h.storeAdd s
  | remove s => exact h.storeRemove s
  | _ => exact h.record fun _ _ hnet => hnet

theorem Synced.foldl {α : Type} {f : Frame Session → α → Frame Session}
    (hf : ∀ {st : Frame Session}, st.Synced → ∀ a, (f st a).Synced) {st : Frame Session}
    (h : st.Synced) (l : List α) : (l.foldl f st).Synced := by
  induction l generalizing st with
  | nil => exact h
  | cons a l ih => exact ih (hf h a)

theorem Synced.bound {st : Frame Session} (h : st.Synced) : st.bound.Synced := by
  have hfold : ∀ (ws : List Write) (st : Frame Session), st.Synced →
      (∀ w ∈ ws, ∀ m : Model, m.apply w = m) →
      (st.update fun c =>
        { c with session := ws.foldl Session.record c.session }).Synced := by
    intro ws
    induction ws with
    | nil => exact fun _ h _ => h
    | cons w ws ih =>
      intro st h hws
      have hrecord : (st.update (·.record w)).Synced := h.record fun t _ hnet => by
        rw [hws w List.mem_cons_self]
        exact hnet
      exact ih _ hrecord fun w' hw' => hws w' (List.mem_cons_of_mem _ hw')
  exact hfold _ st h fun w hw => apply_of_mem_namespaceWrites hw

/-- Writing all that is staged keeps in step. -/
theorem Synced.flushed {st : Frame Session} (h : st.Synced) : st.flushed.Synced :=
  .foldl (fun h _ => .foldl Synced.storeAdd (.foldl Synced.storeRemove h _) _) h.bound _

end Frame

end QuadTxn
