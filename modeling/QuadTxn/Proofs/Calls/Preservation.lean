import QuadTxn.Proofs.Calls.Continuation

/-!
# What calls keep

A call leaves a coherent frame coherent (`Frame.Moves.coherent`, `Frame.Commits.coherent`), and of
what the connections share it changes only the part that is the connection's own: its own slot, and
its own hold of the gate (`Frame.Keeps`). Only a commit changes the contents of the store.
-/

namespace QuadTxn

namespace Frame

/-! ## What the connections share -/

/-- Of what the connections share, at most the connection's own slot and its own hold of the gate
change. -/
structure Keeps (st st' : Frame Session) : Prop where
  /-- the connection is still the same one -/
  id : st'.self.id = st.self.id
  /-- the commit listeners are the same -/
  watchers : st'.coordinator.listeners = st.coordinator.listeners
  /-- no commit listener is told of anything -/
  told : st'.coordinator.told = st.coordinator.told
  /-- the slots of others are as they were -/
  slots : ∀ j, j ≠ st.self.id →
    st'.coordinator.slots.get? j = st.coordinator.slots.get? j
  /-- the gate is held by another one as it was -/
  writer : ∀ j, j ≠ st.self.id →
    (st'.coordinator.gate.writer = some j ↔ st.coordinator.gate.writer = some j)

theorem Keeps.refl (st : Frame Session) : Keeps st st :=
  ⟨rfl, rfl, rfl, fun _ _ => rfl, fun _ _ => Iff.rfl⟩

theorem Keeps.trans {st₁ st₂ st₃ : Frame Session} (h₁₂ : Keeps st₁ st₂) (h₂₃ : Keeps st₂ st₃) :
    Keeps st₁ st₃ where
  id := h₂₃.id.trans h₁₂.id
  watchers := h₂₃.watchers.trans h₁₂.watchers
  told := h₂₃.told.trans h₁₂.told
  slots := fun j hj => (h₂₃.slots j (h₁₂.id ▸ hj)).trans (h₁₂.slots j hj)
  writer := fun j hj => (h₂₃.writer j (h₁₂.id ▸ hj)).trans (h₁₂.writer j hj)

theorem Continues.keeps {st st' : Frame Session} (h : Continues st st') : Keeps st st' where
  id := h.id
  watchers := congrArg Coordinator.listeners h.coordinator
  told := congrArg Coordinator.told h.coordinator
  slots := fun j _ => congrArg (fun k => k.slots.get? j) h.coordinator
  writer := fun j _ => by rw [h.coordinator]

theorem update_keeps {st : Frame Session} {f : Connection Session → Connection Session}
    (h : (f st.self).id = st.self.id) : Keeps st (st.update f) :=
  ⟨h, rfl, rfl, fun _ _ => rfl, fun _ _ => Iff.rfl⟩

theorem begun_keeps (st : Frame Session) : Keeps st st.begun :=
  ⟨rfl, rfl, rfl, fun _ hj => SortedMap.get?_insert_ne _ _ hj, fun _ _ => Iff.rfl⟩

theorem locked_keeps {st : Frame Session} (h : st.coordinator.gate.writer = none) :
    Keeps st st.locked where
  id := rfl
  watchers := rfl
  told := rfl
  slots := fun _ _ => rfl
  writer := fun j hj => by simp [locked, Gate.hold, h, Ne.symm hj]

section Released

variable (k : Coordinator ConnectionId) (id : ConnectionId)

theorem released_slots (j : ConnectionId) :
    (released k id).slots.get? j = if j = id then none else k.slots.get? j := by
  rw [released, Coordinator.finish]
  split
  · rename_i hnone
    by_cases hj : j = id
    · rw [hj, if_pos rfl]
      exact hnone
    · rw [if_neg hj]
  · exact SortedMap.get?_erase _ _ _

@[simp] theorem released_gate :
    (released k id).gate = k.gate.release id .exclusive := by
  rw [released, Coordinator.finish]
  split <;> rfl

@[simp] theorem released_listeners : (released k id).listeners = k.listeners := by
  rw [released, Coordinator.finish]
  split <;> rfl

@[simp] theorem released_told : (released k id).told = k.told := by
  rw [released, Coordinator.finish]
  split <;> rfl

theorem released_writer_ne {j : ConnectionId} (hj : j ≠ id) :
    (released k id).gate.writer = some j ↔ k.gate.writer = some j := by
  rw [released_gate, Gate.release]
  by_cases hown : k.gate.writer = some id
  · simp [hown, Ne.symm hj]
  · simp [hown]

end Released

theorem abandoned_keeps (st : Frame Session) : Keeps st st.abandoned where
  id := rfl
  watchers := released_listeners _ _
  told := released_told _ _
  slots := fun j hj => (released_slots _ _ j).trans (if_neg hj)
  writer := fun _ hj => released_writer_ne _ _ hj

/-- The connection gets a slot of its own in the place of one that is marked. -/
theorem markCommitted_slots (k : Coordinator ConnectionId) {id j : ConnectionId} (hj : j ≠ id) :
    (k.markCommitted id).slots.get? j = k.slots.get? j := by
  rw [Coordinator.markCommitted]
  split
  · rfl
  · exact SortedMap.get?_insert_ne _ _ hj

@[simp] theorem markCommitted_gate (k : Coordinator ConnectionId) (id : ConnectionId) :
    (k.markCommitted id).gate = k.gate := by
  rw [Coordinator.markCommitted]
  split <;> rfl

@[simp] theorem markCommitted_listeners (k : Coordinator ConnectionId) (id : ConnectionId) :
    (k.markCommitted id).listeners = k.listeners := by
  rw [Coordinator.markCommitted]
  split <;> rfl

@[simp] theorem markCommitted_told (k : Coordinator ConnectionId) (id : ConnectionId) :
    (k.markCommitted id).told = k.told := by
  rw [Coordinator.markCommitted]
  split <;> rfl

theorem committed_keeps (st : Frame Session) : Keeps st st.committed where
  id := rfl
  watchers := (released_listeners _ _).trans (markCommitted_listeners _ _)
  told := (released_told _ _).trans (markCommitted_told _ _)
  slots := fun j hj =>
    ((released_slots _ _ j).trans (if_neg hj)).trans (markCommitted_slots _ hj)
  writer := fun _ hj => (released_writer_ne _ _ hj).trans (by rw [markCommitted_gate])

/-! ## Coherence -/

/-- A coherent frame stays coherent while its transaction goes on and its connection stays sound. -/
theorem Coherent.continues {st st' : Frame Session} (h : st.Coherent) (hc : Continues st st')
    (hs : st'.self.Sound) : st'.Coherent where
  sound := hs
  readers := by rw [hc.coordinator, h.readers]
  writer := by rw [hc.coordinator, hc.id, hc.phase, h.writer]
  slot := by rw [hc.coordinator, hc.id, Connection.isActive, hc.phase, h.slot, Connection.isActive]

/-- A frame whose transaction has ended is coherent. -/
theorem coherent_ended {c : Connection Session} (hsound : c.Sound)
    {k : Coordinator ConnectionId} (hreaders : k.gate.readers = []) (store : Store) :
    Coherent ⟨c.ended, store, released k c.id⟩ where
  sound := hsound.ended
  readers := by rw [released_gate]; exact hreaders
  writer := by
    have hidle : c.ended.phase = .idle := rfl
    rw [hidle, released_gate]
    change (if k.gate.writer = some c.id then none else k.gate.writer) = some c.id ↔ _
    split
    · simp
    · simp_all
  slot := (released_slots _ _ _).trans (if_pos rfl)

/-- A frame is coherent whose connection is sound, runs a native transaction and is the writer at
the gate, if the slot is as it was. -/
theorem Coherent.engage {st st' : Frame Session} (h : st.Coherent)
    (hact : st.self.isActive = true) (hs : st'.self.Sound)
    (hp : st'.self.phase = .direct ∨ st'.self.phase = .prepared)
    (hid : st'.self.id = st.self.id)
    (hgate : st'.coordinator.gate = st.coordinator.gate.hold st.self.id .exclusive)
    (hslots : st'.coordinator.slots = st.coordinator.slots) : st'.Coherent where
  sound := hs
  readers := by rw [hgate]; exact h.readers
  writer := by
    rw [hgate, hid]
    exact iff_of_true rfl hp
  slot := by
    have hact' : st'.self.isActive = true := by
      rw [Connection.isActive_iff]
      rcases hp with hp | hp <;> simp [hp]
    rw [hslots, hid, h.slot, hact, hact']

theorem engaged_gate {st : Frame Session} (h : st.Coherent) :
    st.engaged.coordinator.gate = st.coordinator.gate.hold st.self.id .exclusive := by
  rw [engaged]
  split
  · rename_i hp
    have hw := h.writer.mpr (.inl hp)
    rw [Gate.hold, ← hw]
  · rfl

theorem engaged_slots (st : Frame Session) :
    st.engaged.coordinator.slots = st.coordinator.slots := by
  rw [engaged]
  split <;> rfl

theorem engaged_keeps {st : Frame Session} (h : st.Coherent) (ha : st.Available) :
    Keeps st st.engaged := by
  rw [engaged]
  split
  · exact .refl st
  · rename_i hp
    exact (locked_keeps (h.free_iff.mp (ha.resolve_left hp))).trans ⟨rfl, rfl, rfl,
      fun _ _ => rfl, fun _ _ => Iff.rfl⟩

/-- The connection of an engaged frame differs at most in its session. -/
theorem engaged_self (st : Frame Session) :
    ∃ session, st.engaged.self = { st.self with session := session } := by
  rw [engaged]
  split
  · exact ⟨_, rfl⟩
  · exact ⟨_, rfl⟩

/-- Preparing a transaction changes its session, its account of changes and its phase, and of what
the connections share at most the gate. -/
theorem prepared_eq (st : Frame Session) : ∃ session net gate,
    st.engaged.flushed.prepared =
      { self := { st.self with session := session, net := net, phase := .prepared }
        store := st.store
        coordinator := { st.coordinator with gate := gate } } := by
  obtain ⟨session, net, hflushed⟩ := flushed_nativeOnly st.engaged
  rw [hflushed, engaged]
  split
  · exact ⟨_, _, _, rfl⟩
  · exact ⟨_, _, _, rfl⟩

/-- Once all that is staged is written, the native transaction holds the view. -/
theorem flushed_onto {st : Frame Session} (hopen : st.self.session.Open)
    (hcons : st.self.staging.Consistent) :
    ∃ t, st.flushed.self.session.txn = some t ∧ t.prepared = false ∧
      t.working.statements = st.seen ∧
      st.self.staging.onto t.working.statements = t.working.statements := by
  obtain ⟨t, ht, hprep⟩ := flushed_open hopen
  have hworking : t.working.statements = st.seen := by
    rw [← flushed_statements hopen hcons]
    simp [visible, Session.visible, ht]
  refine ⟨t, ht, hprep, hworking, ?_⟩
  rw [hworking, seen, Staging.onto_onto]

theorem prepared_sound {st : Frame Session} (h : st.Coherent) (hact : st.self.isActive = true) :
    st.engaged.flushed.prepared.self.Sound := by
  obtain ⟨session, hself⟩ := engaged_self st
  have hcons : st.engaged.self.staging.Consistent := by
    rw [hself]
    exact h.sound.consistent
  obtain ⟨t, ht, -, -, honto⟩ := flushed_onto (engaged_open h) hcons
  obtain ⟨session', net, hflushed⟩ := flushed_nativeOnly st.engaged
  have heq : st.engaged.flushed.prepared.self =
      { st.self with
        session := session'.sealed
        net := net
        phase := .prepared } := by
    rw [hflushed, Frame.prepared, update_self, update_self, hself]
  rw [heq]
  have htxn : session'.txn = some t := by
    rw [hflushed] at ht
    exact ht
  rw [engaged_staging] at honto
  refine ⟨⟨{ t with prepared := true }, ?_, rfl, honto⟩, h.sound.consistent, h.sound.wellFormed,
    h.sound.covers, h.sound.snapshot, fun _ => h.sound.tracking hact⟩
  simp [Session.sealed, htxn]

theorem switched_sound {st : Frame Session} (h : st.Coherent) (hact : st.self.isActive = true) :
    st.locked.opened.flushed.switched.self.Sound := by
  have hopen : st.locked.opened.flushed.self.session.Open := flushed_open ⟨_, rfl, rfl⟩
  obtain ⟨session, net, hflushed⟩ := flushed_nativeOnly st.locked.opened
  rw [hflushed] at hopen ⊢
  exact ⟨⟨hopen, rfl, rfl, rfl, rfl⟩, .empty, fun _ hs => (nomatch hs), .empty,
    h.sound.snapshot, fun _ => h.sound.tracking hact⟩

/-- A transaction that has just begun stages its writes, or writes directly. -/
theorem begun_sound {st : Frame Session} (h : st.Coherent) (hp : st.self.phase = .idle)
    (hr : st.self.isolation.readSnapshot = true) : st.begun.self.Sound where
  inPhase := ⟨(h.idle hp).1, rfl, hr⟩
  consistent := .empty
  wellFormed := fun _ hs => nomatch hs
  covers := .empty
  snapshot := h.sound.snapshot
  tracking := fun _ hsnap => hsnap

theorem begun_direct_sound {st : Frame Session} (h : st.Coherent)
    (hr : st.self.isolation.readSnapshot = false) :
    st.begun.locked.opened.direct.self.Sound where
  inPhase := ⟨⟨_, rfl, rfl⟩, hr, rfl, rfl, rfl⟩
  consistent := .empty
  wellFormed := fun _ hs => nomatch hs
  covers := .empty
  snapshot := h.sound.snapshot
  tracking := fun _ hsnap => hsnap

theorem Prepares.coherent {st : Frame Session} (h : st.Coherent) {r : Except TxnError Unit}
    {st' : Frame Session} (hp : Prepares st r st') : st'.Coherent := by
  cases hp with
  | skip => exact h
  | timeout => exact coherent_ended h.sound h.readers _
  | conflict => exact coherent_ended h.sound h.readers _
  | failed => exact coherent_ended h.sound h.readers _
  | done hw =>
    have hact := isActive_of_writable hw
    have hc := (flushed_nativeOnly st.engaged).continues
    refine h.engage hact (prepared_sound h hact) (.inr rfl) ?_ ?_ ?_
    · obtain ⟨session, hself⟩ := engaged_self st
      exact hc.id.trans (by rw [hself])
    · exact (congrArg Coordinator.gate hc.coordinator).trans (engaged_gate h)
    · exact (congrArg Coordinator.slots hc.coordinator).trans (engaged_slots st)

theorem Prepares.keeps {st : Frame Session} (h : st.Coherent) {r : Except TxnError Unit}
    {st' : Frame Session} (hp : Prepares st r st') : Keeps st st' := by
  cases hp with
  | skip => exact .refl st
  | timeout => exact abandoned_keeps st
  | conflict => exact abandoned_keeps st
  | failed =>
    have hended := abandoned_keeps st
    exact ⟨hended.id, hended.watchers, hended.told, hended.slots, hended.writer⟩
  | done hw ha =>
    exact ((engaged_keeps h ha).trans (flushed_nativeOnly st.engaged).continues.keeps).trans
      (update_keeps rfl)

theorem Prepares.contents {st : Frame Session} {r : Except TxnError Unit} {st' : Frame Session}
    (hp : Prepares st r st') : st'.store.contents = st.store.contents := by
  cases hp with
  | done =>
    obtain ⟨session, net, gate, heq⟩ := prepared_eq st
    rw [heq]
  | _ => rfl

/-- Inside a transaction the flags only ever stay what they are, except that flags which count as
write-through without being those of write-through can be cleared. -/
theorem flags_active {st : Frame Session} (h : st.Coherent) (hact : st.self.isActive = true)
    {req : Request} {i : Isolation} (hi : req.flags? st.self.isolation = some i)
    (hr : st.refusal? req = none) (hs : ¬st.Switches req) :
    i = st.self.isolation ∨ (req = .setIsolation .writeThrough ∧ i = ⟨false, false, false⟩ ∧
      st.self.isolation.readSnapshot = false ∧ st.self.isolation.snapshot = true) := by
  have hsnap := h.sound.snapshot
  rcases hflags : st.self.isolation with ⟨read, snap, ser⟩
  rw [hflags] at hi hsnap
  cases req with
  | setReadSnapshot on =>
    obtain rfl := Option.some.inj hi
    refine .inl ?_
    have hsame : read = on := by
      rcases read with _ | _ <;> rcases on with _ | _
      · rfl
      · simp [refusal?, hact, hflags] at hr
      · exact absurd ⟨rfl, hact, by rw [hflags]⟩ hs
      · rfl
    rw [hsame]
  | setSnapshot on =>
    obtain rfl := Option.some.inj hi
    obtain rfl : snap = on := by simpa [refusal?, hact, hflags] using hr
    rcases snap with _ | _ <;> rcases ser with _ | _ <;> simp_all
  | setSerializable on =>
    obtain rfl := Option.some.inj hi
    obtain rfl : ser = on := by simpa [refusal?, hact, hflags] using hr
    rcases snap with _ | _ <;> rcases ser with _ | _ <;> simp_all
  | setIsolation level =>
    obtain rfl := Option.some.inj hi
    -- it is levels that are compared here, and several flags count as one level
    obtain rfl : st.self.level = level := by simpa [refusal?, hact] using hr
    rw [Connection.level, hflags]
    rcases read with _ | _ <;> rcases snap with _ | _ <;> rcases ser with _ | _ <;>
      simp_all [Isolation.level, IsolationLevel.flags]
  | _ => cases hi

theorem flags_sound {st : Frame Session} (h : st.Coherent) {req : Request} {i : Isolation}
    (hi : req.flags? st.self.isolation = some i) (hr : st.refusal? req = none)
    (hs : ¬st.Switches req) : (st.withFlags i).self.Sound := by
  have hsnap : i.serializable = true → i.snapshot = true := by
    cases req with
    | setReadSnapshot on =>
      obtain rfl := Option.some.inj hi
      exact h.sound.snapshot
    | setSnapshot on =>
      obtain rfl := Option.some.inj hi
      exact fun hser => (Bool.and_eq_true_iff.mp hser).1
    | setSerializable on =>
      obtain rfl := Option.some.inj hi
      exact fun hser => Bool.or_eq_true_iff.mpr (.inl hser)
    | setIsolation level =>
      obtain rfl := Option.some.inj hi
      cases level <;> simp [IsolationLevel.flags]
    | _ => cases hi
  have hkeep : st.self.isActive = true →
      i.readSnapshot = st.self.isolation.readSnapshot ∧
        (i.snapshot = true → st.self.isolation.snapshot = true) := by
    intro hact
    rcases flags_active h hact hi hr hs with rfl | ⟨-, rfl, hread, -⟩
    · exact ⟨rfl, id⟩
    · exact ⟨hread.symm, fun hfalse => absurd hfalse Bool.false_ne_true⟩
  refine ⟨?_, h.sound.consistent, h.sound.wellFormed, h.sound.covers, hsnap,
    fun hact hi => h.sound.tracking hact ((hkeep hact).2 hi)⟩
  have hphase := h.sound.inPhase
  rw [Connection.InPhase] at hphase ⊢
  rcases hp : st.self.phase with _ | _ | _ | _
  all_goals
    simp only [withFlags, update_self, hp] at hphase ⊢
  · exact hphase
  · have hact : st.self.isActive = true := by simp [Connection.isActive, hp]
    exact ⟨hphase.1, hphase.2.1, (hkeep hact).1.trans hphase.2.2⟩
  · have hact : st.self.isActive = true := by simp [Connection.isActive, hp]
    exact ⟨hphase.1, (hkeep hact).1.trans hphase.2.1, hphase.2.2⟩
  · exact hphase

/-! ## Moves and commits -/

theorem withFlags_continues {st : Frame Session} {i : Isolation} (h : st.Coherent)
    (hs : (st.withFlags i).self.Sound) : (st.withFlags i).Coherent :=
  ⟨hs, h.readers, h.writer, h.slot⟩

theorem update_coherent {st : Frame Session} (h : st.Coherent) (listeners : List String) :
    (st.update fun c => { c with listeners := listeners }).Coherent where
  sound := ⟨h.sound.inPhase, h.sound.consistent, h.sound.wellFormed, h.sound.covers,
    h.sound.snapshot, h.sound.tracking⟩
  readers := h.readers
  writer := h.writer
  slot := h.slot

theorem begun_coherent {st : Frame Session} (h : st.Coherent) (hp : st.self.phase = .idle)
    (hr : st.self.isolation.readSnapshot = true) : st.begun.Coherent where
  sound := begun_sound h hp hr
  readers := h.readers
  writer := by
    change st.coordinator.gate.writer = some st.self.id ↔ _
    rw [h.writer]
    simp [hp, begun]
  slot := SortedMap.get?_insert_self _ _ _

theorem begun_direct_coherent {st : Frame Session} (h : st.Coherent)
    (hr : st.self.isolation.readSnapshot = false) :
    st.begun.locked.opened.direct.Coherent where
  sound := begun_direct_sound h hr
  readers := h.readers
  writer := iff_of_true rfl (.inl rfl)
  slot := SortedMap.get?_insert_self _ _ _

theorem binding_ne_add {req : Request} {w : Write} (h : req.binding? = some w) (s : Statement) :
    w ≠ .add s := by
  rintro rfl
  cases req <;> simp [Request.binding?] at h

/-- A call leaves a coherent frame coherent. -/
theorem Moves.coherent {st : Frame Session} (h : st.Coherent) {req : Request}
    {r : Except TxnError Answer} {st' : Frame Session} (hm : Moves st req r st') :
    st'.Coherent := by
  cases hm with
  | refused => exact h
  | statements _ hr => exact h.continues (perform_continues st req) (perform_sound h hr)
  | binding hb hr =>
    have hw := writable_of_binding hb hr
    exact h.continues (write_continues st _ _)
      (write_sound h.sound hw _ fun s hs => absurd hs (binding_ne_add hb s))
  | bindings => exact h
  | lookup => exact h
  | beginStaged hp hr => exact begun_coherent h hp hr
  | beginDirect hp hr => exact begun_direct_coherent h hr
  | beginTimeout => exact coherent_ended (k := st.begun.coordinator) h.sound h.readers _
  | prepare hp => exact hp.coherent h
  | rollback =>
    split
    · exact coherent_ended h.sound h.readers _
    · exact h
  | flags hi hr hs => exact withFlags_continues h (flags_sound h hi hr hs)
  | switch hs =>
    have hc := (flushed_nativeOnly st.locked.opened).continues
    exact h.engage hs.2.1 (switched_sound h hs.2.1) (.inl rfl) hc.id
      (congrArg Coordinator.gate hc.coordinator :) (congrArg Coordinator.slots hc.coordinator :)
  | switchTimeout => exact h
  | listen => exact update_coherent h _
  | unlisten => exact update_coherent h _

theorem Moves.keeps {st : Frame Session} (h : st.Coherent) {req : Request}
    {r : Except TxnError Answer} {st' : Frame Session} (hm : Moves st req r st') :
    Keeps st st' := by
  cases hm with
  | refused => exact .refl st
  | statements => exact (perform_continues st req).keeps
  | binding => exact (write_continues st _ _).keeps
  | bindings => exact .refl st
  | lookup => exact .refl st
  | beginStaged => exact begun_keeps st
  | beginDirect _ _ hf =>
    have hw : st.begun.coordinator.gate.writer = none := h.free_iff.mp hf
    exact ((begun_keeps st).trans (locked_keeps hw)).trans
      ⟨rfl, rfl, rfl, fun _ _ => rfl, fun _ _ => Iff.rfl⟩
  | beginTimeout => exact (begun_keeps st).trans (abandoned_keeps _)
  | prepare hp => exact hp.keeps h
  | rollback =>
    split
    · exact abandoned_keeps st
    · exact .refl st
  | flags => exact update_keeps rfl
  | switch _ _ hf =>
    have hlocked := locked_keeps (h.free_iff.mp hf)
    have hopened : Keeps st.locked st.locked.opened := update_keeps rfl
    exact ((hlocked.trans hopened).trans (flushed_nativeOnly _).continues.keeps).trans
      (update_keeps rfl)
  | switchTimeout => exact .refl st
  | listen => exact update_keeps rfl
  | unlisten => exact update_keeps rfl

/-- A call other than a commit leaves the contents of the store as they are. -/
theorem Moves.contents {st : Frame Session} {req : Request} {r : Except TxnError Answer}
    {st' : Frame Session} (hm : Moves st req r st') :
    st'.store.contents = st.store.contents := by
  cases hm with
  | statements => exact congrArg Store.contents (perform_continues st req).store
  | binding => exact congrArg Store.contents (write_continues st _ _).store
  | prepare hp => exact hp.contents
  | rollback => split <;> rfl
  | switch =>
    exact congrArg Store.contents (flushed_nativeOnly st.locked.opened).continues.store
  | _ => rfl

theorem Commits.coherent {st : Frame Session} (h : st.Coherent)
    {r : Except TxnError (Option ChangeSet)} {st' : Frame Session} (hc : Commits st r st') :
    st'.Coherent := by
  cases hc with
  | skip => exact h
  | refused _ hp => exact hp.coherent h
  | failed _ hp =>
    have h₁ := hp.coherent h
    exact coherent_ended h₁.sound h₁.readers _
  | @done st₁ _ hp =>
    have h₁ := hp.coherent h
    have hreaders : (st₁.coordinator.markCommitted st₁.self.id).gate.readers = [] := by
      rw [markCommitted_gate, h₁.readers]
    exact coherent_ended h₁.sound hreaders _

theorem Commits.keeps {st : Frame Session} (h : st.Coherent)
    {r : Except TxnError (Option ChangeSet)} {st' : Frame Session} (hc : Commits st r st') :
    Keeps st st' := by
  cases hc with
  | skip => exact .refl st
  | refused _ hp => exact hp.keeps h
  | @failed st₁ _ hp =>
    have hended := abandoned_keeps st₁
    exact (hp.keeps h).trans
      ⟨hended.id, hended.watchers, hended.told, hended.slots, hended.writer⟩
  | done _ hp => exact (hp.keeps h).trans (committed_keeps _)

theorem Prepares.error_idle {st : Frame Session} {e : TxnError} {st' : Frame Session}
    (hp : Prepares st (.error e) st') : st'.self.phase = .idle := by
  cases hp <;> rfl

/-- A connection that has committed has forgotten its transaction. -/
theorem Commits.done_self {st : Frame Session} {change : ChangeSet} {st' : Frame Session}
    (hc : Commits st (.ok (some change)) st') :
    change.source = st'.self.id ∧ ∃ c : Connection Session, st'.self = c.ended := by
  cases hc with
  | done => exact ⟨rfl, _, rfl⟩

theorem Commits.error_idle {st : Frame Session} {e : TxnError} {st' : Frame Session}
    (hc : Commits st (.error e) st') : st'.self.phase = .idle := by
  cases hc with
  | refused _ hp => exact hp.error_idle
  | failed => rfl

/-- A commit that fails leaves the contents of the store as they are. -/
theorem Commits.error_contents {st : Frame Session} {e : TxnError} {st' : Frame Session}
    (hc : Commits st (.error e) st') : st'.store.contents = st.store.contents := by
  cases hc with
  | refused _ hp => exact hp.contents
  | @failed st₁ _ hp => exact hp.contents

/-- A transaction that begins stages its writes, or writes directly. -/
theorem Moves.of_begin {st st' : Frame Session} {a : Answer} (hm : Moves st .begin (.ok a) st') :
    st.self.phase = .idle ∧ (st' = st.begun ∨ st' = st.begun.locked.opened.direct) := by
  cases hm with
  | beginStaged hp => exact ⟨hp, .inl rfl⟩
  | beginDirect hp => exact ⟨hp, .inr rfl⟩
  | statements hon => cases hon
  | binding hb => cases hb
  | flags hi => cases hi
  | switch hs => cases hs.1

/-- What a request to prepare comes to. -/
theorem Moves.of_prepare {st st' : Frame Session} {r : Except TxnError Answer}
    (hm : Moves st .prepare r st') :
    ∃ r₀ : Except TxnError Unit, Prepares st r₀ st' ∧ r = r₀.map fun _ => .none := by
  cases hm with
  | prepare hp => exact ⟨_, hp, rfl⟩
  | refused hr => cases hr
  | statements hon => cases hon
  | binding hb => cases hb
  | flags hi => cases hi
  | switch hs => cases hs.1
  | switchTimeout hs => cases hs.1

theorem Moves.of_rollback {st : Frame Session} {r : Except TxnError Answer} {st' : Frame Session}
    (hm : Moves st .rollback r st') :
    r = .ok .none ∧ st' = if st.self.isActive then st.abandoned else st := by
  cases hm with
  | refused hr => cases hr
  | statements hon => cases hon
  | binding hb => cases hb
  | flags hi => cases hi
  | switch hs => cases hs.1
  | switchTimeout hs => cases hs.1
  | rollback => exact ⟨rfl, rfl⟩

/-- No transaction runs after a rollback. -/
theorem Moves.rollback_idle {st : Frame Session} {r : Except TxnError Answer}
    {st' : Frame Session} (hm : Moves st .rollback r st') : st'.self.phase = .idle := by
  obtain ⟨-, rfl⟩ := hm.of_rollback
  split
  · rfl
  · rename_i hact
    simpa [Connection.isActive] using hact

end Frame

end QuadTxn
