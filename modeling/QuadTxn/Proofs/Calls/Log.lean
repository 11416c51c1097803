import QuadTxn.Proofs.Calls.Preservation

/-!
# The view follows the log

The log of a transaction is the list of the single writes that its requests stood for. What the
connection sees is the committed statements with the log replayed (`Frame.Logged.seen_eq`), in every
phase: while the writes are staged, once they are written natively, and after the native transaction
is ready for commit. Every call keeps this (`Frame.Moves.logged`), and tells each listener what it
writes (`Frame.Moves.heard`).
-/

namespace QuadTxn

namespace Request

/-- What a request adds to the log of its transaction, with what it was answered, where it finds a
set of statements. -/
def logged (m : Model) (req : Request) : Except TxnError Answer → List Write
  | .ok _ => req.writesIn m
  | .error _ => []

/-- Only requests on statements are logged. -/
theorem logged_of_not_onStatements {req : Request} (h : req.onStatements = false) (m : Model)
    (r : Except TxnError Answer) : req.logged m r = [] := by
  cases r with
  | ok a => cases req <;> first | rfl | cases h
  | error e => rfl

end Request

namespace Frame

/-! ## What a write does to the view -/

theorem seen_of_none {st : Frame Session} (hs : st.self.session = ⟨none⟩) :
    st.seen = st.self.staging.onto st.store.contents.statements := by
  simp [seen, visible, Session.visible, hs]

theorem seen_of_unstaged {st : Frame Session} (h : st.self.staging = ∅) :
    st.seen = st.visible.statements := by
  rw [seen, h, Staging.onto_empty]

/-- A write of a direct transaction does to the view what it means. -/
theorem write_seen {st : Frame Session} (h : st.Coherent) (hp : st.self.phase = .direct)
    (kind : BatchKind) (w : Write) : (st.write kind w).seen = st.seen.apply w := by
  obtain ⟨hopen, -, hstaging, -⟩ := h.direct hp
  have hwrite : st.write kind w = (st.writeNative w).report w := by rw [write, if_pos hp]
  obtain ⟨session, net, heq⟩ := writeNative_nativeOnly st w
  have hunstaged : (st.write kind w).self.staging = ∅ := by
    rw [hwrite, heq]
    exact hstaging
  rw [seen_of_unstaged hunstaged, seen_of_unstaged hstaging, hwrite]
  exact visible_writeNative hopen w

/-- A write of a staging transaction is staged. -/
theorem write_staging {st : Frame Session} (hp : st.self.phase = .staging) (kind : BatchKind)
    (w : Write) : (st.write kind w).self.staging = (st.self.stage kind w).staging := by
  have hnot : st.self.phase ≠ .direct := by simp [hp]
  rw [write, if_neg hnot]
  rfl

/-! ## The log -/

/-- A list of writes is the log of the transaction: the staged writes stand for it, and once there
is a native transaction, that holds the committed statements with the log replayed. -/
def Logged (st : Frame Session) (ws : List Write) : Prop :=
  match st.self.phase with
  | .idle => ws = []
  | .staging => st.self.staging.Follows ws
  | .direct | .prepared => st.seen = st.store.contents.statements.replay ws

theorem logged_engaged {st : Frame Session} {ws : List Write}
    (hp : st.self.phase = .direct ∨ st.self.phase = .prepared) :
    st.Logged ws ↔ st.seen = st.store.contents.statements.replay ws := by
  rw [Logged]
  rcases hp with hp | hp <;> rw [hp]

theorem logged_idle {st : Frame Session} {ws : List Write} (hp : st.self.phase = .idle) :
    st.Logged ws ↔ ws = [] := by
  rw [Logged, hp]

theorem logged_staging {st : Frame Session} {ws : List Write} (hp : st.self.phase = .staging) :
    st.Logged ws ↔ st.self.staging.Follows ws := by
  rw [Logged, hp]

/-- The connection sees the committed statements with the log replayed. -/
theorem Logged.seen_eq {st : Frame Session} {ws : List Write} (hl : st.Logged ws)
    (h : st.Coherent) : st.seen = st.store.contents.statements.replay ws := by
  rcases hp : st.self.phase with _ | _ | _ | _
  · obtain ⟨hsession, -, -, -, hstaging, -⟩ := h.idle hp
    obtain rfl : ws = [] := (logged_idle hp).mp hl
    rw [seen_of_none hsession, hstaging, Staging.onto_empty, Model.replay_nil]
  · rw [seen_of_none (h.staging hp).1]
    exact (logged_staging hp).mp hl _
  · exact (logged_engaged (.inl hp)).mp hl
  · exact (logged_engaged (.inr hp)).mp hl

/-- A frame that differs in nothing that the view depends on has the same log. -/
theorem Logged.congr {st st' : Frame Session} {ws : List Write} (hl : st.Logged ws)
    (hphase : st'.self.phase = st.self.phase) (hstaging : st'.self.staging = st.self.staging)
    (hsession : st'.self.session = st.self.session)
    (hcontents : st'.store.contents.statements = st.store.contents.statements) :
    st'.Logged ws := by
  have hvisible : st'.visible.statements = st.visible.statements := by
    rw [visible, visible, Session.visible, Session.visible, hsession]
    split
    · rfl
    · exact hcontents
  rw [Logged] at hl ⊢
  rw [hphase, hstaging, hcontents, seen, hstaging, hvisible]
  exact hl

/-- What counts of the log is what it does. -/
theorem Logged.of_replay {st : Frame Session} {ws ws' : List Write} (hl : st.Logged ws)
    (hact : st.self.isActive = true) (heq : ∀ m : Model, m.replay ws = m.replay ws') :
    st.Logged ws' := by
  rw [Logged] at hl ⊢
  rcases hp : st.self.phase with _ | _ | _ | _
  · exact absurd hp (Connection.isActive_iff.mp hact)
  · simp only [hp] at hl
    exact fun m => (hl m).trans (heq m)
  · simpa only [hp, heq] using hl
  · simpa only [hp, heq] using hl

theorem Logged.write {st : Frame Session} {ws : List Write} (hl : st.Logged ws)
    (h : st.Coherent) (hw : st.unwritable? = none) (kind : BatchKind) (w : Write) :
    (st.write kind w).Logged (ws ++ [w]) := by
  have hc := write_continues st kind w
  rcases phase_of_writable hw with hp | hp
  · have hfollows := (logged_staging hp).mp hl
    rw [logged_staging (hc.phase.trans hp), write_staging hp]
    cases w with
    | add s => exact hfollows.add kind s
    | remove s => exact hfollows.remove kind s
    | _ =>
      intro m
      rw [Model.replay_append]
      exact hfollows m
  · rw [logged_engaged (.inl (hc.phase.trans hp)), write_seen h hp, hc.store,
      (logged_engaged (.inl hp)).mp hl, Model.replay_append]
    rfl

theorem Logged.foldl_write {st : Frame Session} {ws : List Write} (hl : st.Logged ws)
    (h : st.Coherent) (hw : st.unwritable? = none) (kind : BatchKind) {ws' : List Write}
    (hwf : ∀ s, .add s ∈ ws' → s.WellFormed) :
    (ws'.foldl (Frame.write kind) st).Logged (ws ++ ws') := by
  induction ws' generalizing st ws with
  | nil =>
    rw [List.append_nil]
    exact hl
  | cons w ws' ih =>
    have hsound := write_sound h.sound hw kind
      (fun s hs => hwf s (hs ▸ List.mem_cons_self) : ∀ s, w = .add s → s.WellFormed)
    have hc := write_continues st kind w
    have hw' : (st.write kind w).unwritable? = none := hc.unwritable?.trans hw
    have hrest := ih (hl.write h hw kind w) (h.continues hc hsound) hw'
      fun s hs => hwf s (List.mem_cons_of_mem _ hs)
    rw [List.append_assoc] at hrest
    exact hrest

theorem Logged.noted {st : Frame Session} {ws : List Write} (hl : st.Logged ws)
    (req : Request) : (st.noted req).Logged ws := by
  obtain ⟨ledger, events, heq, -⟩ := noted_eq st req
  rw [heq]
  exact hl.congr rfl rfl rfl rfl

/-- A request on statements adds to the log what it means on the statements that are seen. -/
theorem Logged.perform {st : Frame Session} {ws : List Write} (hl : st.Logged ws)
    (h : st.Coherent) {req : Request} (hr : st.refusal? req = none) :
    (st.perform req).Logged (ws ++ req.writesIn st.seen) := by
  have hnoted := h.continues (noted_continues st req) (noted_sound h req)
  by_cases hwrite : req.isWrite = true
  · rw [refusal?_of_isWrite hwrite, Option.or_eq_none_iff] at hr
    have hw : (st.noted req).unwritable? = none :=
      (noted_continues st req).unwritable?.trans hr.2
    exact (hl.noted req).foldl_write hnoted hw _ fun s hs => wellFormed_of_mem_writesIn hr.1 hs
  · have hnil := Request.writesIn_of_not_isWrite hwrite st.seen
    rw [perform_read hnil, hnil, List.append_nil]
    exact hl.noted req

/-! ## Changes of phase -/

theorem opened_seen {st : Frame Session} (hs : st.self.session = ⟨none⟩) :
    st.locked.opened.seen = st.seen := by
  rw [seen_of_none hs]
  rfl

theorem engaged_seen {st : Frame Session} (h : st.Coherent) (hw : st.unwritable? = none) :
    st.engaged.seen = st.seen := by
  rw [engaged]
  split
  · rfl
  · rename_i hp
    exact opened_seen (h.staging ((phase_of_writable hw).resolve_right hp)).1

/-- Preparing does not change the view. -/
theorem prepared_seen {st : Frame Session} (h : st.Coherent) (hw : st.unwritable? = none) :
    st.engaged.flushed.prepared.seen = st.seen := by
  have hcons : st.engaged.self.staging.Consistent := by
    rw [engaged_staging]
    exact h.sound.consistent
  obtain ⟨t, ht, -, hworking, honto⟩ := flushed_onto (engaged_open h) hcons
  have hvisible : st.engaged.flushed.prepared.visible = t.working := by
    simp [visible, Session.visible, Frame.prepared, Session.sealed, ht]
  have hstaging : st.engaged.flushed.prepared.self.staging = st.engaged.self.staging := by
    obtain ⟨session, net, hflushed⟩ := flushed_nativeOnly st.engaged
    rw [hflushed]
    rfl
  -- what is staged stays staged, but it is in the working copy already
  rw [seen, hvisible, hstaging, honto, hworking, engaged_seen h hw]

/-- Switching to direct writes does not change the view. -/
theorem switched_seen {st : Frame Session} (h : st.Coherent) (hp : st.self.phase = .staging) :
    st.locked.opened.flushed.switched.seen = st.seen := by
  have hopen : st.locked.opened.self.session.Open := ⟨_, rfl, rfl⟩
  obtain ⟨t, ht, -, hworking, -⟩ := flushed_onto hopen h.sound.consistent
  have hvisible : st.locked.opened.flushed.switched.visible = t.working := by
    simp [visible, Session.visible, switched, Connection.unstage, ht]
  rw [seen_of_unstaged rfl, hvisible, hworking, opened_seen (h.staging hp).1]

theorem engaged_flushed_store (st : Frame Session) :
    st.engaged.flushed.store = st.store :=
  (flushed_nativeOnly st.engaged).continues.store.trans engaged_store

/-- A transaction that a preparation leaves running has the same log. -/
theorem Prepares.logged {st : Frame Session} (h : st.Coherent) {st' : Frame Session}
    (hp : Prepares st (.ok ()) st') {ws : List Write} (hl : st.Logged ws) : st'.Logged ws := by
  cases hp with
  | skip => exact hl
  | done hw =>
    rw [logged_engaged (.inr rfl), prepared_seen h hw, hl.seen_eq h]
    exact congrArg (fun store => store.contents.statements.replay ws)
      (engaged_flushed_store st).symm

/-! ## Moves -/

/-- A move of a transaction that runs, before and after it, adds to the log what the request means
on the statements that are seen. -/
theorem Moves.logged {st : Frame Session} (h : st.Coherent) {req : Request}
    {r : Except TxnError Answer} {st' : Frame Session} (hm : Moves st req r st')
    (hact : st'.self.isActive = true) {ws : List Write} (hl : st.Logged ws) :
    st'.Logged (ws ++ req.logged st.seen r) := by
  have hsame : ∀ {req : Request} {r : Except TxnError Answer} {ws : List Write},
      req.onStatements = false → ws ++ req.logged st.seen r = ws := by
    intro req r ws hreq
    rw [Request.logged_of_not_onStatements hreq, List.append_nil]
  cases hm with
  | refused => simpa [Request.logged] using hl
  | statements _ hr => exact hl.perform h hr
  | @binding _ w hb hr =>
    -- the write joins the log at first, but it is one that no statement notices
    have hw := writable_of_binding hb hr
    have hnone : ∀ m : Model, m.apply w = m := by
      intro m
      cases w with
      | add s => exact absurd rfl (binding_ne_add hb s)
      | remove s => cases req <;> simp [Request.binding?] at hb
      | _ => rfl
    rw [hsame (Request.onStatements_of_binding hb)]
    refine (hl.write h hw .explicit w).of_replay hact fun m => ?_
    rw [Model.replay_append]
    exact hnone _
  | bindings => rwa [hsame rfl]
  | lookup => rwa [hsame rfl]
  | beginStaged hp =>
    obtain rfl : ws = [] := (logged_idle hp).mp hl
    exact (logged_staging rfl).mpr .empty
  | beginDirect hp =>
    obtain rfl : ws = [] := (logged_idle hp).mp hl
    exact (logged_engaged (.inl rfl)).mpr (seen_of_unstaged rfl)
  | beginTimeout => cases hact
  | prepare hp =>
    rw [hsame rfl]
    rename_i r
    rcases r with e | _
    · exact absurd hp.error_idle (Connection.isActive_iff.mp hact)
    · exact hp.logged h hl
  | rollback =>
    rw [hsame rfl]
    split at hact
    · cases hact
    · rw [if_neg ‹_›]
      exact hl
  | flags hi =>
    rw [hsame (Request.onStatements_of_flags hi)]
    exact hl.congr rfl rfl rfl rfl
  | switch hs hp =>
    rw [hsame (by rw [hs.1]; rfl), logged_engaged (.inl rfl), switched_seen h hp, hl.seen_eq h]
    have hstore := (flushed_nativeOnly st.locked.opened).continues.store
    exact congrArg (fun store => store.contents.statements.replay ws) hstore.symm
  | switchTimeout => simpa [Request.logged] using hl
  | listen =>
    rw [hsame rfl]
    exact hl.congr rfl rfl rfl rfl
  | unlisten =>
    rw [hsame rfl]
    exact hl.congr rfl rfl rfl rfl

/-! ## Listeners -/

/-- The writes that a listener was told of, in order. -/
def heardBy (listener : String) (events : List Event) : List Write :=
  events.filterMap fun
    | .added l s => if l = listener then some (.add s) else none
    | .removed l s => if l = listener then some (.remove s) else none
    | .merged _ => none

theorem heardBy_append (listener : String) (es es' : List Event) :
    heardBy listener (es ++ es') = heardBy listener es ++ heardBy listener es' :=
  List.filterMap_append

/-- A listener is told of a write as often as it is registered. -/
theorem heardBy_events (listener : String) (listeners : List String) {w : Write}
    (hw : (∃ s, w = .add s) ∨ ∃ s, w = .remove s) :
    heardBy listener (w.events listeners) =
      List.replicate (listeners.count listener) w := by
  have hmap : ∀ event : String → Event,
      (∀ l, heardBy listener [event l] = if l = listener then [w] else []) →
      heardBy listener (listeners.map event) = List.replicate (listeners.count listener) w := by
    intro event hevent
    induction listeners with
    | nil => rfl
    | cons l ls ih =>
      rw [List.map_cons, ← List.singleton_append, heardBy_append, ih, hevent, List.count_cons]
      by_cases hl : l = listener
      · simp [hl, List.replicate_succ]
      · simp [hl]
  rcases hw with ⟨s, rfl⟩ | ⟨s, rfl⟩
  · exact hmap _ fun l => by by_cases hl : l = listener <;> simp [heardBy, hl]
  · exact hmap _ fun l => by by_cases hl : l = listener <;> simp [heardBy, hl]

theorem write_events (st : Frame Session) (kind : BatchKind) (w : Write) :
    (st.write kind w).self.events = st.self.events ++ w.events st.self.listeners := by
  rw [write]
  split
  · obtain ⟨session, net, heq⟩ := writeNative_nativeOnly st w
    rw [heq]
    rfl
  · cases w <;> rfl

theorem heardBy_noted (st : Frame Session) (req : Request) (listener : String) :
    heardBy listener (st.noted req).self.events = heardBy listener st.self.events := by
  obtain ⟨ledger, events, hnoted, hevents, -⟩ := noted_eq st req
  have hnone : heardBy listener events = [] := by
    refine List.filterMap_eq_nil_iff.mpr fun e he => ?_
    obtain ⟨q, rfl⟩ := hevents e he
    rfl
  rw [hnoted, update_self, heardBy_append, hnone, List.append_nil]

theorem isStatement_of_mem_writesIn {req : Request} {m : Model} {w : Write}
    (hw : w ∈ req.writesIn m) : (∃ s, w = .add s) ∨ ∃ s, w = .remove s := by
  rcases List.mem_append.mp hw with hw | hw
  · obtain ⟨s, -, rfl⟩ := List.mem_map.mp hw
    exact .inl ⟨s, rfl⟩
  · obtain ⟨s, -, rfl⟩ := List.mem_map.mp hw
    exact .inr ⟨s, rfl⟩

/-- What a listener hears of a request that is done are its writes, each as often as the listener is
registered. -/
theorem heardBy_perform (st : Frame Session) (req : Request) (listener : String) :
    heardBy listener (st.perform req).self.events = heardBy listener st.self.events ++
      (req.writesIn st.seen).flatMap
        (List.replicate (st.self.listeners.count listener)) := by
  have hfold : ∀ (ws : List Write) (st : Frame Session),
      (∀ w ∈ ws, (∃ s, w = .add s) ∨ ∃ s, w = .remove s) →
      heardBy listener (ws.foldl (write req.batch) st).self.events =
        heardBy listener st.self.events ++
          ws.flatMap (List.replicate (st.self.listeners.count listener)) := by
    intro ws
    induction ws with
    | nil => exact fun _ _ => (List.append_nil _).symm
    | cons w ws ih =>
      intro st hws
      rw [List.foldl_cons, ih _ fun w' hw' => hws w' (List.mem_cons_of_mem _ hw'),
        (write_continues st req.batch w).listeners, write_events, heardBy_append,
        heardBy_events listener _ (hws w List.mem_cons_self), List.flatMap_cons, List.append_assoc]
  rw [perform, hfold _ _ fun w hw => isStatement_of_mem_writesIn hw, heardBy_noted,
    (noted_continues st req).listeners]

/-- Whatever a connection does, a listener hears what it adds to the log, and stays registered as
often as it is, unless it is registered once more or taken back. -/
theorem Moves.heard {st : Frame Session} {req : Request} {r : Except TxnError Answer}
    {st' : Frame Session} (hm : Moves st req r st') {listener : String}
    (hlisten : req ≠ .listen listener) (hunlisten : req ≠ .unlisten listener) :
    heardBy listener st'.self.events = heardBy listener st.self.events ++
        (req.logged st.seen r).flatMap (List.replicate (st.self.listeners.count listener)) ∧
      st'.self.listeners.count listener = st.self.listeners.count listener := by
  have hquiet : ∀ {req : Request} {r : Except TxnError Answer} {st' : Frame Session},
      req.onStatements = false → st'.self.events = st.self.events →
      st'.self.listeners.count listener = st.self.listeners.count listener →
      heardBy listener st'.self.events = heardBy listener st.self.events ++
          (req.logged st.seen r).flatMap (List.replicate (st.self.listeners.count listener)) ∧
        st'.self.listeners.count listener = st.self.listeners.count listener := by
    intro req r st' hreq hevents hcount
    rw [Request.logged_of_not_onStatements hreq, hevents]
    exact ⟨(List.append_nil _).symm, hcount⟩
  cases hm with
  | refused => exact ⟨(List.append_nil _).symm, rfl⟩
  | statements =>
    exact ⟨heardBy_perform st req listener, by rw [(perform_continues st req).listeners]⟩
  | @binding _ w hb =>
    have hevents : w.events st.self.listeners = [] := by
      cases req <;> first | cases hb; rfl | cases hb
    refine hquiet (Request.onStatements_of_binding hb) ?_ ?_
    · rw [write_events, hevents, List.append_nil]
    · rw [(write_continues st _ _).listeners]
  | bindings => exact hquiet rfl rfl rfl
  | lookup => exact hquiet rfl rfl rfl
  | beginStaged => exact hquiet rfl rfl rfl
  | beginDirect => exact hquiet rfl rfl rfl
  | beginTimeout => exact hquiet rfl rfl rfl
  | prepare hp =>
    cases hp with
    | done =>
      obtain ⟨session, hself⟩ := engaged_self st
      obtain ⟨session', net, hflushed⟩ := flushed_nativeOnly st.engaged
      refine hquiet rfl ?_ ?_
      · rw [hflushed, Frame.prepared, update_self, update_self, hself]
      · rw [hflushed, Frame.prepared, update_self, update_self, hself]
    | _ => exact hquiet rfl rfl rfl
  | rollback =>
    split
    · exact hquiet rfl rfl rfl
    · exact hquiet rfl rfl rfl
  | flags hi => exact hquiet (Request.onStatements_of_flags hi) rfl rfl
  | switch hs =>
    obtain ⟨session, net, hflushed⟩ := flushed_nativeOnly st.locked.opened
    refine hquiet (by rw [hs.1]; rfl) ?_ ?_
    · rw [hflushed]
      rfl
    · rw [hflushed]
      rfl
  | switchTimeout => exact ⟨(List.append_nil _).symm, rfl⟩
  | @listen l =>
    refine hquiet rfl rfl ?_
    have hne : ¬l = listener := fun heq => hlisten (by rw [heq])
    simp [Connection.listen, List.count_append, hne]
  | @unlisten l =>
    refine hquiet rfl rfl ?_
    have hne : listener ≠ l := fun heq => hunlisten (by rw [heq])
    simp [Connection.unlisten, List.count_filter, hne]

end Frame

end QuadTxn
