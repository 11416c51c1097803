import QuadTxn.Proofs.Calls.Continuation
import QuadTxn.Proofs.Watching.Care
import QuadTxn.Proofs.Watching.Sessions

/-!
# Which failures a request can meet

Every request takes care of the store (`Request.call_careful`): it keeps its connection fit, and
the failures that it can meet are those that were asked for, a failed prepare in a preparation or a
commit and a failed commit in a commit (`Request.Risks`).
-/

namespace QuadTxn

/-- The failures of the store that a request can meet. -/
inductive Request.Risks : Request → StoreError → Prop where
  /-- a preparation may not be prepared -/
  | prepare : Risks .prepare (.injected "prepare")
  /-- a commit may not be prepared -/
  | unprepared : Risks .commit (.injected "prepare")
  /-- a commit may not be committed -/
  | commit : Risks .commit (.injected "commit")

theorem Connection.Fit.ready {st : Frame Session} (h : st.self.Fit) : st.Ready :=
  fun hp => (h.direct hp).1

/-- A call takes care on every connection that is fit. -/
def Call.Careful {α : Type} (faults : StoreError → Prop) (m : Call Session α) : Prop :=
  ∀ st, st.self.Fit → (m st).Careful Frame.care faults (fun _ _ => True) st

namespace Frame

variable {α : Type} {faults : StoreError → Prop} {Q : α → Frame Session → Prop}
  {st st' : Frame Session} {m : Call Session α}

theorem careful_of_ok {a : α} (heq : m st = .ok a st') (hst' : st.Fits st') (hQ : Q a st') :
    (m st).Careful care faults Q st := by
  rw [heq]
  exact ⟨hst', hQ⟩

/-- A call may fail for a reason of its own. -/
theorem careful_of_error {e : TxnError} (heq : m st = .error e st') (hst' : st.Fits st')
    (he : e.failures = []) : (m st).Careful care faults Q st := by
  rw [heq]
  refine ⟨hst', fun x hx => ?_⟩
  subst hx
  cases he

/-! ## The gate -/

/-- Asking for the gate is careful in a transaction, which is in the same phase afterwards. -/
theorem careful_acquire (h : st.self.Fit) (hact : st.self.isActive = true) (mode : GateMode)
    (timeout : Option Nat) :
    (Call.acquire mode timeout st).Careful care faults
      (fun _ st' => st'.self.phase = st.self.phase ∧ st'.self.isolation = st.self.isolation)
      st := by
  rw [acquire_eq]
  split
  · exact ⟨.of_store h rfl, rfl, rfl⟩
  · cases timeout with
    | some ms => exact ⟨.of_store h rfl, fun x hx => nomatch hx⟩
    | none =>
      exact ⟨.of_store h rfl, hact, fun later hlater => ⟨.of_store hlater.1 rfl, hlater.2⟩⟩

/-- What is done with a share of the gate. -/
theorem careful_shared (h : st.self.Fit) (hact : st.self.isActive = true) (hm : m.Careful faults) :
    (Call.shared m st).Careful care faults (fun _ _ => True) st := by
  refine (careful_acquire h hact _ _).bind fun _ _ mid hmid _ => ?_
  refine (hm mid hmid.fit).attempt_bind (fun a _ last hlast _ => ?_)
    fun e _ last hlast he => ⟨⟨hlast.fit, hlast.armed⟩, he⟩
  exact ⟨.of_store hlast.fit rfl, trivial⟩

/-! ## Steps that end the transaction if they fail -/

theorem careful_abandon {mid : Frame Session} (hmid : st.Fits mid) {e : TxnError}
    (he : ∀ x, e = .storage x → faults x ∧ st.store.Armed x) :
    ((do Connection.abandon; throw e : Call Session α) mid).Careful care faults Q st := by
  rw [Action.bind_apply, abandon_eq]
  exact ⟨⟨.ended _, hmid.armed⟩, he⟩

theorem careful_orAbandon (h : (m st).Careful care faults Q st) :
    (Connection.orAbandon m st).Careful care faults Q st :=
  h.attempt_bind (fun _ _ _ hmid hQ => ⟨.of_store hmid.fit rfl, hQ⟩)
    fun _ _ _ hmid he => careful_abandon hmid he

end Frame

namespace Call.Careful

variable {α β : Type} {faults : StoreError → Prop}

theorem pure (a : α) : Careful faults (Pure.pure a : Call Session α) := fun _ h =>
  ⟨.of_store h rfl, trivial⟩

theorem bind {m : Call Session α} {f : α → Call Session β} (hm : Careful faults m)
    (hf : ∀ a, Careful faults (f a)) : Careful faults (m >>= f) := fun st h =>
  (hm st h).bind fun a _ mid hmid _ => hf a mid hmid.fit

theorem forM {l : List α} {f : α → Call Session PUnit} (hf : ∀ a ∈ l, Careful faults (f a)) :
    Careful faults (l.forM f) := by
  induction l with
  | nil => exact pure _
  | cons a l ih =>
    exact (hf a List.mem_cons_self).bind fun _ => ih fun b hb => hf b (List.mem_cons_of_mem _ hb)

theorem self : Careful faults (Call.self : Call Session _) := fun _ h => ⟨.of_store h rfl, trivial⟩

theorem update {f : Connection Session → Connection Session} (hf : ∀ c, c.Fit → (f c).Fit) :
    Careful faults (Call.update f) := fun st h => ⟨.of_store (hf st.self h) rfl, trivial⟩

/-- A session that is only read answers. -/
theorem native {m : SessionM Session α} (hm : ∀ x, ∃ a, m.Answers x a) :
    Careful faults (Call.native m) := by
  intro st h
  obtain ⟨a, ha⟩ := hm (st.self.session, st.store)
  exact Frame.careful_of_ok (Frame.native_answers ha) (.of_store h rfl) trivial

end Call.Careful

namespace Connection

open Call

variable {faults : StoreError → Prop}

/-! ## Reads -/

theorem careful_observe (r : Read) : (observe r : Call Session _).Careful faults := by
  refine .update fun c h => ?_
  split
  · exact h.ledger _
  · exact h

theorem careful_tracked {α : Type} {st : Frame Session} (h : st.self.Fit)
    (hact : st.self.isActive = true) (r : Read) {answer : Call Session α}
    (hanswer : answer.Careful faults) :
    (tracked r answer st).Careful Frame.care faults (fun _ _ => True) st := by
  have hrest : ∀ a, (do observe r; return a : Call Session α).Careful faults := fun a =>
    (careful_observe r).bind fun _ => .pure a
  rcases hheld : holdsGate st with _ | _
  · rw [tracked_unheld hheld]
    exact (Frame.careful_shared h hact hanswer).bind fun a _ mid hmid _ => hrest a mid hmid.fit
  · rw [tracked_held hheld]
    exact (hanswer st h).bind fun a _ mid hmid _ => hrest a mid hmid.fit

theorem careful_reading {α : Type} (r : Read) {answer : Call Session α}
    (hanswer : answer.Careful faults) : (reading r answer).Careful faults := by
  intro st h
  rcases hact : st.self.isActive with _ | _
  · simpa [reading, hact] using hanswer st h
  · simpa [reading, hact] using careful_tracked h hact r hanswer

theorem careful_view (p : Pattern) (inferred : Bool) :
    (view p inferred : Call Session _).Careful faults := fun st h =>
  Frame.careful_of_ok (Frame.view_eq st p inferred) (.of_store h rfl) trivial

theorem careful_evaluate (q : Query) (d : Dataset) (b : Bindings) (inferred : Bool) :
    (evaluate q d b inferred : Call Session _).Careful faults := by
  refine careful_reading _ (Call.Careful.self.bind fun c => ?_)
  have hstored : ∀ x, ∀ p,
      (Backend.statements p inferred : SessionM Session _).Answers x
        ((x.1.visible x.2).statements.select p) := fun _ _ => Session.read_answers _ _ _
  split
  · refine Call.Careful.bind (.update fun c h => ?_) fun _ => .native fun x => ?_
    · exact h.congr rfl rfl rfl rfl
    · exact ⟨_, Query.evaluate_answers (Staging.onTopOf_answers (hstored x) _) q d b⟩
  · exact .native fun x => ⟨_, Query.evaluate_answers (hstored x) q d b⟩

theorem careful_graphNames : (graphNames : Call Session _).Careful faults := by
  refine careful_reading _ (Call.Careful.self.bind fun c => .native fun x => ?_)
  have hpopulated : ∀ graph, (do
      let found ← c.staging.onTopOf (fun p => Backend.statements p false) (.within [some graph])
      return !found.isEmpty : SessionM Session Bool).Answers x
        !((c.staging.onto (x.1.visible x.2).statements).select (.within [some graph])).isEmpty :=
    fun _ => SessionM.Answers.bind
      (Staging.onTopOf_answers (fun _ => Session.read_answers _ _ _) _ _)
      (SessionM.Answers.pure _ _)
  exact ⟨_, SessionM.Answers.bind (Session.read_answers _ _ _)
    (GraphOverlay.resolve_answers hpopulated _ _)⟩

end Connection

namespace Frame

/-! ## Writes -/

/-- A statement that is well formed can be written in any phase. -/
theorem fit_write {st : Frame Session} (h : st.self.Fit) (kind : BatchKind) {w : Write}
    (hw : ∀ s, w = .add s → s.WellFormed) : st.Fits (st.write kind w) := by
  refine .of_store ?_ (write_continues st kind w).store
  rw [write]
  split
  · rename_i hp
    obtain ⟨session, net, heq⟩ := writeNative_nativeOnly st w
    have hopen := writeNative_open (h.direct hp).1 w
    rw [heq] at hopen ⊢
    exact ⟨fun hp' => by simp [update, report, hp] at hp', fun _ => ⟨hopen, (h.direct hp).2⟩,
      fun hp' => by simp [update, report, hp] at hp', h.wellFormed⟩
  · cases w with
    | add s =>
      refine ⟨h.staging, h.direct, h.prepared, fun t ht => ?_⟩
      rcases Staging.isAdded_add.mp ht with rfl | ht
      · exact hw t rfl
      · exact h.wellFormed t ht
    | remove s =>
      exact ⟨h.staging, h.direct, h.prepared,
        fun t ht => h.wellFormed t (Staging.isAdded_remove.mp ht).1⟩
    | _ => exact h.congr rfl rfl rfl rfl

end Frame

namespace Connection

open Call

variable {faults : StoreError → Prop}

theorem careful_addOne (kind : BatchKind) {s : Statement} (hs : s.WellFormed) :
    (addOne kind s : Call Session _).Careful faults := fun _ h =>
  Frame.careful_of_ok (Frame.addOne_eq h.ready kind hs)
    (Frame.fit_write h kind fun _ heq => Write.add.inj heq ▸ hs) trivial

theorem careful_removeOne (kind : BatchKind) (s : Statement) :
    (removeOne kind s : Call Session _).Careful faults := fun _ h =>
  Frame.careful_of_ok (Frame.removeOne_eq h.ready kind s)
    (Frame.fit_write h kind fun _ heq => nomatch heq) trivial

theorem careful_removing (kind : BatchKind) {st : Frame Session} (h : st.self.Fit)
    (hw : st.unwritable? = none) (p : Pattern) :
    (remove kind p st).Careful Frame.care faults (fun _ _ => True) st := by
  have heq : remove kind p st = (tracked (.ofPattern p false) (view p false) st).bind
      fun selected => (do selected.forM (removeOne kind); return selected.length) := by
    simp only [remove, Action.bind_apply, Frame.checkWritable_eq, hw, Outcome.bind_ok]
  have hremove : ∀ selected : List Statement, (do
      selected.forM (removeOne kind)
      return selected.length : Call Session Nat).Careful faults := fun selected =>
    (Call.Careful.forM fun s _ => careful_removeOne kind s).bind fun _ => .pure _
  rw [heq]
  exact (careful_tracked h (Frame.isActive_of_writable hw) _ (careful_view p false)).bind
    fun selected _ mid hmid _ => hremove selected mid hmid.fit

theorem careful_adding (kind : BatchKind) {st : Frame Session} (h : st.self.Fit)
    (hw : st.unwritable? = none) {subject predicate object : Term} {graphs : List GraphName}
    (hm : Request.malformation? subject predicate = none) :
    (add kind subject predicate object graphs st).Careful Frame.care faults
      (fun _ _ => True) st := by
  obtain ⟨hs, hp⟩ := Request.wellFormed_of_malformation hm
  have heq : add kind subject predicate object graphs st =
      (Request.add kind subject predicate object graphs).additions.forM (addOne kind) st := by
    simp only [add, hs, hp, Frame.checkWritable_eq, hw, Action.bind_apply, Outcome.bind_ok,
      Bool.not_true, Bool.false_eq_true, if_false]
    rfl
  rw [heq]
  refine Call.Careful.forM (fun s hmem => careful_addOne kind ?_) st h
  exact Request.wellFormed_of_mem_additions
    (show (Request.add kind subject predicate object graphs).malformed? = none from hm) hmem

theorem careful_binding {st : Frame Session} (h : st.self.Fit) (hw : st.unwritable? = none)
    (staged : NamespaceOverlay → NamespaceOverlay) (w : Write) :
    (writeNamespaces staged (Session.write w) st).Careful Frame.care faults
      (fun _ _ => True) st := by
  by_cases hp : st.self.phase = .direct
  · obtain ⟨hopen, hread⟩ := h.direct hp
    have heq : writeNamespaces staged (Session.write w) st = .ok ⟨⟩ (st.update (·.record w)) := by
      simp [writeNamespaces, Frame.checkWritable_eq, hw, isDirect, hp, Frame.native_write hopen]
    have hfit : (st.self.record w).Fit := .of_direct hp (hopen.record w) hread h.wellFormed
    exact Frame.careful_of_ok heq (.of_store hfit rfl) trivial
  · have heq : writeNamespaces staged (Session.write w) st =
        .ok ⟨⟩ (st.update fun c => { c with namespaces := staged c.namespaces }) := by
      simp [writeNamespaces, Frame.checkWritable_eq, hw, isDirect, hp]
      rfl
    exact Frame.careful_of_ok heq (.of_store (h.congr rfl rfl rfl rfl) rfl) trivial

/-! ## The life of a transaction -/

/-- Beginning starts a native transaction only where there is none. -/
theorem careful_beginning {st : Frame Session} (h : st.self.Fit) (hp : st.self.phase = .idle) :
    (begin st).Careful Frame.care faults (fun _ _ => True) st := by
  have hbegun : st.begun.self.Fit := .of_staging rfl (h.staging (.inl hp)) fun s hs => by
    simp [Frame.begun, reset] at hs
  rcases hr : st.self.isolation.readSnapshot with _ | _
  · rw [Frame.begin_direct_eq hp hr]
    refine (Frame.careful_orAbandon ?_).of_leaves (.of_store hbegun rfl)
    refine (Frame.careful_acquire hbegun rfl _ _).bind fun _ _ mid hmid hgate => ?_
    have heq : (do
        Call.native Backend.begin
        Call.update fun c => { c with phase := .direct } : Call Session PUnit) mid =
          .ok ⟨⟩ mid.opened.direct := by
      rw [Action.bind_apply, Frame.native_begin_eq (hmid.fit.staging (.inr hgate.1))]
      rfl
    have hfit : mid.opened.direct.self.Fit := by
      refine .of_direct rfl ⟨_, rfl, rfl⟩ ?_ hmid.fit.wellFormed
      exact (congrArg Isolation.readSnapshot hgate.2).trans hr
    exact Frame.careful_of_ok heq (.of_store hfit rfl) trivial
  · exact Frame.careful_of_ok (Frame.begin_staged hp hr) (.of_store hbegun rfl) trivial

/-- What is left of a preparation once the gate is held: the native transaction is started unless it
runs, takes all that is staged, and is made ready unless that was to fail. -/
theorem careful_makeReady {st : Frame Session} (h : st.self.Fit) (hw : st.unwritable? = none)
    (hfaults : faults (.injected "prepare")) :
    (orAbandon makeReady st).Careful Frame.care faults
      (fun _ st' => st'.self.phase = .prepared) st := by
  have hcheck := Frame.checkLedger_eq st
  rcases hv : st.verdict? with _ | e
  · rw [hv] at hcheck
    obtain ⟨mid, hready, hopen, hstaging, hstore⟩ : ∃ mid, makeReady st = (do
          flush
          Call.native Backend.prepare
          Call.update fun c => { c with phase := .prepared } : Call Session PUnit) mid ∧
        mid.self.session.Open ∧ mid.self.staging = st.self.staging ∧ mid.store = st.store := by
      rcases Frame.phase_of_writable hw with hp | hp
      · have hbegin := Frame.native_begin_eq (h.staging (.inr hp))
        exact ⟨st.opened, by simp [makeReady, hcheck, isDirect, hp, hbegin], ⟨_, rfl, rfl⟩, rfl,
          rfl⟩
      · exact ⟨st, by simp [makeReady, hcheck, isDirect, hp], (h.direct hp).1, rfl, rfl⟩
    have hwf : ∀ s, mid.self.staging.isAdded s = true → s.WellFormed := hstaging ▸ h.wellFormed
    rw [Frame.seal_of_open hopen hwf] at hready
    obtain ⟨session, net, hflushed⟩ := Frame.flushed_nativeOnly mid
    rcases hfail : mid.store.failPrepare with _ | _
    · have heq : makeReady st = .ok ⟨⟩ mid.flushed.prepared := by simp [hready, hfail]
      obtain ⟨t, ht, -⟩ : mid.flushed.self.session.Open := Frame.flushed_open hopen
      have hfit : mid.flushed.prepared.self.Fit := by
        refine .of_prepared rfl ⟨_, congrArg (Option.map _) ht⟩ ?_
        rw [hflushed]
        exact hwf
      refine Frame.careful_of_ok (Frame.orAbandon_ok heq) (.of_store hfit ?_) rfl
      rw [hflushed]
      exact hstore
    · have heq : makeReady st = .error (.storage (.injected "prepare"))
          mid.flushed.prepareFailed := by simp [hready, hfail]
      rw [Frame.orAbandon_error heq]
      refine ⟨⟨.ended _, fun x hx => hx.of_flags (fun hprepare => by cases hprepare)
        fun hcommit => ?_⟩, fun x hx => ?_⟩
      · rw [hflushed] at hcommit
        exact hstore ▸ hcommit
      · obtain rfl := TxnError.storage.inj hx
        exact ⟨hfaults, .prepare (hstore ▸ hfail)⟩
  · rw [hv] at hcheck
    have heq : makeReady st = .error e st := by simp [makeReady, hcheck]
    exact Frame.careful_of_error (Frame.orAbandon_error heq) ⟨.ended _, fun _ hx => hx⟩
      (TxnError.failures_of_isConflict (isConflict_of_verdict hv))

/-- A transaction that has been prepared is in that phase. -/
theorem careful_prepare {st : Frame Session} (h : st.self.Fit)
    (hfaults : faults (.injected "prepare")) :
    (prepare st).Careful Frame.care faults
      (fun _ st' => st.self.isActive = true → st'.self.phase = .prepared) st := by
  by_cases hw : st.unwritable? = none
  · rw [Frame.prepare_of_writable hw]
    have hact := Frame.isActive_of_writable hw
    refine Outcome.Careful.mono ?_ (fun _ hx => hx) fun _ _ hphase _ => hphase
    have heq : orAbandon tryPrepare st = if holdsGate st then orAbandon makeReady st
        else orAbandon (do Call.acquireGate; makeReady) st := by
      rw [orAbandon, Action.bind_apply, Action.attempt_apply, tryPrepare_eq]
      split <;> rfl
    rw [heq]
    split
    · exact careful_makeReady h hw hfaults
    · rw [Frame.orAbandon_bind]
      refine (Frame.careful_acquire h hact _ _).attempt_bind (fun _ _ mid hmid hgate => ?_)
        fun _ _ _ hmid he => Frame.careful_abandon hmid he
      have hw' : mid.unwritable? = none := by rwa [Frame.unwritable?, hgate.1]
      exact careful_makeReady hmid.fit hw' hfaults
  · refine Frame.careful_of_ok (Frame.prepare_skip hw) (.of_store h rfl) fun hact => ?_
    exact Frame.prepared_of_unwritable hact hw

theorem careful_commit {st : Frame Session} (h : st.self.Fit)
    (hprepare : faults (.injected "prepare")) (hcommit : faults (.injected "commit")) :
    (commit st).Careful Frame.care faults (fun _ _ => True) st := by
  rcases hact : st.self.isActive with _ | _
  · have heq : commit st = .ok none st := by simp [commit, hact]
    exact Frame.careful_of_ok heq (.of_store h rfl) trivial
  · rw [Frame.commit_eq_bind hact]
    refine (careful_prepare h hprepare).bind fun _ _ mid hmid hphase => ?_
    obtain ⟨t, ht⟩ := hmid.fit.prepared (hphase hact)
    rw [Frame.native_commit_eq ht]
    split
    · rename_i hfail
      refine ⟨⟨.ended _, fun x hx => hx.of_flags (fun h => h) fun harmed => by cases harmed⟩,
        fun x hx => ?_⟩
      obtain rfl := TxnError.storage.inj hx
      exact ⟨hcommit, .commit hfail⟩
    · exact ⟨⟨.ended _, fun x hx => hx.of_flags (fun h => h) fun h => h⟩, trivial⟩

/-! ## Changes of isolation -/

/-- A transaction that stages its writes can always be made direct. -/
theorem careful_switchToDirect {st : Frame Session} (h : st.self.Fit)
    (hp : st.self.phase = .staging) :
    (switchToDirect st).Careful Frame.care faults (fun _ _ => True) st := by
  rw [switchToDirect_eq hp]
  refine (Frame.careful_acquire h (by simp [isActive, hp]) _ _).bind fun _ _ mid hmid hgate => ?_
  have hbegin := Frame.native_begin_eq (hmid.fit.staging (.inr (hgate.1.trans hp)))
  have hopen : mid.opened.self.session.Open := ⟨_, rfl, rfl⟩
  have hflush := Frame.flush_eq hopen hmid.fit.wellFormed
  obtain ⟨session, net, hflushed⟩ := Frame.flushed_nativeOnly mid.opened
  have hflushedOpen := Frame.flushed_open hopen
  rw [hflushed] at hflush hflushedOpen
  refine Frame.careful_of_ok (goDirect_ok hbegin hflush) (.of_store ?_ rfl) trivial
  exact .of_direct rfl hflushedOpen rfl fun s hs => by simp [unstage] at hs

/-- Flags that are set do not stage the writes of a direct transaction. -/
theorem readSnapshot_of_flags {st : Frame Session} (hp : st.self.phase = .direct)
    (hread : st.self.isolation.readSnapshot = false) {req : Request} {i : Isolation}
    (hi : req.flags? st.self.isolation = some i) (hr : st.refusal? req = none) :
    i.readSnapshot = false := by
  have hact : st.self.isActive = true := by simp [isActive, hp]
  cases req with
  | setReadSnapshot on =>
    obtain rfl := Option.some.inj hi
    cases on with
    | false => rfl
    | true => simp [Frame.refusal?, hact, hread] at hr
  | setSnapshot on =>
    obtain rfl := Option.some.inj hi
    exact hread
  | setSerializable on =>
    obtain rfl := Option.some.inj hi
    exact hread
  | setIsolation level =>
    obtain rfl := Option.some.inj hi
    have hlevel : st.self.level = level := by simpa [Frame.refusal?, hact] using hr
    simp [← hlevel, Connection.level, Isolation.level, hread, IsolationLevel.flags]
  | _ => cases hi

theorem careful_flags {st : Frame Session} (h : st.self.Fit) {req : Request} {i : Isolation}
    (hi : req.flags? st.self.isolation = some i) (hr : st.refusal? req = none) :
    (req.call st).Careful Frame.care faults (fun _ _ => True) st := by
  by_cases hs : st.Switches req
  · have hp := Frame.switches_staging (fun hp => (h.direct hp).2) hs hr
    rw [Frame.call_switch hs]
    exact (careful_switchToDirect h hp).bind fun _ _ _ hmid _ => ⟨.of_store hmid.fit rfl, trivial⟩
  · have hfit : (st.withFlags i).self.Fit :=
      ⟨h.staging,
        fun hp => ⟨(h.direct hp).1, @readSnapshot_of_flags st hp (h.direct hp).2 _ _ hi hr⟩,
        h.prepared, h.wellFormed⟩
    exact Frame.careful_of_ok (Frame.flags_eq hi hr hs) (.of_store hfit rfl) trivial

end Connection

open Connection

/-! ## Requests -/

/-- Every request keeps its connection fit, and meets only failures that it risks and that were
armed. -/
theorem Request.call_careful {st : Frame Session} (h : st.self.Fit) (req : Request) :
    (req.call st).Careful Frame.care req.Risks (fun _ _ => True) st := by
  -- what is made of an answer has nothing to do with the store
  have hanswer : ∀ {α : Type} {o : Outcome (Frame Session) α} {Q : α → Frame Session → Prop}
      {faults : StoreError → Prop} (f : α → Answer), o.Careful Frame.care faults Q st →
      (o.bind fun a => (pure (f a) : Call Session Answer)).Careful Frame.care faults
        (fun _ _ => True) st := fun f ho =>
    ho.bind fun _ _ _ hmid _ => ⟨.of_store hmid.fit rfl, trivial⟩
  have hquiet : ∀ {α : Type} {m : Call Session α} {faults : StoreError → Prop} (f : α → Answer),
      m.Careful faults → ((m st).bind fun a => (pure (f a) : Call Session Answer)).Careful
        Frame.care faults (fun _ _ => True) st := fun f hm => hanswer f (hm st h)
  have hok : ∀ {α : Type} {m : Call Session α} {a : α} {st' : Frame Session}
      {faults : StoreError → Prop} (f : α → Answer), m st = .ok a st' → st.Fits st' →
      ((m st).bind fun a => (pure (f a) : Call Session Answer)).Careful Frame.care faults
        (fun _ _ => True) st := fun f heq hst' =>
    hanswer (Q := fun _ _ => True) f (Frame.careful_of_ok heq hst' trivial)
  rcases hr : st.refusal? req with _ | e
  rotate_left
  · exact Frame.careful_of_error (Frame.call_refused hr) (.of_store h rfl)
      (TxnError.failures_of_isRefusal (Frame.isRefusal_of_refusal hr))
  have hwritable : req.isWrite = true → st.unwritable? = none := by
    intro hwrite
    rw [Frame.refusal?_of_isWrite hwrite] at hr
    exact (Option.or_eq_none_iff.mp hr).2
  have hmal := Frame.malformed?_of_accepted hr
  cases req with
  | begin =>
    have hact : st.self.isActive = false := by simpa [Frame.refusal?] using hr
    exact hanswer (fun _ => .none) (careful_beginning h (phase_of_inactive hact))
  | prepare => exact hanswer (fun _ => .none) (careful_prepare h .prepare)
  | commit => exact hanswer (fun _ => .none) (careful_commit h .unprepared .commit)
  | rollback =>
    refine hok (fun _ => .none) (Frame.rollback_eq st) ?_
    split
    · exact ⟨.ended _, fun _ hx => hx⟩
    · exact .of_store h rfl
  | add kind s p o graphs =>
    exact hanswer (fun _ => .none) (careful_adding kind h (hwritable rfl) hmal)
  | addStatement s => exact hanswer (fun _ => .none) (careful_adding _ h (hwritable rfl) hmal)
  | remove kind p => exact hanswer .count (careful_removing kind h (hwritable rfl) p)
  | removeStatement s => exact hanswer .count (careful_removing _ h (hwritable rfl) _)
  | clear graphs => exact hanswer .count (careful_removing _ h (hwritable rfl) _)
  | bindLabel label name => exact hanswer (fun _ => .none) (careful_binding h (hwritable rfl) _ _)
  | unbindLabel label => exact hanswer (fun _ => .none) (careful_binding h (hwritable rfl) _ _)
  | unbindAll => exact hanswer (fun _ => .none) (careful_binding h (hwritable rfl) _ _)
  | getStatements p inferred =>
    exact hquiet .statements (careful_reading _ (careful_view p inferred))
  | hasStatement p inferred =>
    exact hquiet .truth (careful_reading _ ((careful_view p inferred).bind fun _ => .pure _))
  | evaluate q d b inferred => exact hquiet .solutions (careful_evaluate q d b inferred)
  | size graphs =>
    exact hquiet .count (careful_reading _ ((careful_view _ _).bind fun _ => .pure _))
  | graphNames => exact hquiet .graphs careful_graphNames
  | getNamespaces => exact hok .namespaces Frame.getNamespaces_eq (.of_store h rfl)
  | namespaceOf label => exact hok .namespaceName (Frame.namespaceOf_eq label) (.of_store h rfl)
  | setReadSnapshot on => exact careful_flags h rfl hr
  | setSnapshot on => exact careful_flags h rfl hr
  | setSerializable on => exact careful_flags h rfl hr
  | setIsolation level => exact careful_flags h rfl hr
  | listen listener =>
    exact hquiet (fun _ => .none) (.update fun c hc => hc.congr rfl rfl rfl rfl)
  | unlisten listener => exact ⟨.of_store (h.congr rfl rfl rfl rfl) rfl, trivial⟩

end QuadTxn
