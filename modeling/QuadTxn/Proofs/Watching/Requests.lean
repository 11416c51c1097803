import QuadTxn.Proofs.Watching.Sessions

/-!
# Requests over watched sessions

Every request reports its failures (`Request.call_reports`): the only error of the store that it
meets, if any, is the one that it fails with.
-/

namespace QuadTxn

open Call

namespace Connection

/-! ## Reads and writes -/

theorem reports_observe (r : Read) : Reports (observe r) (observe r) := by
  refine .update fun c log => ?_
  change (if c.isolation.snapshot then _ else _) = Connection.watch log (if _ then _ else _)
  split <;> rfl

theorem reports_tracked {α : Type} (r : Read) {answer' : Call WatchedSession α}
    {answer : Call Session α} (h : Reports answer' answer) :
    Reports (tracked r answer') (tracked r answer) := by
  refine .get_bind fun st log => ?_
  have hrest : ∀ a, Reports (do observe r; return a) (do observe r; return a : Call Session α) :=
    fun a => (reports_observe r).bind fun _ => .pure a
  change Reports (if holdsGate st then _ else _) _
  split
  · exact h.bind hrest
  · exact h.shared.bind hrest

theorem reports_reading {α : Type} (r : Read) {answer' : Call WatchedSession α}
    {answer : Call Session α} (h : Reports answer' answer) :
    Reports (reading r answer') (reading r answer) :=
  .self_bind fun _ _ => .ite (reports_tracked r h) h

theorem reports_view (p : Pattern) (inferred : Bool) :
    Reports (view p inferred) (view p inferred) :=
  .self_bind fun _ _ => .native_of_eq (WatchedSession.noting_onTopOf _ _ p)

theorem reports_evaluate (q : Query) (d : Dataset) (b : Bindings) (inferred : Bool) :
    Reports (evaluate q d b inferred) (evaluate q d b inferred) := by
  refine reports_reading _ (.self_bind fun c _ =>
    .ite ((Reports.update fun _ _ => rfl).bind fun _ => ?_) ?_)
  · refine .native_of_eq ((WatchedSession.noting_evaluate _ q d b).trans ?_)
    exact congrArg (Query.evaluate · q d b)
      (funext fun p => WatchedSession.noting_onTopOf c.staging _ p)
  · exact .native_of_eq (WatchedSession.noting_evaluate _ q d b)

theorem reports_graphNames : Reports graphNames graphNames := by
  refine reports_reading _ (.self_bind fun c _ => .native_of_eq ?_)
  rw [WatchedSession.noting_bind]
  refine congrArg _ (funext fun stored => (WatchedSession.noting_resolve _ stored _).trans ?_)
  exact congrArg (c.graphs.resolve stored) (funext fun g => WatchedSession.noting_bind _ _)

theorem reports_checkWritable : Reports checkWritable checkWritable := by
  refine .self_bind fun c log => ?_
  have hphase : (c.watch log).phase = c.phase := rfl
  rw [hphase]
  cases c.phase with
  | idle => exact .throw rfl
  | prepared => exact .throw rfl
  | staging => exact .pure _
  | direct => exact .pure _

theorem reports_isDirect : Reports isDirect isDirect := .self_bind fun _ _ => .pure _

theorem reports_notify (event : String → Event) : Reports (notify event) (notify event) :=
  .update fun _ _ => rfl

theorem reports_storeAdd (s : Statement) : Reports (storeAdd s) (storeAdd s) := by
  refine (Reports.native_of_eq (WatchedSession.noting_contains s)).bind fun found => ?_
  cases found
  · exact (Reports.native _).bind fun _ => .update fun _ _ => rfl
  · exact .pure _

theorem reports_storeRemove (s : Statement) : Reports (storeRemove s) (storeRemove s) :=
  (Reports.native _).bind fun _ => .ite (.update fun _ _ => rfl) (.pure _)

theorem reports_addOne (kind : BatchKind) (s : Statement) :
    Reports (addOne kind s) (addOne kind s) := by
  refine reports_isDirect.bind fun direct => ?_
  cases direct
  · exact Reports.bind (.update fun _ _ => rfl) fun _ => reports_notify _
  · exact (reports_storeAdd s).bind fun _ => reports_notify _

theorem reports_removeOne (kind : BatchKind) (s : Statement) :
    Reports (removeOne kind s) (removeOne kind s) := by
  refine reports_isDirect.bind fun direct => ?_
  cases direct
  · exact Reports.bind (.update fun _ _ => rfl) fun _ => reports_notify _
  · exact (reports_storeRemove s).bind fun _ => reports_notify _

theorem reports_add (kind : BatchKind) (subject predicate object : Term)
    (graphs : List GraphName) :
    Reports (add kind subject predicate object graphs)
      (add kind subject predicate object graphs) := by
  have hstage : Reports (do
      checkWritable
      let graphs := if graphs.isEmpty then [none] else graphs
      (graphs.map fun g => ⟨subject, predicate, object, g⟩).forM (addOne kind)) (do
      checkWritable
      let graphs := if graphs.isEmpty then [none] else graphs
      (graphs.map fun g => ⟨subject, predicate, object, g⟩).forM (addOne kind)) :=
    reports_checkWritable.bind fun _ => .forM (reports_addOne kind)
  exact .refuse rfl fun _ => .refuse rfl fun _ => hstage

theorem reports_remove (kind : BatchKind) (p : Pattern) :
    Reports (remove kind p) (remove kind p) :=
  reports_checkWritable.bind fun _ => (reports_tracked _ (reports_view p false)).bind fun _ =>
    (Reports.forM (reports_removeOne kind)).bind fun _ => .pure _

theorem reports_writeNamespaces (staged : NamespaceOverlay → NamespaceOverlay)
    (stored : SessionM Session Unit) :
    Reports (writeNamespaces staged (WatchedSession.noting stored))
      (writeNamespaces staged stored) :=
  reports_checkWritable.bind fun _ => reports_isDirect.bind fun _ =>
    .ite (.native _) (.update fun _ _ => rfl)

theorem reports_flush : Reports flush flush := by
  refine .self_bind fun c _ => (Reports.native_of_eq (WatchedSession.noting_flush _)).bind
    fun _ => Reports.forM fun b => ?_
  exact (Reports.forM reports_storeRemove).bind fun _ => .forM reports_storeAdd

theorem reports_getNamespaces : Reports getNamespaces getNamespaces :=
  .self_bind fun _ _ => (Reports.native _).bind fun _ => .pure _

theorem reports_namespaceOf (label : String) :
    Reports (namespaceOf label) (namespaceOf label) :=
  .self_bind fun _ _ => .native_of_eq (WatchedSession.noting_lookup _ label)

/-! ## The life of a transaction -/

/-- Only a native transaction that runs is rolled back, and that cannot fail. -/
theorem reports_discard : Reports discard discard := by
  intro st log
  obtain ⟨self, store, k⟩ := st
  obtain ⟨id, ⟨txn⟩, _⟩ := self
  cases txn with
  | none => rfl
  | some t => rfl

theorem reports_settle : Reports settle settle :=
  (Reports.update fun _ _ => rfl).bind fun _ => (Reports.coordinate _).bind fun _ => .coordinate _

theorem reports_abandon : Reports abandon abandon := reports_discard.bind fun _ => reports_settle

theorem reports_orAbandon {α : Type} {step' : Call WatchedSession α} {step : Call Session α}
    (h : Reports step' step) : Reports (orAbandon step') (orAbandon step) := by
  intro st log
  rw [orAbandon, Action.bind_apply, Action.attempt_apply, h]
  refine watched_attempt_bind (fun a => .pure a) ?_ _ log
  exact Reports.rethrow reports_abandon fun st => ⟨_, Frame.abandon_eq st⟩

theorem reports_startDirect : Reports startDirect startDirect :=
  Reports.acquireGate.bind fun _ => (Reports.native _).bind fun _ => .update fun _ _ => rfl

theorem reports_begin : Reports begin begin := by
  refine .self_bind fun c _ => .refuse rfl fun _ => ?_
  refine (Reports.update fun _ _ => rfl).bind fun _ => (Reports.coordinate _).bind fun _ => ?_
  exact .ite (reports_orAbandon reports_startDirect) (.pure _)

theorem reports_checkLedger : Reports checkLedger checkLedger := by
  intro st log
  rw [Frame.checkLedger_eq, Frame.checkLedger_eq]
  have hverdict : (st.watch log).verdict? = st.verdict? := rfl
  rw [hverdict]
  rcases hv : st.verdict? with _ | e
  · rfl
  · have he := TxnError.failures_of_isConflict (isConflict_of_verdict hv)
    exact Reports.throw he st log

theorem reports_tryPrepare : Reports tryPrepare tryPrepare := by
  have hseal : Reports (do
      flush
      Call.native Backend.prepare
      Call.update fun c => { c with phase := .prepared }) (do
      flush
      Call.native Backend.prepare
      Call.update fun c => { c with phase := .prepared }) :=
    reports_flush.bind fun _ => (Reports.native _).bind fun _ => .update fun _ _ => rfl
  have hready : Reports makeReady makeReady := by
    refine reports_checkLedger.bind fun _ => reports_isDirect.bind fun _ => ?_
    exact .ite ((Reports.native _).bind fun _ => hseal) hseal
  intro st log
  rw [tryPrepare_eq, tryPrepare_eq]
  change (if holdsGate st then _ else _) = _
  split
  · exact hready st log
  · exact (Reports.acquireGate.bind fun _ => hready) st log

theorem reports_prepare : Reports prepare prepare := by
  refine .self_bind fun c log => ?_
  have hphase : (c.watch log).phase = c.phase := rfl
  rw [hphase]
  cases c.phase with
  | idle => exact .pure _
  | prepared => exact .pure _
  | staging => exact reports_orAbandon reports_tryPrepare
  | direct => exact reports_orAbandon reports_tryPrepare

theorem reports_conclude : Reports conclude conclude :=
  .get_bind fun _ _ => (Reports.coordinate _).bind fun _ => reports_settle.bind fun _ => .pure _

theorem reports_commit : Reports commit commit := by
  refine .self_bind fun c log => ?_
  have hcommit : Reports (do
      prepare
      orAbandon (Call.native Backend.commit)
      some <$> conclude) (do
      prepare
      orAbandon (Call.native Backend.commit)
      some <$> conclude) :=
    reports_prepare.bind fun _ => (reports_orAbandon (Reports.native _)).bind fun _ =>
      reports_conclude.map some
  have hact : (c.watch log).isActive = c.isActive := rfl
  rw [hact]
  exact .ite (.pure _) hcommit

/-- A rollback is not reported after the end, since there is nothing to report. -/
theorem reports_rollback : Reports rollback rollback := by
  intro st log
  obtain ⟨self, store, k⟩ := st
  obtain ⟨id, ⟨txn⟩, isolation, phase, _⟩ := self
  cases phase with
  | idle => rfl
  | _ =>
    cases txn with
    | none => rfl
    | some t => rfl

end Connection

/-! ## What a flush leaves behind

A flush that cannot be completed leaves the native transaction running, so that it can be rolled
back. -/

/-- The operation does not end a native transaction, also if it fails. -/
def SessionM.KeepsActive {α : Type} (m : SessionM Session α) : Prop :=
  ∀ start, start.1.isActive = true → (m.perform start).2.1.isActive = true

namespace SessionM.KeepsActive

variable {α β : Type}

theorem pure (a : α) : KeepsActive (Pure.pure a : SessionM Session α) := fun _ h => h

theorem bind {m : SessionM Session α} {f : α → SessionM Session β} (hm : KeepsActive m)
    (hf : ∀ a, KeepsActive (f a)) : KeepsActive (m >>= f) := by
  intro start h
  have hstart := hm start h
  change (SessionM.perform (EStateM.bind m f) start).2.1.isActive = true
  rcases hstep : m start with ⟨a, mid⟩ | ⟨e, mid⟩
  · rw [perform, hstep] at hstart
    rw [perform, EStateM.bind, hstep]
    exact hf a mid hstart
  · rw [perform, hstep] at hstart
    rw [perform, EStateM.bind, hstep]
    exact hstart

theorem forM {l : List α} {f : α → SessionM Session PUnit} (hf : ∀ a, KeepsActive (f a)) :
    KeepsActive (l.forM f) := by
  induction l with
  | nil => exact pure _
  | cons a l ih => exact (hf a).bind fun _ => ih

theorem read (f : Contents → α) : KeepsActive (Session.read f) := fun _ h => h

theorem write (w : Write) : KeepsActive (Session.write w) := by
  rintro ⟨⟨txn⟩, store⟩ h
  cases txn with
  | none => cases h
  | some t =>
    rw [perform, Session.write]
    rcases hp : t.prepared with _ | _
    · simp only [hp]
      rfl
    · simp only [hp]
      rfl

theorem add (s : Statement) : KeepsActive (Session.add s) := by
  rw [Session.add]
  split
  · exact write _
  · exact fun _ h => h

theorem remove (s : Statement) : KeepsActive (Session.remove s) :=
  (read _).bind fun _ => (write _).bind fun _ => pure _

theorem flush (o : NamespaceOverlay) : KeepsActive (o.flush : SessionM Session Unit) := by
  have hrest : KeepsActive (do
      o.unbound.toList.forM Backend.unbindLabel
      o.bound.entries.forM fun e => Backend.bindLabel e.1 e.2 : SessionM Session PUnit) :=
    (forM fun label => write (.unbind label)).bind fun _ => forM fun e => write (.bind e.1 e.2)
  unfold NamespaceOverlay.flush
  split
  · exact (write .unbindAll).bind fun _ => hrest
  · exact hrest

end SessionM.KeepsActive

/-- The call comes to an end, and does not end a native transaction. -/
def Call.KeepsActive {α : Type} (m : Call Session α) : Prop :=
  ∀ st, st.self.session.isActive = true → (m st).Ends fun _ st' => st'.self.session.isActive = true

namespace Call.KeepsActive

variable {α β : Type}

theorem pure (a : α) : KeepsActive (Pure.pure a : Call Session α) := fun _ h => h

theorem bind {m : Call Session α} {f : α → Call Session β} (hm : KeepsActive m)
    (hf : ∀ a, KeepsActive (f a)) : KeepsActive (m >>= f) := fun st h =>
  (hm st h).bind (fun a st' h' => hf a st' h') fun _ _ h' => h'

theorem forM {l : List α} {f : α → Call Session PUnit} (hf : ∀ a, KeepsActive (f a)) :
    KeepsActive (l.forM f) := by
  induction l with
  | nil => exact pure _
  | cons a l ih => exact (hf a).bind fun _ => ih

theorem self : KeepsActive (Call.self : Call Session _) := fun _ h => h

theorem native {m : SessionM Session α} (hm : m.KeepsActive) : KeepsActive (Call.native m) := by
  intro st h
  have hstart := hm (st.self.session, st.store) h
  rw [Call.native]
  rcases hstep : m (st.self.session, st.store) with ⟨a, mid⟩ | ⟨e, mid⟩
  · rw [SessionM.perform, hstep] at hstart
    exact hstart
  · rw [SessionM.perform, hstep] at hstart
    exact ⟨rfl, hstart⟩

theorem update {f : Connection Session → Connection Session}
    (hf : ∀ c, (f c).session = c.session) : KeepsActive (Call.update f) := by
  intro st h
  change (f st.self).session.isActive = true
  rwa [hf]

end Call.KeepsActive

namespace Connection

theorem keepsActive_flush : (flush : Call Session Unit).KeepsActive := by
  have hadd : ∀ s, (storeAdd s : Call Session Unit).KeepsActive := by
    intro s
    have hcontains : (Backend.contains s : SessionM Session Bool).KeepsActive :=
      (SessionM.KeepsActive.read _).bind fun _ => .pure _
    refine (Call.KeepsActive.native hcontains).bind fun found => ?_
    cases found
    · exact (Call.KeepsActive.native (.add s)).bind fun _ => .update fun _ => rfl
    · exact .pure _
  have hremove : ∀ s, (storeRemove s : Call Session Unit).KeepsActive := by
    intro s
    refine (Call.KeepsActive.native (.remove s)).bind fun found => ?_
    cases found
    · exact .pure _
    · exact .update fun _ => rfl
  exact Call.KeepsActive.self.bind fun c => (Call.KeepsActive.native (.flush _)).bind fun _ =>
    .forM fun b => (Call.KeepsActive.forM hremove).bind fun _ => .forM hadd

/-! ## Changes of isolation -/

theorem active_of_begin {st opened : Frame Session} {a : Unit}
    (h : Call.native Backend.begin st = .ok a opened) : opened.self.session.isActive = true := by
  obtain ⟨⟨id, ⟨txn⟩, _⟩, store, k⟩ := st
  cases txn with
  | none =>
    cases h
    rfl
  | some t => cases h

theorem rollback_of_active {st : Frame Session} (h : st.self.session.isActive = true) :
    ∃ st', Call.native Backend.rollback st = .ok ⟨⟩ st' := by
  obtain ⟨⟨id, ⟨txn⟩, _⟩, store, k⟩ := st
  cases txn with
  | none => cases h
  | some t => exact ⟨_, rfl⟩

/-- A native transaction that has been started is still there when not all that is staged could be
written, so that it can be rolled back. -/
theorem reports_goDirect : Reports goDirect goDirect := by
  intro st log
  rcases (Call.quiet_native Backend.begin).stays st with
    ⟨a, opened, hbegin, -⟩ | ⟨e, mid, hbegin, -⟩
  · have hbegin' := (Reports.native Backend.begin).of_ok hbegin log
    rcases quiet_flush.stays opened with ⟨b, flushed, hflush, -⟩ | ⟨e, failed, hflush, -⟩
    · rw [goDirect_ok hbegin hflush, goDirect_ok hbegin' (reports_flush.of_ok hflush log)]
      rfl
    · have hactive : failed.self.session.isActive = true := by
        have hends := keepsActive_flush opened (active_of_begin hbegin)
        rw [hflush] at hends
        exact hends.2
      obtain ⟨mid, hback⟩ := rollback_of_active hactive
      have hback' := (Reports.native Backend.rollback).of_ok hback (log ++ e.failures)
      rw [goDirect_unflushed hbegin hflush (congrArg Outcome.attempt hback),
        goDirect_unflushed hbegin' (reports_flush.of_error hflush log)
          (congrArg Outcome.attempt hback')]
      rfl
  · rw [goDirect_unopened hbegin,
      goDirect_unopened ((Reports.native Backend.begin).of_error hbegin log)]
    rfl

theorem reports_switchToDirect : Reports switchToDirect switchToDirect :=
  .self_bind fun _ _ => .refuse rfl fun _ => Reports.acquireGate.bind fun _ => reports_goDirect

theorem reports_setReadSnapshot (on : Bool) :
    Reports (setReadSnapshot on) (setReadSnapshot on) := by
  refine .self_bind fun c log => .ite (.update fun _ _ => rfl) ?_
  have hisolation : (c.watch log).isolation = c.isolation := rfl
  rw [hisolation]
  rcases c.isolation.readSnapshot with _ | _ <;> rcases on with _ | _
  · exact .pure _
  · exact .throw rfl
  · exact reports_switchToDirect
  · exact .pure _

theorem reports_setSnapshot (on : Bool) : Reports (setSnapshot on) (setSnapshot on) :=
  .self_bind fun _ _ => .refuse rfl fun _ => .update fun _ _ => rfl

theorem reports_setSerializable (on : Bool) :
    Reports (setSerializable on) (setSerializable on) :=
  .self_bind fun _ _ => .refuse rfl fun _ => .update fun _ _ => rfl

theorem reports_setIsolation (level : IsolationLevel) :
    Reports (setIsolation level) (setIsolation level) :=
  .self_bind fun _ _ => .refuse rfl fun _ => .update fun _ _ => rfl

end Connection

open Connection

/-- A request does the same over a watched session, which meets at most one error of the store: the
one that the request fails with. -/
theorem Request.call_reports (req : Request) : Reports req.call req.call := by
  cases req with
  | begin => exact reports_begin.bind fun _ => .pure _
  | prepare => exact reports_prepare.bind fun _ => .pure _
  | commit => exact reports_commit.bind fun _ => .pure _
  | rollback => exact reports_rollback.bind fun _ => .pure _
  | add kind s p o graphs => exact (reports_add kind s p o graphs).bind fun _ => .pure _
  | addStatement s => exact (reports_add _ _ _ _ _).bind fun _ => .pure _
  | remove kind p => exact (reports_remove kind p).map _
  | removeStatement s => exact (reports_remove _ _).map _
  | clear graphs => exact (reports_remove _ _).map _
  | bindLabel label name => exact (reports_writeNamespaces _ _).bind fun _ => .pure _
  | unbindLabel label => exact (reports_writeNamespaces _ _).bind fun _ => .pure _
  | unbindAll => exact (reports_writeNamespaces _ _).bind fun _ => .pure _
  | getStatements p inferred => exact (reports_reading _ (reports_view p inferred)).map _
  | hasStatement p inferred =>
    exact (reports_reading _ ((reports_view p inferred).bind fun _ => .pure _)).map _
  | evaluate q d b inferred => exact (reports_evaluate q d b inferred).map _
  | size graphs => exact (reports_reading _ ((reports_view _ _).bind fun _ => .pure _)).map _
  | graphNames => exact reports_graphNames.map _
  | getNamespaces => exact reports_getNamespaces.map _
  | namespaceOf label => exact (reports_namespaceOf label).map _
  | setReadSnapshot on => exact (reports_setReadSnapshot on).bind fun _ => .pure _
  | setSnapshot on => exact (reports_setSnapshot on).bind fun _ => .pure _
  | setSerializable on => exact (reports_setSerializable on).bind fun _ => .pure _
  | setIsolation level => exact (reports_setIsolation level).bind fun _ => .pure _
  | listen listener => exact (Reports.update fun _ _ => rfl).bind fun _ => .pure _
  | unlisten listener => exact fun _ _ => rfl

end QuadTxn
