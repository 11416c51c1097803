import QuadTxn.Proofs.Gate.Lifecycle

/-!
# Watched sessions

A watched session works as a session does, and notes every error that its store answers with, also
one that nobody looks at (`WatchedSession`). What a call comes to over a watched session says
therefore what the store was asked in vain (`Outcome.watched`). A call reports its failures if it
fails with the error of the store as soon as there is one, and meets no other (`Call.Reports`).
-/

namespace QuadTxn

/-- A session with an account of what its store has refused. -/
structure WatchedSession where
  /-- the session that does the work -/
  session : Session
  /-- the errors that the store has answered with, in order -/
  failures : List StoreError

namespace WatchedSession

variable {α β : Type}

/-- Do an operation of the session, and note its error if it fails. -/
def noting (m : SessionM Session α) : SessionM WatchedSession α := fun (s, store) =>
  match m (s.session, store) with
  | .ok a (session, store) => .ok a ({ s with session }, store)
  | .error e (session, store) => .error e (⟨session, s.failures ++ [e]⟩, store)

instance : Backend WatchedSession where
  new := ⟨.new, []⟩
  isActive s := s.session.isActive
  statements p inferred := noting (Backend.statements p inferred)
  graphNames := noting Backend.graphNames
  namespaces := noting Backend.namespaces
  namespaceOf label := noting (Backend.namespaceOf label)
  add s := noting (Backend.add s)
  remove s := noting (Backend.remove s)
  bindLabel label name := noting (Backend.bindLabel label name)
  unbindLabel label := noting (Backend.unbindLabel label)
  unbindAll := noting Backend.unbindAll
  begin := noting Backend.begin
  prepare := noting Backend.prepare
  commit := noting Backend.commit
  rollback := noting Backend.rollback

/-! ## Operations in sequence

Each error ends a sequence of operations, so that it makes no difference whether the errors of the
parts are noted or that of the whole. -/

theorem noting_pure (a : α) : noting (pure a) = pure a := rfl

theorem noting_bind (m : SessionM Session α) (f : α → SessionM Session β) :
    noting (m >>= f) = noting m >>= fun a => noting (f a) := by
  funext ⟨s, store⟩
  change noting (EStateM.bind m f) _ = EStateM.bind (noting m) _ _
  rcases hm : m (s.session, store) with ⟨a, mid⟩ | ⟨e, mid⟩
  · simp [noting, EStateM.bind, hm]
  · simp [noting, EStateM.bind, hm]

theorem noting_forM {l : List α} (f : α → SessionM Session PUnit) :
    noting (l.forM f) = l.forM fun a => noting (f a) := by
  induction l with
  | nil => rfl
  | cons a l ih => exact (noting_bind _ _).trans (congrArg _ (funext fun _ => ih))

theorem noting_contains (s : Statement) :
    noting (Backend.contains s) = Backend.contains s := noting_bind _ _

theorem noting_onTopOf (g : Staging) (source : Query.Source (SessionM Session)) (p : Pattern) :
    noting (g.onTopOf source p) = g.onTopOf (fun p => noting (source p)) p := noting_bind _ _

theorem noting_extendAll (source : Query.Source (SessionM Session)) (d : Dataset)
    (t : TriplePattern) (bs : List Bindings) :
    noting (Query.extendAll source d t bs) =
      Query.extendAll (fun p => noting (source p)) d t bs := by
  induction bs with
  | nil => rfl
  | cons b bs ih =>
    simp only [Query.extendAll, Query.extend, noting_bind, noting_pure, ih]

theorem noting_join (source : Query.Source (SessionM Session)) (d : Dataset) (q : Query)
    (bs : List Bindings) :
    noting (Query.join source d q bs) = Query.join (fun p => noting (source p)) d q bs := by
  induction q generalizing bs with
  | nil => rfl
  | cons t ts ih =>
    simp only [Query.join, noting_bind, noting_extendAll]
    congr 1
    funext next
    split
    · rfl
    · exact ih next

theorem noting_evaluate (source : Query.Source (SessionM Session)) (q : Query) (d : Dataset)
    (b : Bindings) :
    noting (Query.evaluate source q d b) = Query.evaluate (fun p => noting (source p)) q d b :=
  noting_join _ _ _ _

theorem noting_existing (o : GraphOverlay) (populated : Term → SessionM Session Bool)
    (gs : List Term) :
    noting (o.existing populated gs) = o.existing (fun g => noting (populated g)) gs := by
  induction gs with
  | nil => rfl
  | cons g gs ih =>
    simp only [GraphOverlay.existing]
    split <;> simp only [noting_bind, noting_pure, ih]

theorem noting_resolve (o : GraphOverlay) (stored : List Term)
    (populated : Term → SessionM Session Bool) :
    noting (o.resolve stored populated) = o.resolve stored fun g => noting (populated g) := by
  simp only [GraphOverlay.resolve, noting_bind, noting_existing, noting_pure]

theorem noting_lookup (o : NamespaceOverlay) (label : String) :
    noting (o.lookup label Backend.namespaceOf) = o.lookup label Backend.namespaceOf := by
  unfold NamespaceOverlay.lookup
  split
  · rfl
  · split <;> rfl

theorem noting_flush (o : NamespaceOverlay) : noting o.flush = o.flush := by
  have hrest : noting (do
      o.unbound.toList.forM Backend.unbindLabel
      o.bound.entries.forM fun e => Backend.bindLabel e.1 e.2) = (do
      o.unbound.toList.forM Backend.unbindLabel
      o.bound.entries.forM fun e => Backend.bindLabel e.1 e.2) := by
    rw [noting_bind, noting_forM]
    exact congrArg _ (funext fun _ => noting_forM _)
  unfold NamespaceOverlay.flush
  split
  · exact (noting_bind _ _).trans (congrArg _ (funext fun _ => hrest))
  · exact hrest

end WatchedSession

/-! ## Calls over watched sessions -/

/-- The errors of the store that an error of a call stands for. -/
def TxnError.failures : TxnError → List StoreError
  | .storage e => [e]
  | _ => []

theorem TxnError.failures_of_isConflict {e : TxnError} (h : e.isConflict = true) :
    e.failures = [] := by
  cases e with
  | storage e => cases h
  | _ => rfl

theorem TxnError.failures_of_isRefusal {e : TxnError} (h : e.isRefusal = true) :
    e.failures = [] := by
  cases e with
  | storage e => cases h
  | _ => rfl

namespace Connection

/-- The connection with its session watched, given what was noted so far. -/
def watch (log : List StoreError) (c : Connection Session) : Connection WatchedSession :=
  { c with session := ⟨c.session, log⟩ }

/-- The connection without the account. -/
def unwatch (c : Connection WatchedSession) : Connection Session :=
  { c with session := c.session.session }

end Connection

namespace Frame

/-- The frame with the session of its connection watched, given what was noted so far. -/
def watch (log : List StoreError) (st : Frame Session) : Frame WatchedSession :=
  { st with self := st.self.watch log }

/-- The frame without the account. -/
def unwatch (st : Frame WatchedSession) : Frame Session := { st with self := st.self.unwatch }

end Frame

/-- What a call comes to if its session is watched and notes the error of the store that the call
fails with, if it fails with one, and nothing else. -/
def Outcome.watched {α : Type} (log : List StoreError) :
    Outcome (Frame Session) α → Outcome (Frame WatchedSession) α
  | .ok a st => .ok a (st.watch log)
  | .error e st => .error e (st.watch (log ++ e.failures))
  | .waits st mode resume => .waits (st.watch log) mode fun later =>
      (resume later.unwatch).watched later.self.session.failures

namespace Call

variable {α β : Type}

/-- A call does the same over watched sessions, and fails with the error of the store as soon as
there is one. -/
def Reports (m' : Call WatchedSession α) (m : Call Session α) : Prop :=
  ∀ st log, m' (st.watch log) = (m st).watched log

/-- What follows an answer follows it over watched sessions as well. -/
theorem watched_bind {f' : α → Call WatchedSession β} {f : α → Call Session β}
    (hf : ∀ a, Reports (f' a) (f a)) (o : Outcome (Frame Session) α) (log : List StoreError) :
    (o.watched log).bind f' = (o.bind f).watched log := by
  induction o generalizing log with
  | ok a st => exact hf a st log
  | error e st => rfl
  | waits st mode resume ih =>
    exact congrArg (Outcome.waits (st.watch log) mode) (funext fun later => ih _ _)

/-- What follows an answer or an error follows it over watched sessions as well, if it fails with
the error. -/
theorem watched_attempt_bind {f' : Except TxnError α → Call WatchedSession β}
    {f : Except TxnError α → Call Session β} (hok : ∀ a, Reports (f' (.ok a)) (f (.ok a)))
    (herror : ∀ e st log,
      f' (.error e) (st.watch (log ++ e.failures)) = (f (.error e) st).watched log)
    (o : Outcome (Frame Session) α) (log : List StoreError) :
    (o.watched log).attempt.bind f' = (o.attempt.bind f).watched log := by
  induction o generalizing log with
  | ok a st => exact hok a st log
  | error e st => exact herror e st log
  | waits st mode resume ih =>
    exact congrArg (Outcome.waits (st.watch log) mode) (funext fun later => ih _ _)

namespace Reports

theorem pure (a : α) : Reports (Pure.pure a) (Pure.pure a) := fun _ _ => rfl

theorem throw {e : TxnError} (h : e.failures = []) :
    Reports (α := α) (MonadExcept.throw e) (MonadExcept.throw e) := by
  intro st log
  change Outcome.error e _ = .error e (st.watch (log ++ e.failures))
  rw [h, List.append_nil]

variable {m' : Call WatchedSession α} {m : Call Session α}

theorem of_ok (hm : Reports m' m) {st st' : Frame Session} {a : α} (h : m st = .ok a st')
    (log : List StoreError) : m' (st.watch log) = .ok a (st'.watch log) := by
  rw [hm, h, Outcome.watched]

theorem of_error (hm : Reports m' m) {st st' : Frame Session} {e : TxnError}
    (h : m st = .error e st') (log : List StoreError) :
    m' (st.watch log) = .error e (st'.watch (log ++ e.failures)) := by
  rw [hm, h, Outcome.watched]

theorem bind (hm : Reports m' m) {f' : α → Call WatchedSession β} {f : α → Call Session β}
    (hf : ∀ a, Reports (f' a) (f a)) : Reports (m' >>= f') (m >>= f) := by
  intro st log
  rw [Action.bind_apply, hm, watched_bind hf, Action.bind_apply]

theorem map (hm : Reports m' m) (f : α → β) : Reports (f <$> m') (f <$> m) :=
  hm.bind fun a => pure (f a)

theorem ite {p : Prop} [Decidable p] {n' : Call WatchedSession α} {n : Call Session α}
    (hm : Reports m' m) (hn : Reports n' n) :
    Reports (if p then m' else n') (if p then m else n) := by
  split
  · exact hm
  · exact hn

/-- A call that may be refused before it does anything. -/
theorem refuse {p : Prop} [Decidable p] {e : TxnError} (he : e.failures = [])
    {rest' : PUnit → Call WatchedSession β} {rest : PUnit → Call Session β}
    (h : ∀ u, Reports (rest' u) (rest u)) :
    Reports (if p then MonadExcept.throw e >>= rest' else rest' ⟨⟩)
      (if p then MonadExcept.throw e >>= rest else rest ⟨⟩) :=
  ite ((throw he).bind h) (h _)

theorem forM {l : List α} {f' : α → Call WatchedSession PUnit} {f : α → Call Session PUnit}
    (hf : ∀ a, Reports (f' a) (f a)) : Reports (l.forM f') (l.forM f) := by
  induction l with
  | nil => exact pure _
  | cons a l ih => exact (hf a).bind fun _ => ih

/-- The rest of a call may depend on all of the connection but the account. -/
theorem self_bind {f' : Connection WatchedSession → Call WatchedSession β}
    {f : Connection Session → Call Session β}
    (hf : ∀ c log, Reports (f' (c.watch log)) (f c)) :
    Reports (self >>= f') (self >>= f) := fun st log => hf st.self log st log

theorem get_bind {f' : Frame WatchedSession → Call WatchedSession β}
    {f : Frame Session → Call Session β} (hf : ∀ st log, Reports (f' (st.watch log)) (f st)) :
    Reports (get >>= f') (get >>= f) := fun st log => hf st log st log

theorem update {f' : Connection WatchedSession → Connection WatchedSession}
    {f : Connection Session → Connection Session}
    (hf : ∀ c log, f' (c.watch log) = (f c).watch log) :
    Reports (Call.update f') (Call.update f) := by
  intro st log
  rw [update_apply, update_apply, Outcome.watched]
  exact congrArg (fun c => Outcome.ok _ (Frame.mk c st.store st.coordinator)) (hf st.self log)

theorem coordinate (f : Coordinator ConnectionId → ConnectionId → Coordinator ConnectionId) :
    Reports (Call.coordinate f) (Call.coordinate f) := fun _ _ => rfl

theorem native (m : SessionM Session α) :
    Reports (Call.native (WatchedSession.noting m)) (Call.native m) := by
  intro st log
  simp only [Call.native, Frame.watch, Connection.watch, WatchedSession.noting]
  rcases m (st.self.session, st.store) with ⟨a, session, store⟩ | ⟨e, session, store⟩
  · rfl
  · rfl

theorem native_of_eq {n' : SessionM WatchedSession α} {n : SessionM Session α}
    (h : WatchedSession.noting n = n') : Reports (Call.native n') (Call.native n) :=
  h ▸ native n

theorem acquire (mode : GateMode) (timeout : Option Nat) :
    Reports (Call.acquire mode timeout) (Call.acquire mode timeout) := by
  intro st log
  rw [Frame.acquire_eq, Frame.acquire_eq]
  change (if st.coordinator.gate.admits mode then _ else _) = _
  split
  · rfl
  · cases timeout with
    | some ms => exact congrArg (fun l => Outcome.error _ (st.watch l)) (List.append_nil _).symm
    | none => rfl

theorem acquireGate : Reports Call.acquireGate Call.acquireGate :=
  self_bind fun c _ => acquire _ c.lockTimeout

/-- An error may be held up by something that cannot fail. -/
theorem rethrow {k' : Call WatchedSession Unit} {k : Call Session Unit} (hk : Reports k' k)
    (hok : ∀ st, ∃ st', k st = .ok ⟨⟩ st') (e : TxnError) (st : Frame Session)
    (log : List StoreError) :
    (do k'; MonadExcept.throw e : Call WatchedSession α) (st.watch (log ++ e.failures)) =
      ((do k; MonadExcept.throw e : Call Session α) st).watched log := by
  obtain ⟨st', hst'⟩ := hok st
  simp only [Action.bind_apply, hk st, hst']
  rfl

theorem shared (hm : Reports m' m) : Reports (Call.shared m') (Call.shared m) := by
  refine (acquire _ _).bind fun _ st log => ?_
  rw [Action.bind_apply, Action.attempt_apply, hm]
  refine watched_attempt_bind (fun a => (coordinate _).bind fun _ => pure a) ?_ _ log
  exact rethrow (coordinate _) fun _ => ⟨_, rfl⟩

end Reports

end Call

end QuadTxn
