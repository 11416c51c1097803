import QuadTxn.Proofs.Calls.Phases

/-!
# What a call can do

`Frame.Moves` lists everything that a call on a connection can come to, apart from waiting: what it
is answered and what becomes of the frame. Every call that does not wait makes one of these moves
(`Frame.moves_of_done`). A commit has rules of its own (`Frame.Commits`), since the system has to
announce it.
-/

namespace QuadTxn

namespace Request

/-- The write of a namespace binding that a request asks for. -/
def binding? : Request → Option Write
  | .bindLabel label name => some (.bind label name)
  | .unbindLabel label => some (.unbind label)
  | .unbindAll => some .unbindAll
  | _ => none

/-- The isolation flags that a request sets, from the flags that are set. -/
def flags? (i : Isolation) : Request → Option Isolation
  | .setReadSnapshot on => some { i with readSnapshot := on }
  | .setSnapshot on => some { i with snapshot := on, serializable := on && i.serializable }
  | .setSerializable on => some { i with serializable := on, snapshot := on || i.snapshot }
  | .setIsolation level => some level.flags
  | _ => none

theorem onStatements_of_binding {req : Request} {w : Write} (h : req.binding? = some w) :
    req.onStatements = false := by
  cases req <;> first | rfl | cases h

theorem onStatements_of_flags {req : Request} {i i' : Isolation} (h : req.flags? i = some i') :
    req.onStatements = false := by
  cases req <;> first | rfl | cases h

end Request

/-- The error says that a request is out of place, and not that anything has gone wrong. -/
def TxnError.isRefusal : TxnError → Bool
  | .alreadyActive | .notActive | .prepared | .invalidStatement _ | .isolationLocked _ => true
  | _ => false

namespace Frame

/-- Why a request is refused at once, without any effect, if it is. -/
def refusal? (st : Frame Session) : Request → Option TxnError
  | .begin => if st.self.isActive then some .alreadyActive else none
  | .setReadSnapshot on =>
    if st.self.isActive then
      match st.self.isolation.readSnapshot, on with
      | true, false =>
        if st.self.phase = .prepared then some (.isolationLocked "transaction is prepared")
        else none
      | false, true => some (.isolationLocked "cannot stage writes in a write-through transaction")
      | _, _ => none
    else none
  | .setSnapshot on =>
    if st.self.isActive ∧ st.self.isolation.snapshot ≠ on then
      some (.isolationLocked "snapshot tracking is fixed while a transaction runs")
    else none
  | .setSerializable on =>
    if st.self.isActive ∧ st.self.isolation.serializable ≠ on then
      some (.isolationLocked "serializable is fixed while a transaction runs")
    else none
  | .setIsolation level =>
    if st.self.isActive ∧ st.self.level ≠ level then
      some (.isolationLocked ("cannot switch to " ++ level.name ++ " while a transaction runs"))
    else none
  | req => if req.isWrite then req.malformed?.or st.unwritable? else none

theorem refusal?_of_isWrite {st : Frame Session} {req : Request} (h : req.isWrite = true) :
    st.refusal? req = req.malformed?.or st.unwritable? := by
  cases req <;> first | rfl | cases h

/-- A request that only reads statements is never refused. -/
theorem refusal?_of_read {st : Frame Session} {req : Request} (hon : req.onStatements = true)
    (hwrite : req.isWrite = false) : st.refusal? req = none := by
  revert hon hwrite
  cases req <;> first | exact fun _ _ => rfl | exact nofun

/-- A request that is not refused is well formed. -/
theorem malformed?_of_accepted {st : Frame Session} {req : Request} (hr : st.refusal? req = none) :
    req.malformed? = none := by
  by_cases hwrite : req.isWrite = true
  · rw [refusal?_of_isWrite hwrite, Option.or_eq_none_iff] at hr
    exact hr.1
  · cases req <;> first | rfl | exact absurd rfl hwrite

/-- A request on statements that is well formed is not refused while writes are possible. -/
theorem accepted_of_writable {st : Frame Session} (hw : st.unwritable? = none) {req : Request}
    (hon : req.onStatements = true) (hmal : req.malformed? = none) : st.refusal? req = none := by
  rcases hwrite : req.isWrite with _ | _
  · exact refusal?_of_read hon hwrite
  · rw [refusal?_of_isWrite hwrite, hmal, hw]
    rfl

theorem writable_of_binding {st : Frame Session} {req : Request} {w : Write}
    (hb : req.binding? = some w) (hr : st.refusal? req = none) : st.unwritable? = none := by
  cases req <;> first | exact hr | cases hb

/-- The request turns a running staging transaction into a direct one. -/
def Switches (st : Frame Session) (req : Request) : Prop :=
  req = .setReadSnapshot false ∧ st.self.isActive = true ∧ st.self.isolation.readSnapshot = true

/-- The frame with other isolation flags. -/
def withFlags (st : Frame Session) (i : Isolation) : Frame Session :=
  st.update fun c => { c with isolation := i }

/-- What a request other than a commit can come to. -/
inductive Moves (st : Frame Session) :
    Request → Except TxnError Answer → Frame Session → Prop where
  /-- the request is refused -/
  | refused {req : Request} {e : TxnError} : st.refusal? req = some e →
      Moves st req (.error e) st
  /-- statements are read or written -/
  | statements {req : Request} : req.onStatements = true → st.refusal? req = none →
      (req.read?.isSome = true → st.CanRead) →
      Moves st req (.ok (req.answerIn st.seen)) (st.perform req)
  /-- a namespace binding is written -/
  | binding {req : Request} {w : Write} : req.binding? = some w → st.refusal? req = none →
      Moves st req (.ok .none) (st.write .explicit w)
  /-- the namespace bindings are listed -/
  | bindings : Moves st .getNamespaces
      (.ok (.namespaces (st.self.namespaces.view st.visible.namespaces.bindings))) st
  /-- a label is looked up -/
  | lookup {label : String} : Moves st (.namespaceOf label)
      (.ok (.namespaceName
        (st.self.namespaces.lookup (m := Id) label fun l => st.visible.namespaces.get? l).run)) st
  /-- a transaction begins that stages its writes -/
  | beginStaged : st.self.phase = .idle → st.self.isolation.readSnapshot = true →
      Moves st .begin (.ok .none) st.begun
  /-- a transaction begins that writes directly -/
  | beginDirect : st.self.phase = .idle → st.self.isolation.readSnapshot = false → st.Free →
      Moves st .begin (.ok .none) st.begun.locked.opened.direct
  /-- a transaction cannot begin because the gate is not free in time -/
  | beginTimeout {ms : Nat} : st.self.phase = .idle → st.self.isolation.readSnapshot = false →
      ¬st.Free → st.self.lockTimeout = some ms →
      Moves st .begin (.error (.lockTimeout ms)) st.begun.abandoned
  /-- the transaction is prepared, or that fails -/
  | prepare {r : Except TxnError Unit} {st' : Frame Session} : Prepares st r st' →
      Moves st .prepare (r.map fun _ => .none) st'
  /-- the transaction is rolled back -/
  | rollback : Moves st .rollback (.ok .none) (if st.self.isActive then st.abandoned else st)
  /-- isolation flags are set -/
  | flags {req : Request} {i : Isolation} : req.flags? st.self.isolation = some i →
      st.refusal? req = none → ¬st.Switches req → Moves st req (.ok .none) (st.withFlags i)
  /-- the transaction becomes direct -/
  | switch {req : Request} : st.Switches req → st.self.phase = .staging → st.Free →
      Moves st req (.ok .none) st.locked.opened.flushed.switched
  /-- the transaction stays as it is because the gate is not free in time -/
  | switchTimeout {req : Request} {ms : Nat} : st.Switches req → st.self.phase = .staging →
      ¬st.Free → st.self.lockTimeout = some ms → Moves st req (.error (.lockTimeout ms)) st
  /-- a listener of writes is registered -/
  | listen {listener : String} : Moves st (.listen listener) (.ok .none)
      (st.update (Connection.listen listener))
  /-- the registrations of a listener are taken back -/
  | unlisten {listener : String} : Moves st (.unlisten listener)
      (.ok (.truth (st.self.unlisten listener).1))
      (st.update fun c => (c.unlisten listener).2)

/-! ## Refusals -/

section Refusals

variable {st : Frame Session}

theorem add_refused {kind : BatchKind} {subject predicate object : Term} {graphs : List GraphName}
    {e : TxnError} (h : (Request.malformation? subject predicate).or st.unwritable? = some e) :
    Connection.add kind subject predicate object graphs st = .error e st := by
  rcases hs : subject.isResource with _ | _
  · obtain rfl : _ = e := by simpa [Request.malformation?, hs] using h
    simp [Connection.add, hs]
  · rcases hp : predicate.isIri with _ | _
    · obtain rfl : _ = e := by simpa [Request.malformation?, hs, hp] using h
      simp [Connection.add, hs, hp]
    · have hw : st.unwritable? = some e := by simpa [Request.malformation?, hs, hp] using h
      simp [Connection.add, hs, hp, checkWritable_eq, hw]

theorem remove_refused {kind : BatchKind} {p : Pattern} {e : TxnError}
    (h : st.unwritable? = some e) : Connection.remove kind p st = .error e st := by
  simp [Connection.remove, checkWritable_eq, h]

theorem writeNamespaces_refused {staged : NamespaceOverlay → NamespaceOverlay}
    {stored : SessionM Session Unit} {e : TxnError} (h : st.unwritable? = some e) :
    Connection.writeNamespaces staged stored st = .error e st := by
  simp [Connection.writeNamespaces, checkWritable_eq, h]

theorem setReadSnapshot_refused {on : Bool} {e : TxnError}
    (h : st.refusal? (.setReadSnapshot on) = some e) :
    Connection.setReadSnapshot on st = .error e st := by
  rcases hact : st.self.isActive with _ | _
  · simp [refusal?, hact] at h
  · rcases hr : st.self.isolation.readSnapshot with _ | _ <;> rcases on with _ | _
    · simp [refusal?, hact, hr] at h
    · obtain rfl : _ = e := by simpa [refusal?, hact, hr] using h
      simp [Connection.setReadSnapshot, hact, hr]
    · simp only [refusal?, hact, hr, if_true, Option.ite_none_right_eq_some] at h
      obtain ⟨hp, he⟩ := h
      obtain rfl := Option.some.inj he
      simp [Connection.setReadSnapshot, Connection.switchToDirect, hact, hr, hp]
    · simp [refusal?, hact, hr] at h

/-- A request that is refused fails at once, without any effect. -/
theorem call_refused {req : Request} {e : TxnError} (h : st.refusal? req = some e) :
    req.call st = .error e st := by
  cases req with
  | begin =>
    simp only [refusal?, Option.ite_none_right_eq_some] at h
    obtain ⟨hact, he⟩ := h
    obtain rfl := Option.some.inj he
    simp [Request.call, Connection.begin, hact]
  | setReadSnapshot on => simp [Request.call, setReadSnapshot_refused h]
  | setSnapshot on =>
    simp only [refusal?, Option.ite_none_right_eq_some] at h
    obtain ⟨hlocked, he⟩ := h
    obtain rfl := Option.some.inj he
    simp [Request.call, Connection.setSnapshot, hlocked]
  | setSerializable on =>
    simp only [refusal?, Option.ite_none_right_eq_some] at h
    obtain ⟨hlocked, he⟩ := h
    obtain rfl := Option.some.inj he
    simp [Request.call, Connection.setSerializable, hlocked]
  | setIsolation level =>
    simp only [refusal?, Option.ite_none_right_eq_some] at h
    obtain ⟨hlocked, he⟩ := h
    obtain rfl := Option.some.inj he
    simp [Request.call, Connection.setIsolation, hlocked]
  | add kind subject predicate object graphs =>
    simp [Request.call, add_refused (h : (Request.malformation? _ _).or _ = _)]
  | addStatement s =>
    simp [Request.call, Connection.addStatement,
      add_refused (h : (Request.malformation? _ _).or _ = _)]
  | remove kind p => simp [Request.call, remove_refused (h : st.unwritable? = _)]
  | removeStatement s =>
    simp [Request.call, Connection.removeStatement, remove_refused (h : st.unwritable? = _)]
  | clear graphs =>
    simp [Request.call, Connection.clear, remove_refused (h : st.unwritable? = _)]
  | bindLabel label name =>
    simp [Request.call, Connection.bindLabel, writeNamespaces_refused (h : st.unwritable? = _)]
  | unbindLabel label =>
    simp [Request.call, Connection.unbindLabel, writeNamespaces_refused (h : st.unwritable? = _)]
  | unbindAll =>
    simp [Request.call, Connection.unbindAll, writeNamespaces_refused (h : st.unwritable? = _)]
  | _ => cases h

/-- A request is only refused for being out of place. -/
theorem isRefusal_of_refusal {req : Request} {e : TxnError} (h : st.refusal? req = some e) :
    e.isRefusal = true := by
  have hunwritable : st.unwritable? = some e → e.isRefusal = true := by
    intro hw
    rw [unwritable?] at hw
    split at hw <;> cases hw <;> rfl
  have hmalformation : ∀ {subject predicate : Term},
      (Request.malformation? subject predicate).or st.unwritable? = some e →
        e.isRefusal = true := by
    intro subject predicate hor
    rcases hm : Request.malformation? subject predicate with _ | e'
    · rw [hm] at hor
      exact hunwritable hor
    · rw [hm] at hor
      obtain rfl := Option.some.inj hor
      rw [Request.malformation?] at hm
      split at hm
      · cases hm
        rfl
      · split at hm <;> cases hm
        rfl
  cases req with
  | add => exact hmalformation h
  | addStatement => exact hmalformation h
  | remove | removeStatement | clear | bindLabel | unbindLabel | unbindAll => exact hunwritable h
  | begin =>
    obtain ⟨-, he⟩ := Option.ite_none_right_eq_some.mp h
    cases he
    rfl
  | setReadSnapshot on =>
    rcases hact : st.self.isActive with _ | _
    · simp [refusal?, hact] at h
    · rcases hr : st.self.isolation.readSnapshot with _ | _ <;> rcases on with _ | _
      · simp [refusal?, hact, hr] at h
      · obtain rfl : _ = e := by simpa [refusal?, hact, hr] using h
        rfl
      · simp only [refusal?, hact, hr, if_true, Option.ite_none_right_eq_some] at h
        cases h.2
        rfl
      · simp [refusal?, hact, hr] at h
  | setSnapshot on =>
    obtain ⟨-, he⟩ := Option.ite_none_right_eq_some.mp h
    cases he
    rfl
  | setSerializable on =>
    obtain ⟨-, he⟩ := Option.ite_none_right_eq_some.mp h
    cases he
    rfl
  | setIsolation level =>
    obtain ⟨-, he⟩ := Option.ite_none_right_eq_some.mp h
    cases he
    rfl
  | _ => cases h

end Refusals

/-! ## Waits -/

section Waits

variable {st : Frame Session}

theorem tracked_waits {α : Type} (h : ¬st.Admitted) (r : Read) (answer : Call Session α) :
    (Connection.tracked r answer st).done? = none := by
  obtain ⟨hfree, hown⟩ := not_or.mp h
  have hheld : Call.holdsGate st = false := by simp [Call.holdsGate, hown]
  have hadmits : st.coordinator.gate.admits .shared = false := by
    rw [Gate.admits, Option.isNone_eq_false_iff, Option.isSome_iff_ne_none]
    exact hfree
  simp [Connection.tracked, hheld, Call.shared, Call.acquire, Gate.request, hadmits]

theorem reading_waits {α : Type} (h : ¬st.CanRead) (r : Read) (answer : Call Session α) :
    (Connection.reading r answer st).done? = none := by
  obtain ⟨hact, hadm⟩ := Classical.not_imp.mp h
  simp [Connection.reading, hact, tracked_waits hadm]

theorem remove_waits (hw : st.unwritable? = none) (h : ¬st.Admitted) (kind : BatchKind)
    (p : Pattern) : (Connection.remove kind p st).done? = none := by
  rw [Connection.remove, Action.bind_apply, checkWritable_eq, hw]
  exact Outcome.done?_bind (tracked_waits h _ _) _

/-- A read that the gate does not admit waits. -/
theorem call_waits {req : Request} (hr : st.refusal? req = none) (hread : req.read?.isSome = true)
    (h : ¬st.CanRead) : (req.call st).done? = none := by
  have hadm : ¬st.Admitted := (Classical.not_imp.mp h).2
  cases req with
  | remove kind p => exact Outcome.done?_bind (remove_waits hr hadm _ _) _
  | removeStatement s => exact Outcome.done?_bind (remove_waits hr hadm _ _) _
  | clear graphs => exact Outcome.done?_bind (remove_waits hr hadm _ _) _
  | getStatements p inferred => exact Outcome.done?_bind (reading_waits h _ _) _
  | hasStatement p inferred => exact Outcome.done?_bind (reading_waits h _ _) _
  | evaluate q d b inferred => exact Outcome.done?_bind (reading_waits h _ _) _
  | size graphs => exact Outcome.done?_bind (reading_waits h _ _) _
  | graphNames => exact Outcome.done?_bind (reading_waits h _ _) _
  | _ => cases hread

end Waits

/-! ## Every call moves or waits -/

section Moves

variable {st : Frame Session} (h : st.Coherent)

include h

/-- A request on statements that is not refused, as `Frame.perform` has it. -/
theorem statements_eq {req : Request} (hreq : req.onStatements = true)
    (hr : st.refusal? req = none) (hread : req.read?.isSome = true → st.CanRead) :
    req.call st = .ok (req.answerIn st.seen) (st.perform req) := by
  have hwritable : req.isWrite = true → st.unwritable? = none := by
    intro hwrite
    rw [refusal?_of_isWrite hwrite] at hr
    exact (Option.or_eq_none_iff.mp hr).2
  exact perform_eq hreq (malformed?_of_accepted hr) hwritable hread h.ready fun _ => h.sound.covers

theorem writeNamespaces_eq (hw : st.unwritable? = none)
    (staged : NamespaceOverlay → NamespaceOverlay) {w : Write} (hevents : ∀ l, w.events l = [])
    (hstage : ∀ c : Connection Session, c.stage .explicit w =
      { c with namespaces := staged c.namespaces })
    (hnative : st.writeNative w = st.update (·.record w)) :
    Connection.writeNamespaces staged (Session.write w) st = .ok ⟨⟩ (st.write .explicit w) := by
  rw [Connection.writeNamespaces, Action.bind_apply, checkWritable_eq, hw]
  by_cases hp : st.self.phase = .direct
  · simp [Connection.isDirect, hp, native_write (h.direct hp).1, write, hnative, report, hevents]
    rfl
  · simp [Connection.isDirect, hp, write, hstage, report, hevents]
    rfl

/-- A write of a namespace binding that is not refused. -/
theorem binding_eq {req : Request} {w : Write} (hb : req.binding? = some w)
    (hr : st.refusal? req = none) : req.call st = .ok .none (st.write .explicit w) := by
  cases req with
  | bindLabel label name =>
    obtain rfl := Option.some.inj hb
    have := writeNamespaces_eq h (hr : st.unwritable? = none) (·.bind label name)
      (w := .bind label name) (fun _ => rfl) (fun _ => rfl) rfl
    simp [Request.call, Connection.bindLabel, Backend.bindLabel, this]
  | unbindLabel label =>
    obtain rfl := Option.some.inj hb
    have := writeNamespaces_eq h (hr : st.unwritable? = none) (·.unbind label)
      (w := .unbind label) (fun _ => rfl) (fun _ => rfl) rfl
    simp [Request.call, Connection.unbindLabel, Backend.unbindLabel, this]
  | unbindAll =>
    obtain rfl := Option.some.inj hb
    have := writeNamespaces_eq h (hr : st.unwritable? = none) (·.clear)
      (w := .unbindAll) (fun _ => rfl) (fun _ => rfl) rfl
    simp [Request.call, Connection.unbindAll, Backend.unbindAll, this]
  | _ => cases hb

omit h in
theorem flags_eq {req : Request} {i : Isolation} (hi : req.flags? st.self.isolation = some i)
    (hr : st.refusal? req = none) (hs : ¬st.Switches req) :
    req.call st = .ok .none (st.withFlags i) := by
  cases req with
  | setReadSnapshot on =>
    obtain rfl := Option.some.inj hi
    rcases hact : st.self.isActive with _ | _
    · simp [Request.call, Connection.setReadSnapshot, hact]
      rfl
    · -- a running transaction can only be asked to stay as it is, or to switch
      have hsame : st.self.isolation.readSnapshot = on := by
        rcases hread : st.self.isolation.readSnapshot with _ | _ <;> rcases on with _ | _
        · rfl
        · simp [refusal?, hact, hread] at hr
        · exact absurd ⟨rfl, hact, hread⟩ hs
        · rfl
      subst hsame
      have hstay : Connection.setReadSnapshot st.self.isolation.readSnapshot st = .ok ⟨⟩ st := by
        rcases hread : st.self.isolation.readSnapshot with _ | _
        · simp [Connection.setReadSnapshot, hact, hread]
        · simp [Connection.setReadSnapshot, hact, hread]
      simp [Request.call, hstay]
      rfl
  | setSnapshot on =>
    obtain rfl := Option.some.inj hi
    have hfree : ¬(st.self.isActive ∧ st.self.isolation.snapshot ≠ on) := by
      simpa [refusal?] using hr
    simp only [Request.call, Connection.setSnapshot, Action.bind_apply, Call.self_apply,
      Outcome.bind_ok, if_neg hfree]
    rfl
  | setSerializable on =>
    obtain rfl := Option.some.inj hi
    have hfree : ¬(st.self.isActive ∧ st.self.isolation.serializable ≠ on) := by
      simpa [refusal?] using hr
    simp only [Request.call, Connection.setSerializable, Action.bind_apply, Call.self_apply,
      Outcome.bind_ok, if_neg hfree]
    rfl
  | setIsolation level =>
    obtain rfl := Option.some.inj hi
    have hfree : ¬(st.self.isActive ∧ st.self.level ≠ level) := by
      simpa [refusal?] using hr
    simp only [Request.call, Connection.setIsolation, Action.bind_apply, Call.self_apply,
      Outcome.bind_ok, if_neg hfree]
    rfl
  | _ => cases hi

omit h in
theorem switches_staging (hdirect : st.self.phase = .direct →
      st.self.isolation.readSnapshot = false) {req : Request} (hs : st.Switches req)
    (hr : st.refusal? req = none) : st.self.phase = .staging := by
  obtain ⟨rfl, hact, hread⟩ := hs
  rcases hp : st.self.phase with _ | _ | _ | _
  · exact absurd hp (Connection.isActive_iff.mp hact)
  · rfl
  · rw [hdirect hp] at hread
    cases hread
  · simp [refusal?, hact, hread, hp] at hr

/-- The staged writes are done in a native transaction that is started for it. -/
theorem switch_eq (hp : st.self.phase = .staging) (hf : st.Free) :
    Connection.switchToDirect st = .ok ⟨⟩ st.locked.opened.flushed.switched := by
  have hbegin : Call.native Backend.begin st.locked = .ok ⟨⟩ st.locked.opened :=
    native_begin_eq (h.staging hp).1
  have hflush : Connection.flush st.locked.opened = .ok ⟨⟩ st.locked.opened.flushed :=
    flush_eq ⟨_, rfl, rfl⟩ h.sound.wellFormed
  simp [Connection.switchToDirect, hp, acquireGate_eq hf, Action.tryCatch_ok hbegin,
    Action.tryCatch_ok hflush]
  rfl

omit h in
theorem call_switch {req : Request} (hs : st.Switches req) :
    req.call st = (Connection.switchToDirect st).bind fun _ => pure .none := by
  obtain ⟨rfl, hact, hread⟩ := hs
  simp [Request.call, Connection.setReadSnapshot, hact, hread]

omit h in
theorem switch_timeout (hp : st.self.phase = .staging) (hf : ¬st.Free) {ms : Nat}
    (ht : st.self.lockTimeout = some ms) :
    Connection.switchToDirect st = .error (.lockTimeout ms) st := by
  simp [Connection.switchToDirect, hp, acquireGate_timeout hf ht]

omit h in
theorem switch_waits (hp : st.self.phase = .staging) (hf : ¬st.Free)
    (ht : st.self.lockTimeout = none) : (Connection.switchToDirect st).done? = none := by
  obtain ⟨resume, hresume⟩ := acquireGate_waits hf ht
  simp [Connection.switchToDirect, hp, hresume]

/-- A begin makes one of the listed moves, or waits. -/
theorem begin_moves (hp : st.self.phase = .idle) {r : Except TxnError Answer}
    {st' : Frame Session} (hd : (Request.begin.call st).done? = some (r, st')) :
    Moves st .begin r st' := by
  rcases hread : st.self.isolation.readSnapshot with _ | _
  · by_cases hf : st.Free
    · simp only [Request.call, Action.bind_apply, begin_direct h hp hread hf] at hd
      obtain ⟨rfl, rfl⟩ := Prod.mk.inj (Option.some.inj hd)
      exact .beginDirect hp hread hf
    · rcases ht : st.self.lockTimeout with _ | ms
      · rw [Request.call, Action.bind_apply, Outcome.done?_bind (begin_waits hp hread hf ht)] at hd
        cases hd
      · simp only [Request.call, Action.bind_apply, begin_timeout hp hread hf ht] at hd
        obtain ⟨rfl, rfl⟩ := Prod.mk.inj (Option.some.inj hd)
        exact .beginTimeout hp hread hf ht
  · simp only [Request.call, Action.bind_apply, begin_staged hp hread] at hd
    obtain ⟨rfl, rfl⟩ := Prod.mk.inj (Option.some.inj hd)
    exact .beginStaged hp hread

/-- A preparation makes one of the listed moves, or waits. -/
theorem prepare_moves {r : Except TxnError Answer} {st' : Frame Session}
    (hd : (Request.prepare.call st).done? = some (r, st')) : Moves st .prepare r st' := by
  rw [Request.call, Action.bind_apply] at hd
  rcases hprep : Connection.prepare st with ⟨a, st₁⟩ | ⟨e, st₁⟩ | _
  · have hok : Prepares st (.ok ()) st₁ := prepares_of_done h (by rw [hprep]; rfl)
    rw [hprep] at hd
    obtain ⟨rfl, rfl⟩ := Prod.mk.inj (Option.some.inj hd)
    exact .prepare hok
  · have herror : Prepares st (.error e) st₁ := prepares_of_done h (by rw [hprep]; rfl)
    rw [hprep] at hd
    obtain ⟨rfl, rfl⟩ := Prod.mk.inj (Option.some.inj hd)
    exact .prepare herror
  · rw [hprep] at hd
    cases hd

omit h in
theorem getNamespaces_eq : Connection.getNamespaces st =
    .ok (st.self.namespaces.view st.visible.namespaces.bindings) st := by
  have hstored : Call.native (Backend.namespaces : SessionM Session _) st =
      .ok st.visible.namespaces.bindings st := native_answers (Session.read_answers _ _ _)
  simp [Connection.getNamespaces, hstored]

omit h in
theorem namespaceOf_eq (label : String) : Connection.namespaceOf label st =
    .ok (st.self.namespaces.lookup (m := Id) label fun l => st.visible.namespaces.get? l).run
      st := by
  simp only [Connection.namespaceOf, Action.bind_apply, Call.self_apply, Outcome.bind_ok]
  refine native_answers ?_
  unfold NamespaceOverlay.lookup
  split
  · exact SessionM.Answers.pure _ _
  · split
    · exact SessionM.Answers.pure _ _
    · exact Session.read_answers _ _ _

/-- Every call but a commit makes one of the listed moves, or waits. -/
theorem moves_of_done {req : Request} (hreq : req ≠ .commit) {r : Except TxnError Answer}
    {st' : Frame Session} (hd : (req.call st).done? = some (r, st')) : Moves st req r st' := by
  -- a refusal comes before all else, and the other equations hold only where there is none
  rcases hr : st.refusal? req with _ | e
  rotate_left
  · rw [call_refused hr] at hd
    obtain ⟨rfl, rfl⟩ := Prod.mk.inj (Option.some.inj hd)
    exact .refused hr
  by_cases hs : st.Switches req
  · have hp := switches_staging (fun hp => (h.direct hp).2.1) hs hr
    rw [call_switch hs] at hd
    by_cases hf : st.Free
    · rw [switch_eq h hp hf] at hd
      obtain ⟨rfl, rfl⟩ := Prod.mk.inj (Option.some.inj hd)
      exact .switch hs hp hf
    · rcases ht : st.self.lockTimeout with _ | ms
      · rw [Outcome.done?_bind (switch_waits hp hf ht)] at hd
        cases hd
      · rw [switch_timeout hp hf ht] at hd
        obtain ⟨rfl, rfl⟩ := Prod.mk.inj (Option.some.inj hd)
        exact .switchTimeout hs hp hf ht
  by_cases hon : req.onStatements = true
  · by_cases hread : req.read?.isSome = true → st.CanRead
    · rw [statements_eq h hon hr hread] at hd
      obtain ⟨rfl, rfl⟩ := Prod.mk.inj (Option.some.inj hd)
      exact .statements hon hr hread
    · obtain ⟨hsome, hcan⟩ := Classical.not_imp.mp hread
      rw [call_waits hr hsome hcan] at hd
      cases hd
  rcases hb : req.binding? with _ | w
  rotate_left
  · rw [binding_eq h hb hr] at hd
    obtain ⟨rfl, rfl⟩ := Prod.mk.inj (Option.some.inj hd)
    exact .binding hb hr
  rcases hi : req.flags? st.self.isolation with _ | i
  rotate_left
  · rw [flags_eq hi hr hs] at hd
    obtain ⟨rfl, rfl⟩ := Prod.mk.inj (Option.some.inj hd)
    exact .flags hi hr hs
  -- every other request has a move of its own
  cases req with
  | commit => exact absurd rfl hreq
  | begin => exact begin_moves h (by simpa [refusal?, Connection.isActive] using hr) hd
  | prepare => exact prepare_moves h hd
  | rollback =>
    simp only [Request.call, Action.bind_apply, rollback_eq, Outcome.bind_ok] at hd
    obtain ⟨rfl, rfl⟩ := Prod.mk.inj (Option.some.inj hd)
    exact .rollback
  | getNamespaces =>
    simp only [Request.call, Action.map_apply, getNamespaces_eq, Outcome.bind_ok] at hd
    obtain ⟨rfl, rfl⟩ := Prod.mk.inj (Option.some.inj hd)
    exact .bindings
  | namespaceOf label =>
    simp only [Request.call, Action.map_apply, namespaceOf_eq, Outcome.bind_ok] at hd
    obtain ⟨rfl, rfl⟩ := Prod.mk.inj (Option.some.inj hd)
    exact .lookup
  | listen listener =>
    obtain ⟨rfl, rfl⟩ := Prod.mk.inj (Option.some.inj hd)
    exact .listen
  | unlisten listener =>
    obtain ⟨rfl, rfl⟩ := Prod.mk.inj (Option.some.inj hd)
    exact .unlisten
  | bindLabel | unbindLabel | unbindAll => cases hb
  | setReadSnapshot | setSnapshot | setSerializable | setIsolation => cases hi
  | _ => exact absurd rfl hon

end Moves

/-- What a request on statements comes to: it is refused, or it answers and is done. -/
theorem Moves.of_onStatements {st : Frame Session} {req : Request} {r : Except TxnError Answer}
    {st' : Frame Session} (hm : Moves st req r st') (hon : req.onStatements = true) :
    (∃ e, st.refusal? req = some e ∧ r = .error e ∧ st' = st) ∨
      (st.refusal? req = none ∧ (req.read?.isSome = true → st.CanRead) ∧
        r = .ok (req.answerIn st.seen) ∧ st' = st.perform req) := by
  cases hm with
  | refused hr => exact .inl ⟨_, hr, rfl, rfl⟩
  | statements _ hr hread => exact .inr ⟨hr, hread, rfl, rfl⟩
  | binding hb =>
    rw [Request.onStatements_of_binding hb] at hon
    cases hon
  | flags hi =>
    rw [Request.onStatements_of_flags hi] at hon
    cases hon
  | switch hs => cases hs.1; cases hon
  | switchTimeout hs => cases hs.1; cases hon
  | _ => cases hon

end Frame

end QuadTxn
