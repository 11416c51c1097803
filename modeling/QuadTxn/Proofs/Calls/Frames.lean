import QuadTxn.Proofs.Calls.Answers
import QuadTxn.Proofs.Requests.Meaning
import QuadTxn.Store.Session

/-!
# What the parts of a call do to a frame

The calls of a connection are put together from a few changes of its frame. Here each of these
changes is a function on frames, and the part of the call that makes it is shown to compute to that
function, under what it needs to go through.
-/

namespace QuadTxn

/-! ## How calls compute -/

namespace Outcome

variable {s α β : Type}

/-- What a call has come to, unless it waits. -/
def done? : Outcome s α → Option (Except TxnError α × s)
  | .ok a st => some (.ok a, st)
  | .error e st => some (.error e, st)
  | .waits _ _ _ => none

@[simp] theorem done?_ok (a : α) (st : s) : (ok a st).done? = some (.ok a, st) := rfl

@[simp] theorem done?_error (e : TxnError) (st : s) :
    (error e st : Outcome s α).done? = some (.error e, st) := rfl

@[simp] theorem done?_waits (st : s) (mode : GateMode) (resume : s → Outcome s α) :
    (waits st mode resume).done? = none := rfl

/-- Going on after a call that waits is waiting. -/
theorem done?_bind {o : Outcome s α} (h : o.done? = none) (f : α → Action s β) :
    (o.bind f).done? = none := by
  cases o with
  | ok a st => cases h
  | error e st => cases h
  | waits st mode resume => rfl

@[simp] theorem bind_waits (st : s) (mode : GateMode) (resume : s → Outcome s α)
    (f : α → Action s β) :
    (waits st mode resume).bind f = .waits st mode fun st' => (resume st').bind f := rfl

@[simp] theorem attempt_ok (a : α) (st : s) : (ok a st).attempt = .ok (.ok a) st := rfl

@[simp] theorem attempt_error (e : TxnError) (st : s) :
    (error e st : Outcome s α).attempt = .ok (.error e) st := rfl

@[simp] theorem attempt_waits (st : s) (mode : GateMode) (resume : s → Outcome s α) :
    (waits st mode resume).attempt = .waits st mode fun st' => (resume st').attempt := rfl

end Outcome

namespace Action

variable {s α β : Type}

@[simp] theorem get_apply (st : s) : (get : Action s s) st = .ok st st := rfl

@[simp] theorem map_apply (f : α → β) (m : Action s α) (st : s) :
    (f <$> m) st = (m st).bind fun a => pure (f a) := rfl

@[simp] theorem attempt_apply (m : Action s α) (st : s) : m.attempt st = (m st).attempt := rfl

@[simp] theorem ofExcept_ok (a : α) : (ofExcept (.ok a) : Action s α) = pure a := rfl

theorem tryCatch_ok {m : Action s α} {st st' : s} {a : α} (h : m st = .ok a st')
    (handler : TxnError → Action s α) : (tryCatch m handler : Action s α) st = .ok a st' := by
  change (m st).attempt.bind _ = _
  rw [h]
  rfl

theorem tryCatch_error {m : Action s α} {st st' : s} {e : TxnError} (h : m st = .error e st')
    (handler : TxnError → Action s α) :
    (tryCatch m handler : Action s α) st = handler e st' := by
  change (m st).attempt.bind _ = _
  rw [h]
  rfl

/-- Doing a call for every member of a list is going through the list with what the call does, as
long as the states passed keep what the call needs. -/
theorem forM_eq {f : α → Action s PUnit} {g : s → α → s} {P : s → Prop} {l : List α}
    (h : ∀ a ∈ l, ∀ st, P st → f a st = .ok ⟨⟩ (g st a) ∧ P (g st a)) {st : s} (hst : P st) :
    l.forM f st = .ok ⟨⟩ (l.foldl g st) := by
  induction l generalizing st with
  | nil => rfl
  | cons a l ih =>
    obtain ⟨hf, hP⟩ := h a List.mem_cons_self st hst
    change (f a >>= fun _ => l.forM f) st = _
    rw [bind_apply, hf, Outcome.bind_ok, List.foldl_cons]
    exact ih (fun b hb => h b (List.mem_cons_of_mem _ hb)) hP

end Action

namespace Call

variable {σ α : Type}

@[simp] theorem self_apply (st : Frame σ) : (self : Call σ _) st = .ok st.self st := rfl

@[simp] theorem update_apply (f : Connection σ → Connection σ) (st : Frame σ) :
    update f st = .ok ⟨⟩ { st with self := f st.self } := rfl

@[simp] theorem coordinate_apply
    (f : Coordinator ConnectionId → ConnectionId → Coordinator ConnectionId) (st : Frame σ) :
    coordinate f st = .ok ⟨⟩ { st with coordinator := f st.coordinator st.self.id } := rfl

end Call

/-! ## Changes of the session -/

namespace Session

/-- A native transaction runs and takes writes. -/
def Open (s : Session) : Prop := ∃ t, s.txn = some t ∧ t.prepared = false

/-- The session after a write in its native transaction. -/
def record (s : Session) (w : Write) : Session :=
  ⟨s.txn.map fun t => { t with working := t.working.apply w, journal := t.journal ++ [w] }⟩

/-- The session with its native transaction ready for commit. -/
def sealed (s : Session) : Session := ⟨s.txn.map fun t => { t with prepared := true }⟩

theorem Open.record {s : Session} (h : s.Open) (w : Write) : (s.record w).Open := by
  obtain ⟨t, ht, hp⟩ := h
  exact ⟨_, congrArg (Option.map _) ht, hp⟩

theorem open_foldl_record {s : Session} (h : s.Open) (ws : List Write) :
    (ws.foldl record s).Open := by
  induction ws generalizing s with
  | nil => exact h
  | cons w ws ih => exact ih (h.record w)

theorem write_eq {s : Session} (h : s.Open) (w : Write) (store : Store) :
    write w (s, store) = .ok ⟨⟩ (s.record w, store) := by
  obtain ⟨t, ht, hp⟩ := h
  simp [write, Session.record, ht, hp]

theorem read_answers {α : Type} (f : Contents → α) (s : Session) (store : Store) :
    (read f).Answers (s, store) (f (s.visible store)) := rfl

theorem contains_answers (x : Statement) (s : Session) (store : Store) :
    (Backend.contains x).Answers (s, store) (decide (x ∈ (s.visible store).statements)) := by
  have hfound : (!((s.visible store).statements.select (.exact x)).isEmpty) =
      decide (x ∈ (s.visible store).statements) := by
    rw [← Model.anySelected_eq, Bool.eq_iff_iff, Model.anySelected_iff]
    simp [Pattern.selects_exact]
  rw [← hfound]
  exact SessionM.Answers.bind (read_answers _ _ _) (SessionM.Answers.pure _ _)

end Session

namespace NamespaceOverlay

/-- The writes that the overlay stands for, in the order in which they are done. -/
def writes (o : NamespaceOverlay) : List Write :=
  (if o.cleared then [.unbindAll] else []) ++ o.unbound.toList.map .unbind ++
    o.bound.entries.map fun e => .bind e.1 e.2

end NamespaceOverlay

namespace Connection

/-- The connection after a write in its native transaction. -/
def record (c : Connection Session) (w : Write) : Connection Session :=
  { c with session := c.session.record w }

/-- The connection with a write staged, in the batch of a kind if it is one of a statement. -/
def stage {σ : Type} (kind : BatchKind) (c : Connection σ) : Write → Connection σ
  | .add s => { c with staging := c.staging.add kind s, graphs := c.graphs.noteAdd s.graph }
  | .remove s =>
    { c with staging := c.staging.remove kind s, graphs := c.graphs.noteRemove s.graph }
  | .bind label name => { c with namespaces := c.namespaces.bind label name }
  | .unbind label => { c with namespaces := c.namespaces.unbind label }
  | .unbindAll => { c with namespaces := c.namespaces.clear }

end Connection

/-- What listeners are told of a write. -/
def Write.events (listeners : List String) : Write → List Event
  | .add s => listeners.map (.added · s)
  | .remove s => listeners.map (.removed · s)
  | .bind _ _ | .unbind _ | .unbindAll => []

namespace Frame

variable {σ : Type}

/-- The frame with its connection changed. -/
def update (f : Connection σ → Connection σ) (st : Frame σ) : Frame σ :=
  { st with self := f st.self }

@[simp] theorem update_self (f : Connection σ → Connection σ) (st : Frame σ) :
    (st.update f).self = f st.self := rfl

@[simp] theorem update_store (f : Connection σ → Connection σ) (st : Frame σ) :
    (st.update f).store = st.store := rfl

/-- The contents that the session reads. -/
def visible (st : Frame Session) : Contents := st.self.session.visible st.store

/-- The statements that the connection sees. -/
def seen (st : Frame Session) : Model := st.self.staging.onto st.visible.statements

/-! ## Writes in the native transaction -/

/-- A statement is added in the native transaction, unless it is there. -/
def storeAdd (st : Frame Session) (s : Statement) : Frame Session :=
  if s ∈ st.visible.statements then st
  else st.update fun c => { c.record (.add s) with net := c.net.recordAdd s }

/-- A statement is removed in the native transaction. -/
def storeRemove (st : Frame Session) (s : Statement) : Frame Session :=
  st.update fun c =>
    { c.record (.remove s) with
      net := if s ∈ st.visible.statements then c.net.recordRemove s else c.net }

/-- A write is done in the native transaction. -/
def writeNative (st : Frame Session) : Write → Frame Session
  | .add s => st.storeAdd s
  | .remove s => st.storeRemove s
  | w => st.update (·.record w)

/-- The staged writes of a batch are done in the native transaction. -/
def storeBatch (st : Frame Session) (b : Batch) : Frame Session :=
  b.adds.toList.foldl storeAdd (b.removes.toList.foldl storeRemove st)

/-- The staged namespace bindings are written in the native transaction. -/
def bound (st : Frame Session) : Frame Session :=
  st.update fun c => { c with session := c.namespaces.writes.foldl Session.record c.session }

/-- All that is staged is done in the native transaction. -/
def flushed (st : Frame Session) : Frame Session :=
  st.self.staging.batches.foldl storeBatch st.bound

theorem native_answers {α : Type} {m : SessionM Session α} {st : Frame Session} {a : α}
    (h : m.Answers (st.self.session, st.store) a) : Call.native m st = .ok a st := by
  rw [Call.native, show m (st.self.session, st.store) = _ from h]

theorem native_write {st : Frame Session} (h : st.self.session.Open) (w : Write) :
    Call.native (Session.write w) st = .ok ⟨⟩ (st.update (·.record w)) := by
  rw [Call.native, Session.write_eq h]
  rfl

theorem contains_answers (s : Statement) (st : Frame Session) :
    (Backend.contains s).Answers (st.self.session, st.store)
      (decide (s ∈ st.visible.statements)) := Session.contains_answers s _ _

theorem storeAdd_eq {st : Frame Session} (h : st.self.session.Open) {s : Statement}
    (hs : s.WellFormed) : Connection.storeAdd s st = .ok ⟨⟩ (st.storeAdd s) := by
  have hadd : (Backend.add s : SessionM Session Unit) = Session.write (.add s) :=
    if_pos hs
  simp only [Connection.storeAdd, storeAdd, Action.bind_apply,
    native_answers (contains_answers s st), Outcome.bind_ok]
  by_cases hmem : s ∈ st.visible.statements
  · simp [hmem]
  · simp [hmem, hadd, native_write h]
    rfl

theorem storeRemove_eq {st : Frame Session} (h : st.self.session.Open) (s : Statement) :
    Connection.storeRemove s st = .ok ⟨⟩ (st.storeRemove s) := by
  have hremove : Call.native (Backend.remove s) st =
      .ok (decide (s ∈ st.visible.statements)) (st.update (·.record (.remove s))) := by
    obtain ⟨t, ht, hp⟩ := h
    simp [Call.native, Backend.remove, Session.remove, Session.read, Session.write, bind,
      EStateM.bind, pure, EStateM.pure, ht, hp, visible, update, Connection.record,
      Session.record]
    rfl
  simp only [Connection.storeRemove, storeRemove, Action.bind_apply, hremove, Outcome.bind_ok]
  by_cases hmem : s ∈ st.visible.statements
  · simp [hmem]
    rfl
  · simp [hmem]
    rfl

/-! ## The native transaction stays open -/

theorem storeAdd_open {st : Frame Session} (h : st.self.session.Open) (s : Statement) :
    (st.storeAdd s).self.session.Open := by
  rw [Frame.storeAdd]
  split
  · exact h
  · exact h.record _

theorem storeRemove_open {st : Frame Session} (h : st.self.session.Open) (s : Statement) :
    (st.storeRemove s).self.session.Open := h.record _

theorem writeNative_open {st : Frame Session} (h : st.self.session.Open) (w : Write) :
    (st.writeNative w).self.session.Open := by
  cases w with
  | add s => exact storeAdd_open h s
  | _ => exact h.record _

theorem foldl_open {α : Type} {f : Frame Session → α → Frame Session}
    (hf : ∀ {st : Frame Session}, st.self.session.Open → ∀ a, (f st a).self.session.Open)
    {st : Frame Session} (h : st.self.session.Open) (l : List α) :
    (l.foldl f st).self.session.Open := by
  induction l generalizing st with
  | nil => exact h
  | cons a l ih => exact ih (hf h a)

theorem storeBatch_open {st : Frame Session} (h : st.self.session.Open) (b : Batch) :
    (st.storeBatch b).self.session.Open :=
  foldl_open storeAdd_open (foldl_open storeRemove_open h _) _

theorem flushed_open {st : Frame Session} (h : st.self.session.Open) :
    st.flushed.self.session.Open :=
  foldl_open storeBatch_open (Session.open_foldl_record h _) _

/-! ## What writing natively leaves alone -/

/-- At most the session and the account of its changes differ. -/
def NativeOnly (st st' : Frame Session) : Prop :=
  ∃ session net, st' = st.update fun c => { c with session := session, net := net }

theorem NativeOnly.refl (st : Frame Session) : NativeOnly st st := ⟨_, _, rfl⟩

theorem NativeOnly.trans {st₁ st₂ st₃ : Frame Session} (h₁₂ : NativeOnly st₁ st₂)
    (h₂₃ : NativeOnly st₂ st₃) : NativeOnly st₁ st₃ := by
  obtain ⟨session₂, net₂, rfl⟩ := h₁₂
  obtain ⟨session₃, net₃, rfl⟩ := h₂₃
  exact ⟨session₃, net₃, rfl⟩

theorem NativeOnly.foldl {α : Type} {f : Frame Session → α → Frame Session}
    (h : ∀ st a, NativeOnly st (f st a)) (st : Frame Session) (l : List α) :
    NativeOnly st (l.foldl f st) := by
  induction l generalizing st with
  | nil => exact .refl st
  | cons a l ih => exact (h st a).trans (ih _)

theorem storeAdd_nativeOnly (st : Frame Session) (s : Statement) :
    NativeOnly st (st.storeAdd s) := by
  rw [storeAdd]
  split
  · exact .refl st
  · exact ⟨_, _, rfl⟩

theorem storeRemove_nativeOnly (st : Frame Session) (s : Statement) :
    NativeOnly st (st.storeRemove s) := ⟨_, _, rfl⟩

theorem writeNative_nativeOnly (st : Frame Session) (w : Write) :
    NativeOnly st (st.writeNative w) := by
  cases w with
  | add s => exact storeAdd_nativeOnly st s
  | _ => exact ⟨_, _, rfl⟩

theorem storeBatch_nativeOnly (st : Frame Session) (b : Batch) :
    NativeOnly st (st.storeBatch b) :=
  (NativeOnly.foldl storeRemove_nativeOnly st _).trans (NativeOnly.foldl storeAdd_nativeOnly _ _)

theorem flushed_nativeOnly (st : Frame Session) : NativeOnly st st.flushed :=
  NativeOnly.trans ⟨_, _, rfl⟩ (NativeOnly.foldl storeBatch_nativeOnly st.bound _)

end Frame

end QuadTxn
