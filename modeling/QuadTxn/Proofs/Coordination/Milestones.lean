import QuadTxn.Proofs.Coordination.Books
import QuadTxn.Proofs.Gate.Requests

/-!
# Milestones

What a call on a connection enters into the books is told by the milestones that the transaction
reaches in it: it begins, it is committed, or it is dropped (`Frame.Reaches`). A call that is under
way, also after it has waited, is not refused any more, and the milestones that it reaches before it
answers or fails are fixed (`Outcome.Along`); those of a steady call are none.

Here are the calls of which a request is made. Nothing is assumed of the backend.
-/

namespace QuadTxn

/-- What becomes of a transaction, as the coordinator enters it. -/
inductive Milestone where
  /-- it is registered -/
  | begun
  /-- it is marked as committed, and its slot is released -/
  | committed
  /-- its slot is released -/
  | dropped
  deriving DecidableEq

namespace Milestone

/-- Whether a transaction runs afterwards. -/
def runs : Milestone → Bool
  | .begun => true
  | .committed | .dropped => false

/-- What the coordinator enters for a connection. -/
def enter (id : ConnectionId) (c : Coordinator ConnectionId) : Milestone → Coordinator ConnectionId
  | .begun => c.begin id id
  | .committed => (c.markCommitted id).finish id
  | .dropped => c.finish id

theorem enter_sameBooks (id : ConnectionId) {c c' : Coordinator ConnectionId}
    (h : c.SameBooks c') (ms : List Milestone) :
    (ms.foldl (enter id) c).SameBooks (ms.foldl (enter id) c') := by
  induction ms generalizing c c' with
  | nil => exact h
  | cons m ms ih =>
    cases m with
    | begun => exact ih (h.begin id id)
    | committed => exact ih ((h.markCommitted id).finish id)
    | dropped => exact ih (h.finish id)

end Milestone

namespace Frame

variable {σ : Type}

/-- The transaction of the connection reaches the given milestones, and nothing else is entered into
the books. -/
structure Reaches (ms : List Milestone) (st st' : Frame σ) : Prop where
  /-- it is the same connection -/
  id : st'.self.id = st.self.id
  /-- the last milestone says whether a transaction runs -/
  active : st'.self.isActive = ms.foldl (fun _ m => m.runs) st.self.isActive
  /-- the milestones are entered -/
  books : (ms.foldl (Milestone.enter st.self.id) st.coordinator).SameBooks st'.coordinator

theorem Reaches.refl (st : Frame σ) : Reaches [] st st := ⟨rfl, rfl, .refl _⟩

theorem Reaches.trans {ms ms' : List Milestone} {st₁ st₂ st₃ : Frame σ} (h₁₂ : Reaches ms st₁ st₂)
    (h₂₃ : Reaches ms' st₂ st₃) : Reaches (ms ++ ms') st₁ st₃ where
  id := h₂₃.id.trans h₁₂.id
  active := by rw [List.foldl_append, ← h₁₂.active, h₂₃.active]
  books := by
    have hbooks := h₂₃.books
    rw [h₁₂.id] at hbooks
    rw [List.foldl_append]
    exact (Milestone.enter_sameBooks _ h₁₂.books ms').trans hbooks

/-- A milestone that is not reached yet is reached in what follows. -/
theorem Reaches.before {ms : List Milestone} {st₁ st₂ st₃ : Frame σ} (h₁₂ : Reaches [] st₁ st₂)
    (h₂₃ : Reaches ms st₂ st₃) : Reaches ms st₁ st₃ := h₁₂.trans h₂₃

theorem Reaches.after {ms : List Milestone} {st₁ st₂ st₃ : Frame σ} (h₁₂ : Reaches ms st₁ st₂)
    (h₂₃ : Reaches [] st₂ st₃) : Reaches ms st₁ st₃ := by
  have h := h₁₂.trans h₂₃
  rwa [List.append_nil] at h

/-- Nothing is entered when the connection changes and its transaction goes on. -/
theorem reaches_update {st : Frame σ} {f : Connection σ → Connection σ}
    (hid : (f st.self).id = st.self.id) (hactive : (f st.self).isActive = st.self.isActive) :
    Reaches [] st (st.update f) := ⟨hid, hactive, .refl _⟩

/-- Nothing is entered when the gate changes. -/
theorem reaches_gate (st : Frame σ) (gate : Gate) :
    Reaches [] st { st with coordinator := { st.coordinator with gate := gate } } :=
  ⟨rfl, rfl, rfl, rfl, rfl, rfl, rfl⟩

end Frame

/-! ## Calls that are under way -/

/-- What milestones are to calls on states of type `s`. -/
structure Course (s : Type) where
  /-- the milestones are reached on the way from one state to another -/
  reaches : List Milestone → s → s → Prop
  /-- a call that has left a state waiting is taken up in another one -/
  resumes : s → s → Prop
  /-- where nothing was reached before, all is reached afterwards -/
  before {ms : List Milestone} {st₁ st₂ st₃ : s} :
    reaches [] st₁ st₂ → reaches ms st₂ st₃ → reaches ms st₁ st₃

namespace Outcome

/-- The call is not refused any more, and reaches `ends true` before it answers, or `ends false`
before it fails; if it waits, nothing is reached before. -/
def Along {s α : Type} (C : Course s) (ends : Bool → List Milestone) (st : s) :
    Outcome s α → Prop
  | .ok _ st' => C.reaches (ends true) st st'
  | .error e st' => e.isRefusal = false ∧ C.reaches (ends false) st st'
  | .waits mid _ resume => C.reaches [] st mid ∧ ∀ later,
      C.resumes mid later → (resume later).Along C ends later

section Along

variable {s t α β : Type} {C : Course s} {ends : Bool → List Milestone} {st : s} {o : Outcome s α}

theorem Along.before {mid : s} (hmid : C.reaches [] st mid) (h : o.Along C ends mid) :
    o.Along C ends st := by
  cases o with
  | ok a st' => exact C.before hmid h
  | error e st' => exact ⟨h.1, C.before hmid h.2⟩
  | waits mid mode resume => exact ⟨C.before hmid h.1, h.2⟩

/-- A call may go on with one that always answers, and adds nothing to the milestones. -/
theorem Along.bind_ok {f : α → Action s β} (h : o.Along C ends st)
    (hf : ∀ a mid, ∃ b st', f a mid = .ok b st' ∧
      ∀ ms st, C.reaches ms st mid → C.reaches ms st st') : (o.bind f).Along C ends st := by
  induction o generalizing st with
  | ok a mid =>
    obtain ⟨b, st', heq, hreaches⟩ := hf a mid
    rw [bind_ok, heq]
    exact hreaches _ _ h
  | error e mid => exact h
  | waits mid mode resume ih =>
    exact ⟨h.1, fun later hlater => ih later (h.2 later hlater)⟩

/-- A call on a part of a state reaches the same milestones on the whole. -/
theorem Along.zoom {D : Course t} {get : t → s} {put : s → t → t} {st : t}
    (h : o.Along C ends (get st)) (fits : t → Prop) (hst : fits st)
    (hreaches : ∀ ms st mid, fits st → C.reaches ms (get st) mid → D.reaches ms st (put mid st))
    (hresumes : ∀ st mid later, fits st → D.resumes (put mid st) later →
      fits later ∧ C.resumes mid (get later)) : (o.zoom get put st).Along D ends st := by
  induction o generalizing st with
  | ok a mid => exact hreaches _ _ _ hst h
  | error e mid => exact ⟨h.1, hreaches _ _ _ hst h.2⟩
  | waits mid mode resume ih =>
    refine ⟨hreaches _ _ _ hst h.1, fun later hlater => ?_⟩
    obtain ⟨hfits, hresumed⟩ := hresumes _ _ _ hst hlater
    exact ih (get later) (h.2 (get later) hresumed) hfits

end Along

end Outcome

/-- The milestones of calls on a connection. A call that waits is taken up with the transaction
running if and only if it ran before. -/
def Frame.course {σ : Type} : Course (Frame σ) where
  reaches := Frame.Reaches
  resumes mid later := later.self.isActive = mid.self.isActive
  before := Frame.Reaches.before

namespace Outcome

variable {σ α β : Type} {ends : Bool → List Milestone} {st : Frame σ} {o : Outcome (Frame σ) α}

/-- The milestones of a call on a connection. -/
abbrev Reaches (ends : Bool → List Milestone) (st : Frame σ) (o : Outcome (Frame σ) α) : Prop :=
  o.Along Frame.course ends st

/-- A call goes on with another one while no milestone is reached. -/
theorem Reaches.bind {starts : Bool → List Milestone} {f : α → Action (Frame σ) β}
    (h : o.Reaches starts st) (hok : starts true = []) (herror : starts false = ends false)
    (hf : ∀ a mid, mid.self.isActive = st.self.isActive → (f a mid).Reaches ends mid) :
    (o.bind f).Reaches ends st := by
  induction o generalizing st with
  | ok a mid =>
    have hmid : st.Reaches [] mid := hok ▸ h
    exact (hf a mid hmid.active).before hmid
  | error e mid => exact ⟨h.1, herror ▸ h.2⟩
  | waits mid mode resume ih =>
    obtain ⟨hmid, hresume⟩ := h
    refine ⟨hmid, fun later hlater => ih later (hresume later hlater) fun a next hnext => ?_⟩
    exact hf a next (hnext.trans (hlater.trans hmid.active))

/-- What is made of an answer adds nothing to the milestones. -/
theorem Reaches.map (f : α → β) (h : o.Reaches ends st) :
    (o.bind fun a => (pure (f a) : Action (Frame σ) β)).Reaches ends st :=
  h.bind_ok fun _ mid => ⟨_, mid, rfl, fun _ _ hmid => hmid⟩

/-- A call whose error is handled goes on after an error as well. -/
theorem Reaches.attempt_bind {f : Except TxnError α → Action (Frame σ) β}
    (h : o.Reaches (fun _ => []) st) (hok : ∀ a mid, (f (.ok a) mid).Reaches ends mid)
    (herror : ∀ e mid, e.isRefusal = false → (f (.error e) mid).Reaches ends mid) :
    (o.attempt.bind f).Reaches ends st := by
  induction o generalizing st with
  | ok a mid => exact (hok a mid).before h
  | error e mid => exact (herror e mid h.1).before h.2
  | waits mid mode resume ih =>
    exact ⟨h.1, fun later hlater => ih later (h.2 later hlater)⟩

end Outcome

/-! ## Steady calls -/

namespace Call

variable {σ α β : Type}

/-- The call is not refused and reaches no milestone. -/
def Steady (m : Call σ α) : Prop := ∀ st, (m st).Reaches (fun _ => []) st

theorem Steady.pure (a : α) : Steady (Pure.pure a : Call σ α) := fun st => .refl st

theorem Steady.throw {e : TxnError} (he : e.isRefusal = false) :
    Steady (MonadExcept.throw e : Call σ α) := fun st => ⟨he, .refl st⟩

theorem Steady.bind {m : Call σ α} {f : α → Call σ β} (hm : Steady m) (hf : ∀ a, Steady (f a)) :
    Steady (m >>= f) := fun st => (hm st).bind rfl rfl fun a mid _ => hf a mid

theorem Steady.attempt_bind {m : Call σ α} {f : Except TxnError α → Call σ β} (hm : Steady m)
    (hok : ∀ a, Steady (f (.ok a))) (herror : ∀ e, e.isRefusal = false → Steady (f (.error e))) :
    Steady (m.attempt >>= f) := fun st =>
  (hm st).attempt_bind hok fun e mid he => herror e he mid

theorem Steady.forM {l : List α} {f : α → Call σ PUnit} (hf : ∀ a, Steady (f a)) :
    Steady (l.forM f) := by
  induction l with
  | nil => exact .pure _
  | cons a l ih => exact (hf a).bind fun _ => ih

theorem Steady.ite {p : Prop} [Decidable p] {m n : Call σ α} (hm : Steady m) (hn : Steady n) :
    Steady (if p then m else n) := by
  split
  · exact hm
  · exact hn

theorem steady_self : Steady (self : Call σ _) := fun st => .refl st

theorem steady_get : Steady (MonadState.get : Call σ _) := fun st => .refl st

theorem steady_native (m : SessionM σ α) : Steady (native m) := by
  intro st
  rw [native]
  split
  · exact ⟨rfl, rfl, .refl _⟩
  · exact ⟨rfl, rfl, rfl, .refl _⟩

theorem steady_update {f : Connection σ → Connection σ} (hid : ∀ c, (f c).id = c.id)
    (hactive : ∀ c, (f c).isActive = c.isActive) : Steady (update f) := fun st =>
  Frame.reaches_update (hid st.self) (hactive st.self)

theorem steady_acquire (mode : GateMode) (timeout : Option Nat) :
    Steady (acquire mode timeout : Call σ _) := by
  intro st
  rw [Frame.acquire_eq]
  split
  · exact st.reaches_gate _
  · cases timeout with
    | none => exact ⟨.refl st, fun later _ => later.reaches_gate _⟩
    | some ms => exact ⟨rfl, .refl st⟩

theorem steady_acquireGate : Steady (acquireGate : Call σ _) :=
  steady_self.bind fun _ => steady_acquire _ _

theorem steady_release (mode : GateMode) : Steady (release mode : Call σ _) := fun st =>
  st.reaches_gate _

/-- A steady call that has nothing to do with the gate answers or fails at once. -/
theorem Steady.cases {m : Call σ α} (hm : Steady m) (hq : Quiet m) (st : Frame σ) :
    (∃ a mid, m st = .ok a mid ∧ st.Reaches [] mid) ∨
      ∃ e mid, m st = .error e mid ∧ e.isRefusal = false ∧ st.Reaches [] mid := by
  have hst := hm st
  rcases hq.stays st with ⟨a, mid, heq, -⟩ | ⟨e, mid, heq, -, -⟩
  · rw [heq] at hst
    exact .inl ⟨a, mid, heq, hst⟩
  · rw [heq] at hst
    exact .inr ⟨e, mid, heq, hst⟩

theorem Steady.shared {m : Call σ α} (hm : Steady m) : Steady (shared m) :=
  (steady_acquire _ _).bind fun _ => hm.attempt_bind
    (fun a => (steady_release _).bind fun _ => .pure a)
    fun _ he => (steady_release _).bind fun _ => .throw he

end Call

namespace Connection

open Call

variable {σ α : Type}

theorem steady_observe (r : Read) : Steady (observe r : Call σ _) := by
  refine steady_update (fun c => ?_) (fun c => ?_)
  · split <;> rfl
  · split <;> rfl

theorem steady_tracked (r : Read) {answer : Call σ α} (h : Steady answer) :
    Steady (tracked r answer) := by
  have hrest : ∀ a, Steady (do observe r; return a : Call σ α) := fun a =>
    (steady_observe r).bind fun _ => .pure a
  refine steady_get.bind fun st => ?_
  change Steady (if holdsGate st then _ else _)
  exact .ite (h.bind hrest) (h.shared.bind hrest)

theorem steady_reading (r : Read) {answer : Call σ α} (h : Steady answer) :
    Steady (reading r answer) :=
  steady_self.bind fun _ => .ite (steady_tracked r h) h

theorem steady_isDirect : Steady (isDirect : Call σ _) := steady_self.bind fun _ => .pure _

theorem steady_notify (event : String → Event) : Steady (notify event : Call σ _) :=
  steady_update (fun _ => rfl) fun _ => rfl

theorem steady_checkLedger : Steady (checkLedger : Call σ _) := by
  intro st
  rw [Frame.checkLedger_eq]
  split
  · rename_i e hv
    have he := isConflict_of_verdict hv
    refine ⟨?_, .refl st⟩
    cases e <;> first | rfl | cases he
  · exact .refl st

variable [Backend σ]

theorem steady_view (p : Pattern) (inferred : Bool) : Steady (view p inferred : Call σ _) :=
  steady_self.bind fun _ => steady_native _

theorem steady_evaluate (q : Query) (d : Dataset) (b : Bindings) (inferred : Bool) :
    Steady (evaluate q d b inferred : Call σ _) := by
  refine steady_reading _ (steady_self.bind fun c => .ite (Steady.bind ?_ fun _ => ?_) ?_)
  · exact steady_update (fun _ => rfl) fun _ => rfl
  · exact steady_native _
  · exact steady_native _

theorem steady_storeAdd (s : Statement) : Steady (storeAdd s : Call σ _) := by
  refine (steady_native _).bind fun found => ?_
  split
  · exact .pure _
  · exact (steady_native _).bind fun _ => steady_update (fun _ => rfl) fun _ => rfl

theorem steady_storeRemove (s : Statement) : Steady (storeRemove s : Call σ _) :=
  (steady_native _).bind fun _ => .ite (steady_update (fun _ => rfl) fun _ => rfl) (.pure _)

theorem steady_addOne (kind : BatchKind) (s : Statement) : Steady (addOne kind s : Call σ _) := by
  refine steady_isDirect.bind fun direct => ?_
  split
  · exact Steady.bind (steady_storeAdd s) fun _ => steady_notify _
  · exact Steady.bind (steady_update (fun _ => rfl) fun _ => rfl) fun _ => steady_notify _

theorem steady_removeOne (kind : BatchKind) (s : Statement) :
    Steady (removeOne kind s : Call σ _) := by
  refine steady_isDirect.bind fun direct => ?_
  split
  · exact Steady.bind (steady_storeRemove s) fun _ => steady_notify _
  · exact Steady.bind (steady_update (fun _ => rfl) fun _ => rfl) fun _ => steady_notify _

theorem steady_flush : Steady (flush : Call σ _) := by
  refine steady_self.bind fun c => (steady_native _).bind fun _ => .forM fun b => ?_
  exact (Steady.forM steady_storeRemove).bind fun _ => .forM steady_storeAdd

/-! ## The life of a transaction -/

omit [Backend σ] in
/-- The gate that is given back with a slot is not in the books. -/
theorem released_books (k : Coordinator ConnectionId) (id : ConnectionId) :
    (k.finish id).SameBooks (Frame.released k id) := by
  have hgate : k.SameBooks { k with gate := k.gate.release id .exclusive } :=
    ⟨rfl, rfl, rfl, rfl, rfl⟩
  exact hgate.finish id

/-- A transaction that is abandoned is dropped, whether one runs or not. -/
theorem abandon_reaches (st : Frame σ) :
    ∃ st', abandon st = .ok ⟨⟩ st' ∧ st.Reaches [.dropped] st' := by
  have hdiscard : ∃ mid, discard st = .ok ⟨⟩ mid ∧ st.Reaches [] mid := by
    rcases hact : Backend.isActive st.self.session with _ | _
    · exact ⟨st, by simp [discard, hact], .refl st⟩
    · rcases (steady_native Backend.rollback).cases (quiet_native _) st with
        ⟨a, mid, hback, hmid⟩ | ⟨e, mid, hback, -, hmid⟩
      · exact ⟨mid, by simp [discard, hact, hback], hmid⟩
      · exact ⟨mid, by simp [discard, hact, hback], hmid⟩
  obtain ⟨mid, hmid, hreaches⟩ := hdiscard
  refine ⟨⟨mid.self.reset, mid.store, Frame.released mid.coordinator mid.self.id⟩, ?_,
    hreaches.before ⟨rfl, rfl, released_books _ _⟩⟩
  simp [abandon, hmid]
  rfl

/-- A step that fails has dropped the transaction. -/
theorem orAbandon_reaches {step : Call σ α} {st : Frame σ}
    (h : (step st).Reaches (fun _ => []) st) :
    (orAbandon step st).Reaches (fun ok => if ok then [] else [.dropped]) st := by
  refine h.attempt_bind (fun a mid => .refl mid) fun e mid he => ?_
  obtain ⟨st', habandon, hst'⟩ := abandon_reaches mid
  simp only [Action.bind_apply, habandon, Outcome.bind_ok]
  exact ⟨he, hst'⟩

omit [Backend σ] in
/-- A transaction that runs goes on when it comes into another phase. -/
theorem reaches_phase {st : Frame σ} (hact : st.self.isActive = true) {p : Phase} (hp : p ≠ .idle) :
    (Call.update (fun c => { c with phase := p }) st).Reaches (fun _ => []) st := by
  refine ⟨rfl, Eq.trans ?_ hact.symm, .refl _⟩
  simp [isActive, hp]

theorem startDirect_reaches {st : Frame σ} (hact : st.self.isActive = true) :
    (startDirect st).Reaches (fun _ => []) st := by
  refine (steady_acquireGate st).bind rfl rfl fun _ mid hmid => ?_
  refine (steady_native _ mid).bind rfl rfl fun _ opened hopened => ?_
  exact reaches_phase (hopened.trans (hmid.trans hact)) nofun

/-- A transaction that is not running begins, and is dropped again if it cannot be started. -/
theorem begin_reaches {st : Frame σ} (hact : st.self.isActive = false) :
    st.Reaches [.begun] st.begun ∧
      (begin st).Reaches (fun ok => if ok then [] else [.dropped]) st.begun := by
  refine ⟨⟨rfl, rfl, .refl _⟩, ?_⟩
  rcases hread : st.self.isolation.readSnapshot with _ | _
  · have heq : begin st = orAbandon startDirect st.begun := by
      simp [begin, hact, hread]
      rfl
    rw [heq]
    exact orAbandon_reaches (startDirect_reaches rfl)
  · have heq : begin st = .ok ⟨⟩ st.begun := by
      simp [begin, hact, hread]
      rfl
    rw [heq]
    exact .refl _

theorem tryPrepare_reaches {st : Frame σ} (hact : st.self.isActive = true) :
    (tryPrepare st).Reaches (fun _ => []) st := by
  have hwrite : ∀ st : Frame σ, st.self.isActive = true → ((do
      flush
      Call.native Backend.prepare
      Call.update fun c => { c with phase := .prepared } : Call σ Unit) st).Reaches
        (fun _ => []) st := by
    intro st hact
    refine (steady_flush st).bind rfl rfl fun _ mid hmid => ?_
    refine (steady_native _ mid).bind rfl rfl fun _ sealed hsealed => ?_
    exact reaches_phase (hsealed.trans (hmid.trans hact)) nofun
  have hready : ∀ st : Frame σ, st.self.isActive = true →
      (makeReady st).Reaches (fun _ => []) st := by
    intro st hact
    refine (steady_checkLedger st).bind rfl rfl fun _ mid hmid => ?_
    refine (steady_isDirect mid).bind rfl rfl fun direct mid' hmid' => ?_
    have hact' := hmid'.trans (hmid.trans hact)
    split
    · refine (steady_native _ mid').bind rfl rfl fun _ opened hopened => ?_
      exact hwrite opened (hopened.trans hact')
    · exact hwrite mid' hact'
  rw [tryPrepare_eq]
  split
  · exact hready st hact
  · exact (steady_acquireGate st).bind rfl rfl fun _ mid hmid => hready mid (hmid.trans hact)

/-- A transaction that cannot be prepared is dropped. -/
theorem prepare_reaches {st : Frame σ} (hact : st.self.isActive = true) :
    (prepare st).Reaches (fun ok => if ok then [] else [.dropped]) st := by
  have hready := orAbandon_reaches (tryPrepare_reaches hact)
  rcases hp : st.self.phase with _ | _ | _ | _
  · exact absurd hp (isActive_iff.mp hact)
  · rwa [show prepare st = orAbandon tryPrepare st by simp [prepare, hp]]
  · rwa [show prepare st = orAbandon tryPrepare st by simp [prepare, hp]]
  · rw [show prepare st = .ok ⟨⟩ st by simp [prepare, hp]]
    exact .refl st

/-- A transaction that runs is committed, or dropped if that fails. -/
theorem commit_reaches {st : Frame σ} (hact : st.self.isActive = true) :
    (commit st).Reaches (fun ok => if ok then [.committed] else [.dropped]) st := by
  rw [commit_eq_bind hact]
  refine (prepare_reaches hact).bind rfl rfl fun _ mid _ => ?_
  refine (orAbandon_reaches (steady_native _ mid)).bind rfl rfl fun _ done _ => ?_
  exact ⟨rfl, rfl, released_books _ _⟩

/-- A rollback drops the transaction, whether the native one can be rolled back or not. -/
theorem rollback_reaches {st : Frame σ} (hact : st.self.isActive = true) :
    (rollback st).Reaches (fun _ => [.dropped]) st := by
  rcases hnative : Backend.isActive st.self.session with _ | _
  · obtain ⟨st', habandon, hst'⟩ := abandon_reaches st
    have heq : rollback st = .ok ⟨⟩ st' := by simp [rollback, hact, hnative, habandon]
    rw [heq]
    exact hst'
  · rcases (steady_native Backend.rollback).cases (quiet_native _) st with
      ⟨a, mid, hback, hmid⟩ | ⟨e, mid, hback, he, hmid⟩
    · obtain ⟨st', habandon, hst'⟩ := abandon_reaches mid
      have heq : rollback st = .ok ⟨⟩ st' := by
        simp [rollback, hact, hnative, hback, habandon]
      rw [heq]
      exact hmid.before hst'
    · obtain ⟨st', habandon, hst'⟩ := abandon_reaches mid
      have heq : rollback st = .error e st' := by
        simp [rollback, hact, hnative, hback, habandon, Action.ofExcept]
      rw [heq]
      exact ⟨he, hmid.before hst'⟩

/-! ## Changes of isolation -/

/-- A transaction that becomes direct goes on, and one that cannot become direct goes on as
before. -/
theorem goDirect_reaches {st : Frame σ} (hact : st.self.isActive = true) :
    (goDirect st).Reaches (fun _ => []) st := by
  rcases (steady_native Backend.begin).cases (quiet_native _) st with
    ⟨a, opened, hbegin, hopened⟩ | ⟨e, mid, hbegin, he, hmid⟩
  · rcases steady_flush.cases quiet_flush opened with
      ⟨b, flushed, hflush, hflushed⟩ | ⟨e, failed, hflush, he, hfailed⟩
    · have hreaches := hopened.before hflushed
      rw [goDirect_ok hbegin hflush]
      exact hreaches.before ⟨rfl, (hreaches.active.trans hact).symm, .refl _⟩
    · have hback : ∃ r mid, (Call.native Backend.rollback failed).attempt = .ok r mid ∧
          failed.Reaches [] mid := by
        rcases (steady_native Backend.rollback).cases (quiet_native _) failed with
          ⟨c, mid, heq, hmid⟩ | ⟨e', mid, heq, -, hmid⟩
        · exact ⟨.ok c, mid, by rw [heq]; rfl, hmid⟩
        · exact ⟨.error e', mid, by rw [heq]; rfl, hmid⟩
      obtain ⟨r, mid, hback, hmid⟩ := hback
      rw [goDirect_unflushed hbegin hflush hback]
      exact ⟨he, ((hopened.before hfailed).before hmid).before ⟨rfl, rfl, rfl, rfl, rfl, rfl, rfl⟩⟩
  · rw [goDirect_unopened hbegin]
    exact ⟨he, hmid.before (mid.reaches_gate _)⟩

end Connection

end QuadTxn
