import QuadTxn.Proofs.Coordination.Milestones

/-!
# Requests and their milestones

A request is refused and leaves everything as it was, or it is not refused any more, begins a
transaction or none, and goes on to its end (`Request.call_reaches`). Nothing is assumed of the
frame that the request is made on, nor of the backend.
-/

namespace QuadTxn

/-! ## Calls that may be refused -/

namespace Call

variable {σ α β : Type}

/-- The call is refused and leaves everything as it was, or it is steady. -/
def Refusable (m : Call σ α) : Prop := ∀ st,
  (∃ e, e.isRefusal = true ∧ m st = .error e st) ∨ (m st).Reaches (fun _ => []) st

theorem Steady.refusable {m : Call σ α} (hm : Steady m) : Refusable m := fun st => .inr (hm st)

theorem Refusable.bind {m : Call σ α} {f : α → Call σ β} (hm : Refusable m)
    (hf : ∀ a, Steady (f a)) : Refusable (m >>= f) := by
  intro st
  rcases hm st with ⟨e, he, heq⟩ | hreaches
  · exact .inl ⟨e, he, by rw [Action.bind_apply, heq]; rfl⟩
  · exact .inr (hreaches.bind rfl rfl fun a mid _ => hf a mid)

/-- A call may be refused before it does anything. -/
theorem Refusable.refuse {p : Prop} [Decidable p] {e : TxnError} (he : e.isRefusal = true)
    {rest : PUnit → Call σ α} (h : ∀ u, Refusable (rest u)) :
    Refusable (if p then MonadExcept.throw e >>= rest else rest ⟨⟩) := by
  intro st
  split
  · exact .inl ⟨e, he, rfl⟩
  · exact h _ st

end Call

namespace Connection

open Call

variable {σ : Type}

/-- A change of the isolation flags that is refused while a transaction runs. -/
theorem refusable_flags {locked : Connection σ → Prop} [DecidablePred locked] (reason : String)
    {f : Connection σ → Isolation} :
    Refusable (do
      let c ← Call.self
      if locked c then throw (.isolationLocked reason)
      Call.update fun c => { c with isolation := f c } : Call σ Unit) := by
  intro st
  by_cases hlocked : locked st.self
  · exact .inl ⟨.isolationLocked reason, rfl, by simp [hlocked]⟩
  · refine .inr ?_
    simp only [Action.bind_apply, Call.self_apply, Outcome.bind_ok, if_neg hlocked]
    exact ⟨rfl, rfl, .refl _⟩

/-- A call that needs a running transaction that is not prepared. -/
theorem refusable_checkWritable {α : Type} {f : Unit → Call σ α} (hf : Steady (f ⟨⟩)) :
    Refusable (checkWritable >>= f) := by
  intro st
  rw [Action.bind_apply, Frame.checkWritable_eq]
  rcases hw : st.unwritable? with _ | e
  · exact .inr (hf st)
  · refine .inl ⟨e, ?_, rfl⟩
    rw [Frame.unwritable?] at hw
    split at hw <;> cases hw <;> rfl

theorem refusable_writeNamespaces (staged : NamespaceOverlay → NamespaceOverlay)
    (stored : SessionM σ Unit) : Refusable (writeNamespaces staged stored) :=
  refusable_checkWritable <| steady_isDirect.bind fun _ =>
    .ite (steady_native _) (steady_update (fun _ => rfl) fun _ => rfl)

variable [Backend σ]

theorem refusable_add (kind : BatchKind) (subject predicate object : Term)
    (graphs : List GraphName) :
    Refusable (add kind subject predicate object graphs : Call σ _) := by
  have hstage : Refusable (do
      checkWritable
      let graphs := if graphs.isEmpty then [none] else graphs
      (graphs.map fun g => ⟨subject, predicate, object, g⟩).forM (addOne kind) : Call σ PUnit) :=
    refusable_checkWritable (.forM (steady_addOne kind))
  exact .refuse rfl fun _ => .refuse rfl fun _ => hstage

theorem refusable_remove (kind : BatchKind) (p : Pattern) :
    Refusable (remove kind p : Call σ _) :=
  refusable_checkWritable <| (steady_tracked _ (steady_view p false)).bind fun _ =>
    (Steady.forM (steady_removeOne kind)).bind fun _ => .pure _

theorem refusable_switchToDirect {st : Frame σ} (hact : st.self.isActive = true) :
    (∃ e, e.isRefusal = true ∧ switchToDirect st = .error e st) ∨
      (switchToDirect st).Reaches (fun _ => []) st := by
  by_cases hp : st.self.phase = .prepared
  · exact .inl ⟨.isolationLocked "transaction is prepared", rfl, by simp [switchToDirect, hp]⟩
  · have heq : switchToDirect st = (Call.acquireGate st).bind fun _ => goDirect := by
      simp [switchToDirect, goDirect, hp]
    rw [heq]
    refine .inr ((steady_acquireGate st).bind rfl rfl fun _ mid hmid => ?_)
    exact goDirect_reaches (hmid.trans hact)

theorem refusable_setReadSnapshot (on : Bool) : Refusable (setReadSnapshot on : Call σ _) := by
  intro st
  rcases hact : st.self.isActive with _ | _
  · refine .inr ?_
    rw [show setReadSnapshot on st = .ok ⟨⟩
        (st.update fun c => { c with isolation := { c.isolation with readSnapshot := on } }) by
      simp [setReadSnapshot, hact]; rfl]
    exact Frame.reaches_update rfl rfl
  · rcases hread : st.self.isolation.readSnapshot with _ | _ <;> rcases on with _ | _
    · refine .inr ?_
      rw [show setReadSnapshot false st = .ok ⟨⟩ st by simp [setReadSnapshot, hact, hread]]
      exact .refl st
    · exact .inl ⟨.isolationLocked "cannot stage writes in a write-through transaction", rfl,
        by simp [setReadSnapshot, hact, hread]⟩
    · rw [show setReadSnapshot false st = switchToDirect st by
        simp [setReadSnapshot, hact, hread]]
      exact refusable_switchToDirect hact
    · refine .inr ?_
      rw [show setReadSnapshot true st = .ok ⟨⟩ st by simp [setReadSnapshot, hact, hread]]
      exact .refl st

end Connection

/-! ## Requests -/

namespace Request

/-- Whether a request begins, prepares or ends a transaction. -/
def delimits : Request → Bool
  | .begin | .prepare | .commit | .rollback => true
  | _ => false

/-- The milestone that a request reaches before anything else, on a connection with or without a
running transaction. -/
def opening (active : Bool) : Request → List Milestone
  | .begin => if active then [] else [.begun]
  | _ => []

/-- The milestones that a request reaches after that, before it answers or fails, on a connection
with or without a running transaction. -/
def ending (active ok : Bool) : Request → List Milestone
  | .begin | .prepare => if active && !ok then [.dropped] else []
  | .commit => if !active then [] else if ok then [.committed] else [.dropped]
  | .rollback => if active then [.dropped] else []
  | _ => []

theorem opening_of_not_delimits {req : Request} (h : req.delimits = false) (active : Bool) :
    req.opening active = [] := by
  cases req <;> first | rfl | cases h

theorem ending_of_not_delimits {req : Request} (h : req.delimits = false) (active ok : Bool) :
    req.ending active ok = [] := by
  cases req <;> first | rfl | cases h

open Connection Call

variable {σ : Type} [Backend σ]

/-- Inside a transaction, and outside, a request is refused or steady. -/
theorem call_refusable {req : Request} (h : req.delimits = false) :
    (req.call : Call σ _).Refusable := by
  have hanswer : ∀ {α : Type} {m : Call σ α} (f : α → Answer), m.Refusable →
      (m >>= fun a => (pure (f a) : Call σ Answer)).Refusable :=
    fun f hm => hm.bind fun _ => .pure _
  cases req with
  | begin | prepare | commit | rollback => cases h
  | add kind s p o graphs => exact hanswer (fun _ => .none) (refusable_add kind s p o graphs)
  | addStatement s => exact hanswer (fun _ => .none) (refusable_add _ _ _ _ _)
  | remove kind p => exact hanswer .count (refusable_remove kind p)
  | removeStatement s => exact hanswer .count (refusable_remove _ _)
  | clear graphs => exact hanswer .count (refusable_remove _ _)
  | bindLabel label name => exact hanswer (fun _ => .none) (refusable_writeNamespaces _ _)
  | unbindLabel label => exact hanswer (fun _ => .none) (refusable_writeNamespaces _ _)
  | unbindAll => exact hanswer (fun _ => .none) (refusable_writeNamespaces _ _)
  | getStatements p inferred =>
    exact hanswer .statements (steady_reading _ (steady_view p inferred)).refusable
  | hasStatement p inferred =>
    exact hanswer .truth
      (steady_reading _ ((steady_view p inferred).bind fun _ => .pure _)).refusable
  | evaluate q d b inferred => exact hanswer .solutions (steady_evaluate q d b inferred).refusable
  | size graphs =>
    exact hanswer .count (steady_reading _ ((steady_view _ _).bind fun _ => .pure _)).refusable
  | graphNames =>
    exact hanswer .graphs
      (steady_reading _ (steady_self.bind fun _ => steady_native _)).refusable
  | getNamespaces =>
    exact hanswer .namespaces
      (steady_self.bind fun _ => (steady_native _).bind fun _ => .pure _).refusable
  | namespaceOf label =>
    exact hanswer .namespaceName (steady_self.bind fun _ => steady_native _).refusable
  | setReadSnapshot on => exact hanswer (fun _ => .none) (refusable_setReadSnapshot on)
  | setSnapshot on =>
    exact hanswer (fun _ => .none) (refusable_flags _)
  | setSerializable on => exact hanswer (fun _ => .none) (refusable_flags _)
  | setIsolation level => exact hanswer (fun _ => .none) (refusable_flags _)
  | listen listener =>
    refine hanswer (fun _ => .none) (Steady.refusable (steady_update (fun c => ?_) fun c => ?_))
    · rfl
    · rfl
  | unlisten listener => exact fun st => .inr ⟨rfl, rfl, .refl _⟩

/-- A request is refused and leaves everything as it was, or it is not refused any more and reaches
the milestones that it is made for. -/
theorem call_reaches (req : Request) (st : Frame σ) :
    (∃ e, e.isRefusal = true ∧ req.opening st.self.isActive = [] ∧ req.call st = .error e st) ∨
      ∃ start, st.Reaches (req.opening st.self.isActive) start ∧
        (req.call st).Reaches (req.ending start.self.isActive) start := by
  rcases hdelimits : req.delimits with _ | _
  · rw [opening_of_not_delimits hdelimits]
    rcases call_refusable hdelimits st with ⟨e, he, heq⟩ | hreaches
    · exact .inl ⟨e, he, rfl, heq⟩
    · rw [← funext (ending_of_not_delimits hdelimits st.self.isActive)] at hreaches
      exact .inr ⟨st, .refl st, hreaches⟩
  · cases req with
    | begin =>
      rcases hact : st.self.isActive with _ | _
      · obtain ⟨hbegun, hreaches⟩ := begin_reaches hact
        refine .inr ⟨st.begun, hbegun, ?_⟩
        have hends : Request.begin.ending st.begun.self.isActive =
            fun ok => if ok then [] else [.dropped] := by
          funext ok
          cases ok <;> rfl
        rw [hends]
        exact hreaches.map _
      · exact .inl ⟨.alreadyActive, rfl, rfl, by simp [call, Connection.begin, hact]⟩
    | prepare =>
      refine .inr ⟨st, .refl st, ?_⟩
      rcases hact : st.self.isActive with _ | _
      · -- without a transaction there is nothing to prepare
        have heq : Connection.prepare st = .ok ⟨⟩ st := by
          simp [Connection.prepare, phase_of_inactive hact]
        exact (show (Connection.prepare st).Reaches (fun _ => []) st from heq ▸ .refl st).map _
      · have hends : Request.prepare.ending true = fun ok => if ok then [] else [.dropped] := by
          funext ok
          cases ok <;> rfl
        rw [hends]
        exact (prepare_reaches hact).map _
    | commit =>
      refine .inr ⟨st, .refl st, ?_⟩
      rcases hact : st.self.isActive with _ | _
      · have heq : Connection.commit st = .ok none st := by simp [Connection.commit, hact]
        exact (show (Connection.commit st).Reaches (fun _ => []) st from heq ▸ .refl st).map _
      · exact (commit_reaches hact).map _
    | rollback =>
      refine .inr ⟨st, .refl st, ?_⟩
      rcases hact : st.self.isActive with _ | _
      · have heq : Connection.rollback st = .ok ⟨⟩ st := by simp [Connection.rollback, hact]
        exact (show (Connection.rollback st).Reaches (fun _ => []) st from heq ▸ .refl st).map _
      · exact (rollback_reaches hact).map _
    | _ => cases hdelimits

end Request

end QuadTxn
