import Mathlib.Logic.Function.Basic
import QuadTxn.Proofs.Calls.Answers
import QuadTxn.Proofs.Calls.Frames
import QuadTxn.Txn.Request

/-!
# Sessions that share a store

Here sessions are used on their own, without connections around them. What an operation of a
session comes to is listed in `Session.Does`; several sessions that share a store, by name, are a
`Sharing`, and everything that can happen to it is a `Happening`. None of it waits, so that a list
of happenings leads to one log of answers (`Sharing.log`) and to one state (`Sharing.after`).
-/

namespace QuadTxn

/-- What is asked of a session. -/
inductive SessionRequest where
  /-- list the statements of a pattern -/
  | statements (p : Pattern) (inferred : Bool)
  /-- ask for a statement -/
  | contains (s : Statement)
  /-- count the statements in graphs -/
  | size (graphs : List GraphName)
  /-- list the solutions of a query -/
  | evaluate (q : Query) (d : Dataset) (b : Bindings) (inferred : Bool)
  /-- list the named graphs -/
  | graphNames
  /-- list the namespace bindings -/
  | namespaces
  /-- ask for the namespace of a label -/
  | namespaceOf (label : String)
  /-- add a statement -/
  | add (s : Statement)
  /-- remove a statement -/
  | remove (s : Statement)
  /-- bind a label to a namespace -/
  | bindLabel (label name : String)
  /-- remove the binding of a label -/
  | unbindLabel (label : String)
  /-- remove every binding -/
  | unbindAll
  /-- start a native transaction -/
  | begin
  /-- make the native transaction ready for commit -/
  | prepare
  /-- commit the native transaction -/
  | commit
  /-- abandon the native transaction -/
  | rollback
  deriving DecidableEq

namespace SessionRequest

/-- The operation that is asked for. -/
def call {σ : Type} [Backend σ] : SessionRequest → SessionM σ Answer
  | .statements p inferred => .statements <$> Backend.statements p inferred
  | .contains s => .truth <$> Backend.contains s
  | .size graphs => .count <$> Backend.size graphs
  | .evaluate q d b inferred =>
    .solutions <$> Query.evaluate (fun p => Backend.statements p inferred) q d b
  | .graphNames => .graphs <$> Backend.graphNames
  | .namespaces => .namespaces <$> Backend.namespaces
  | .namespaceOf label => .namespaceName <$> Backend.namespaceOf label
  | .add s => do Backend.add s; return .none
  | .remove s => .truth <$> Backend.remove s
  | .bindLabel label name => do Backend.bindLabel label name; return .none
  | .unbindLabel label => do Backend.unbindLabel label; return .none
  | .unbindAll => do Backend.unbindAll; return .none
  | .begin => do Backend.begin; return .none
  | .prepare => do Backend.prepare; return .none
  | .commit => do Backend.commit; return .none
  | .rollback => do Backend.rollback; return .none

/-- What a request reads in the contents of a store, if it only reads. -/
def readIn? (c : Contents) : SessionRequest → Option Answer
  | .statements p _ => some (.statements (c.statements.select p))
  | .contains s => some (.truth (decide (s ∈ c.statements)))
  | .size graphs => some (.count (c.statements.select (.within graphs)).length)
  | .evaluate q d b _ => some (.solutions (c.statements.solutions q d b))
  | .graphNames => some (.graphs c.statements.namedGraphs.toList)
  | .namespaces => some (.namespaces c.namespaces.bindings)
  | .namespaceOf label => some (.namespaceName (c.namespaces.get? label))
  | _ => none

/-- The write that a request asks for, if any. -/
def write? : SessionRequest → Option Write
  | .add s => some (.add s)
  | .remove s => some (.remove s)
  | .bindLabel label name => some (.bind label name)
  | .unbindLabel label => some (.unbind label)
  | .unbindAll => some .unbindAll
  | _ => none

/-- What a write is answered that finds the contents: a removal whether the statement was there. -/
def writtenIn (c : Contents) : SessionRequest → Answer
  | .remove s => .truth (decide (s ∈ c.statements))
  | _ => .none

end SessionRequest

namespace SessionM

variable {σ α β : Type} {m : SessionM σ α} {x y : σ × Store} {a : α} {e : StoreError}

theorem bind_ok (h : m x = .ok a y) (f : α → SessionM σ β) : (m >>= f) x = f a y := by
  change EStateM.bind m f x = f a y
  rw [EStateM.bind, h]

theorem bind_error (h : m x = .error e y) (f : α → SessionM σ β) : (m >>= f) x = .error e y := by
  change EStateM.bind m f x = .error e y
  rw [EStateM.bind, h]

theorem map_ok (h : m x = .ok a y) (f : α → β) : (f <$> m) x = .ok (f a) y := by
  change EStateM.map f m x = .ok (f a) y
  rw [EStateM.map, h]

theorem map_error (h : m x = .error e y) (f : α → β) : (f <$> m) x = .error e y := by
  change EStateM.map f m x = .error e y
  rw [EStateM.map, h]

theorem perform_ok (h : m x = .ok a y) : m.perform x = (.ok a, y) := by
  rw [perform, h]

theorem perform_error (h : m x = .error e y) : m.perform x = (.error e, y) := by
  rw [perform, h]

end SessionM

namespace Session

/-- Why a session takes no write, if it takes none. -/
def unwritable? (s : Session) : Option StoreError :=
  match s.txn with
  | none => some .notActive
  | some t =>
    if t.prepared then
      some (.invalidOperation "cannot write to a prepared native transaction")
    else none

theorem unwritable?_eq_none_iff {s : Session} : s.unwritable? = none ↔ s.Open := by
  rcases htxn : s.txn with _ | t
  · simp [unwritable?, Open, htxn]
  · rcases hp : t.prepared with _ | _
    · simp [unwritable?, Open, htxn, hp]
    · simp [unwritable?, Open, htxn, hp]

/-- Why a session refuses a request, if it does. -/
def refusal? (s : Session) : SessionRequest → Option StoreError
  | .begin => if s.isActive then some .alreadyActive else none
  | .prepare | .commit | .rollback => if s.isActive then none else some .notActive
  | .add x =>
    if x.WellFormed then s.unwritable?
    else some (.invalidOperation ("malformed statement " ++ x.render))
  | .remove _ | .bindLabel _ _ | .unbindLabel _ | .unbindAll => s.unwritable?
  | _ => none

/-- What an operation of a session comes to: what is answered, and what becomes of the session and
of the store. -/
inductive Does (s : Session) (st : Store) :
    SessionRequest → Except StoreError Answer → Session → Store → Prop where
  /-- the request is refused -/
  | refused {req : SessionRequest} {e : StoreError} : s.refusal? req = some e →
      Does s st req (.error e) s st
  /-- something is read -/
  | read {req : SessionRequest} {a : Answer} : req.readIn? (s.visible st) = some a →
      Does s st req (.ok a) s st
  /-- something is written in the native transaction -/
  | write {req : SessionRequest} {w : Write} : req.write? = some w → s.Open →
      Does s st req (.ok (req.writtenIn (s.visible st))) (s.record w) st
  /-- a native transaction begins -/
  | begin : s.txn = none → Does s st .begin (.ok .none) ⟨some ⟨st.contents, [], false⟩⟩ st
  /-- the native transaction is made ready for commit -/
  | prepare {t : NativeTxn} : s.txn = some t → st.failPrepare = false →
      Does s st .prepare (.ok .none) s.sealed st
  /-- a failure that was asked for keeps the native transaction from being made ready -/
  | failPrepare {t : NativeTxn} : s.txn = some t → st.failPrepare = true →
      Does s st .prepare (.error (.injected "prepare")) s { st with failPrepare := false }
  /-- the native transaction is committed -/
  | commit {t : NativeTxn} : s.txn = some t → st.failCommit = false →
      Does s st .commit (.ok .none) ⟨none⟩
        { st with contents := st.contents.replay t.journal, version := st.version + 1 }
  /-- a failure that was asked for ends the native transaction without a commit -/
  | failCommit {t : NativeTxn} : s.txn = some t → st.failCommit = true →
      Does s st .commit (.error (.injected "commit")) ⟨none⟩ { st with failCommit := false }
  /-- the native transaction is abandoned -/
  | rollback {t : NativeTxn} : s.txn = some t → Does s st .rollback (.ok .none) ⟨none⟩ st

section Calls

variable {s : Session} {st : Store}

/-- A request that only reads answers from the contents that the session sees. -/
theorem call_read {req : SessionRequest} {a : Answer} (h : req.readIn? (s.visible st) = some a) :
    (req.call : SessionM Session Answer) (s, st) = .ok a (s, st) := by
  cases req with
  | contains x =>
    obtain rfl := Option.some.inj h
    exact SessionM.map_ok (contains_answers x s st) _
  | evaluate q d b inferred =>
    obtain rfl := Option.some.inj h
    exact SessionM.map_ok (Query.evaluate_answers (fun p => read_answers _ s st) q d b) _
  | add | remove | bindLabel | unbindLabel | unbindAll => cases h
  | begin | prepare | commit | rollback => cases h
  | _ =>
    obtain rfl := Option.some.inj h
    rfl

theorem write_refused {e : StoreError} (h : s.unwritable? = some e) (w : Write) :
    write w (s, st) = .error e (s, st) := by
  rcases htxn : s.txn with _ | t
  · obtain rfl : _ = e := by simpa [unwritable?, htxn] using h
    simp [write, htxn]
  · simp only [unwritable?, htxn, Option.ite_none_right_eq_some] at h
    obtain ⟨hp, he⟩ := h
    obtain rfl := Option.some.inj he
    simp [write, htxn, hp]

/-- A removal asks whether the statement is there, and is a write otherwise. -/
theorem remove_eq (x : Statement) :
    remove x (s, st) = match write (.remove x) (s, st) with
      | .ok _ (s', st') => .ok (decide (x ∈ (s.visible st).statements)) (s', st')
      | .error e (s', st') => .error e (s', st') := by
  change EStateM.bind (write (.remove x)) _ (s, st) = _
  rw [EStateM.bind]
  split <;> split <;> simp_all [pure, EStateM.pure]

/-- A request that is refused has no effect. -/
theorem call_refused {req : SessionRequest} {e : StoreError} (h : s.refusal? req = some e) :
    (req.call : SessionM Session Answer) (s, st) = .error e (s, st) := by
  cases req with
  | add x =>
    refine SessionM.bind_error ?_ _
    rw [refusal?] at h
    split at h
    · rename_i hwf
      change add x (s, st) = _
      rw [add, if_pos hwf]
      exact write_refused h _
    · rename_i hwf
      obtain rfl := Option.some.inj h
      change add x (s, st) = _
      rw [add, if_neg hwf]
      rfl
  | remove x =>
    refine SessionM.map_error ?_ _
    change remove x (s, st) = _
    rw [remove_eq, write_refused h]
  | bindLabel label name => exact SessionM.bind_error (write_refused h _) _
  | unbindLabel label => exact SessionM.bind_error (write_refused h _) _
  | unbindAll => exact SessionM.bind_error (write_refused h _) _
  | begin =>
    obtain ⟨hactive, he⟩ := Option.ite_none_right_eq_some.mp h
    obtain rfl := Option.some.inj he
    obtain ⟨t, ht⟩ := Option.isSome_iff_exists.mp hactive
    refine SessionM.bind_error ?_ _
    change begin (s, st) = _
    simp only [begin, ht]
  | prepare | commit | rollback =>
    obtain ⟨hactive, he⟩ := Option.ite_none_left_eq_some.mp h
    obtain rfl := Option.some.inj he
    have hnone : s.txn = none := by simpa [isActive] using hactive
    refine SessionM.bind_error ?_ _
    first
      | (change prepare (s, st) = _; simp only [prepare, hnone])
      | (change commit (s, st) = _; simp only [commit, hnone])
      | (change rollback (s, st) = _; simp only [rollback, hnone])
  | _ => cases h

/-- A write that is not refused is done in the native transaction. -/
theorem call_write (st : Store) {req : SessionRequest} {w : Write} (hw : req.write? = some w)
    (h : s.refusal? req = none) : s.Open ∧
    (req.call : SessionM Session Answer) (s, st) =
      .ok (req.writtenIn (s.visible st)) (s.record w, st) := by
  cases req with
  | add x =>
    obtain rfl := Option.some.inj hw
    rw [refusal?] at h
    split at h
    · rename_i hwf
      have hopen := unwritable?_eq_none_iff.mp h
      refine ⟨hopen, SessionM.bind_ok (a := ()) ?_ _⟩
      change add x (s, st) = _
      rw [add, if_pos hwf]
      exact write_eq hopen _ _
    · cases h
  | remove x =>
    obtain rfl := Option.some.inj hw
    have hopen := unwritable?_eq_none_iff.mp h
    refine ⟨hopen, SessionM.map_ok ?_ _⟩
    change remove x (s, st) = _
    rw [remove_eq, write_eq hopen]
  | bindLabel | unbindLabel | unbindAll =>
    obtain rfl := Option.some.inj hw
    have hopen := unwritable?_eq_none_iff.mp h
    exact ⟨hopen, SessionM.bind_ok (write_eq hopen _ _) _⟩
  | _ => cases hw

theorem txn_of_active (h : (if s.isActive then none else some StoreError.notActive) = none) :
    ∃ t, s.txn = some t := by
  split at h
  · rename_i hactive
    exact Option.isSome_iff_exists.mp hactive
  · cases h

/-- Every request to a session does one of the listed things. -/
theorem does_call (s : Session) (st : Store) (req : SessionRequest) :
    ∃ r s' st', (req.call : SessionM Session Answer).perform (s, st) = (r, s', st') ∧
      Does s st req r s' st' := by
  rcases hr : s.refusal? req with _ | e
  rotate_left
  · exact ⟨_, _, _, SessionM.perform_error (call_refused hr), .refused hr⟩
  rcases ha : req.readIn? (s.visible st) with _ | a
  rotate_left
  · exact ⟨_, _, _, SessionM.perform_ok (call_read ha), .read ha⟩
  rcases hw : req.write? with _ | w
  rotate_left
  · obtain ⟨hopen, hcall⟩ := call_write st hw hr
    exact ⟨_, _, _, SessionM.perform_ok hcall, .write hw hopen⟩
  -- what is left begins or ends a native transaction
  cases req with
  | begin =>
    have hnone : s.txn = none := by
      rw [refusal?, ite_eq_right_iff] at hr
      exact Option.not_isSome_iff_eq_none.mp fun hactive => nomatch hr hactive
    have hcall : begin (s, st) = .ok () (⟨some ⟨st.contents, [], false⟩⟩, st) := by
      simp only [begin, hnone]
    exact ⟨_, _, _, SessionM.perform_ok (SessionM.bind_ok hcall _), .begin hnone⟩
  | prepare =>
    obtain ⟨t, ht⟩ := txn_of_active hr
    rcases hfail : st.failPrepare with _ | _
    · have hcall : prepare (s, st) = .ok () (s.sealed, st) := by
        simp [prepare, sealed, ht, hfail]
      exact ⟨_, _, _, SessionM.perform_ok (SessionM.bind_ok hcall _), .prepare ht hfail⟩
    · have hcall : prepare (s, st) =
          .error (.injected "prepare") (s, { st with failPrepare := false }) := by
        simp [prepare, ht, hfail]
      exact ⟨_, _, _, SessionM.perform_error (SessionM.bind_error hcall _), .failPrepare ht hfail⟩
  | commit =>
    obtain ⟨t, ht⟩ := txn_of_active hr
    rcases hfail : st.failCommit with _ | _
    · have hcall : commit (s, st) = .ok () (⟨none⟩,
          { st with contents := st.contents.replay t.journal, version := st.version + 1 }) := by
        simp [commit, ht, hfail]
      exact ⟨_, _, _, SessionM.perform_ok (SessionM.bind_ok hcall _), .commit ht hfail⟩
    · have hcall : commit (s, st) =
          .error (.injected "commit") (⟨none⟩, { st with failCommit := false }) := by
        simp [commit, ht, hfail]
      exact ⟨_, _, _, SessionM.perform_error (SessionM.bind_error hcall _), .failCommit ht hfail⟩
  | rollback =>
    obtain ⟨t, ht⟩ := txn_of_active hr
    have hcall : rollback (s, st) = .ok () (⟨none⟩, st) := by simp [rollback, ht]
    exact ⟨_, _, _, SessionM.perform_ok (SessionM.bind_ok hcall _), .rollback ht⟩
  | statements | contains | size | evaluate | graphNames | namespaces | namespaceOf => cases ha
  | add | remove | bindLabel | unbindLabel | unbindAll => cases hw

end Calls

end Session

/-- A store and the sessions that share it, by name. -/
structure Sharing (ι : Type) where
  /-- the store -/
  store : Store
  /-- the session of each name -/
  sessions : ι → Session

/-- Something that happens to sessions that share a store. -/
inductive Happening (ι : Type) where
  /-- something is asked of a session -/
  | request (i : ι) (req : SessionRequest)
  /-- a statement is put into the store directly -/
  | insert (s : Statement)
  /-- the next native prepare is to fail -/
  | failPrepare
  /-- the next native commit is to fail -/
  | failCommit
  deriving DecidableEq

/-- Something that happened, and what was answered. -/
structure Entry (ι : Type) where
  /-- what happened -/
  what : Happening ι
  /-- what was answered -/
  answer : Except StoreError Answer

namespace Sharing

variable {ι : Type} [DecidableEq ι]

/-- A store whose sessions have done nothing yet. -/
def fresh (st : Store) : Sharing ι := ⟨st, fun _ => .new⟩

/-- What a happening is answered, and what becomes of the sessions and the store. -/
def step (x : Sharing ι) : Happening ι → Except StoreError Answer × Sharing ι
  | .request i req =>
    let (r, s, st) := req.call.perform (x.sessions i, x.store)
    (r, ⟨st, Function.update x.sessions i s⟩)
  | .insert s => (.ok .none, { x with store := x.store.insert s })
  | .failPrepare => (.ok .none, { x with store := { x.store with failPrepare := true } })
  | .failCommit => (.ok .none, { x with store := { x.store with failCommit := true } })

/-- What happenings make of the sessions and the store, one after the other. -/
def after (x : Sharing ι) (hs : List (Happening ι)) : Sharing ι :=
  hs.foldl (fun x h => (x.step h).2) x

/-- What happenings are answered, one after the other. -/
def log (x : Sharing ι) : List (Happening ι) → List (Entry ι)
  | [] => []
  | h :: hs => ⟨h, (x.step h).1⟩ :: (x.step h).2.log hs

section Runs

variable (x : Sharing ι)

@[simp] theorem after_nil : x.after [] = x := rfl

@[simp] theorem log_nil : x.log [] = [] := rfl

theorem after_append (hs hs' : List (Happening ι)) :
    x.after (hs ++ hs') = (x.after hs).after hs' := List.foldl_append

theorem after_snoc (hs : List (Happening ι)) (h : Happening ι) :
    x.after (hs ++ [h]) = ((x.after hs).step h).2 := x.after_append hs [h]

theorem log_append (hs hs' : List (Happening ι)) :
    x.log (hs ++ hs') = x.log hs ++ (x.after hs).log hs' := by
  induction hs generalizing x with
  | nil => rfl
  | cons h hs ih => exact congrArg _ (ih _)

theorem log_snoc (hs : List (Happening ι)) (h : Happening ι) :
    x.log (hs ++ [h]) = x.log hs ++ [⟨h, ((x.after hs).step h).1⟩] := x.log_append hs [h]

/-- A request changes one session, and that as the session does by itself. -/
theorem step_request (i : ι) (req : SessionRequest) : ∃ r s st,
    x.step (.request i req) = (r, ⟨st, Function.update x.sessions i s⟩) ∧
      (x.sessions i).Does x.store req r s st := by
  obtain ⟨r, s, st, hcall, hdoes⟩ := Session.does_call (x.sessions i) x.store req
  exact ⟨r, s, st, by rw [step, hcall], hdoes⟩

variable {x} in
/-- A read is answered from what its session sees, and has no effect. -/
theorem step_read {i : ι} {req : SessionRequest} {a : Answer}
    (h : req.readIn? ((x.sessions i).visible x.store) = some a) :
    x.step (.request i req) = (.ok a, x) := by
  rw [step, SessionM.perform_ok (Session.call_read h)]
  change (_, Sharing.mk x.store (Function.update x.sessions i (x.sessions i))) = _
  rw [Function.update_eq_self]

variable {x} in
/-- A write that its session does not refuse is answered. -/
theorem step_write {i : ι} {req : SessionRequest} {w : Write} (hw : req.write? = some w)
    (h : (x.sessions i).refusal? req = none) : ∃ a, (x.step (.request i req)).1 = .ok a := by
  rw [step, SessionM.perform_ok (Session.call_write x.store hw h).2]
  exact ⟨_, rfl⟩

variable {x} in
theorem does_of_step {i : ι} {req : SessionRequest} {r : Except StoreError Answer}
    {next : Sharing ι} (h : x.step (.request i req) = (r, next)) :
    (x.sessions i).Does x.store req r (next.sessions i) next.store := by
  obtain ⟨r', s, st, hstep, hdoes⟩ := x.step_request i req
  obtain ⟨rfl, rfl⟩ := Prod.mk.inj (h.symm.trans hstep)
  simpa only [Function.update_self] using hdoes

/-- What happens elsewhere leaves a session as it is. -/
theorem step_sessions {i : ι} {e : Happening ι} (h : ∀ req, e ≠ .request i req) :
    (x.step e).2.sessions i = x.sessions i := by
  cases e with
  | request j req =>
    obtain ⟨r, s, st, hstep, -⟩ := x.step_request j req
    have hj : i ≠ j := fun heq => h req (by rw [heq])
    rw [hstep]
    exact Function.update_of_ne hj _ _
  | insert | failPrepare | failCommit => rfl

end Runs

end Sharing

end QuadTxn
