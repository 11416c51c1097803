import QuadTxn.Proofs.Retries.Standing

/-!
# Attempts

An attempt to run a transaction is made of requests of one connection: it begins, the work is done,
and then it is committed or rolled back. Work is a tree of requests (`Script`), each of which may
depend on what was answered before. What has happened in an attempt is kept with it (`Attempt`), and
an attempt is in order (`Attempt.Sound`) if it was counted once as started and once as committed or
aborted, and nothing but its commit has changed what is committed.
-/

namespace QuadTxn

/-! ## Steps of an attempt -/

/-- What became of a call that did not wait. -/
def Progress.of {α : Type} : Except TxnError α → Progress α
  | .ok a => .answered a
  | .error e => .failed e

/-- A request of a connection, and what it has counted. -/
structure Transition.Counts (id : ConnectionId) (req : Request) (started committed aborted : Nat)
    (t : Transition) : Prop where
  /-- the request -/
  occurrence : t.occurrence = .request id req
  /-- transactions that were started -/
  started : t.after.coordinator.started = t.before.coordinator.started + started
  /-- transactions that were committed -/
  committed : t.after.coordinator.committed = t.before.coordinator.committed + committed
  /-- transactions that ended otherwise -/
  aborted : t.after.coordinator.aborted = t.before.coordinator.aborted + aborted

/-- What is committed is as it was. -/
def Transition.Keeps (t : Transition) : Prop := t.after.store.contents = t.before.store.contents

namespace System

section Steps

variable {sys sys' : System Session} {id : ConnectionId} {req : Request}
  {r : Except TxnError Answer}

/-- A request reaches the milestones that it is made for. -/
theorem reaches_of_step (hname : (sys.connection id).id = id)
    (hs : Step sys (.request id req) r sys') :
    sys.Reaches id (Episode.milestones ⟨sys, .made id req, .of r, sys'⟩) sys' := by
  have hd : (handle id req sys).done? = some (r, sys') := hs.2
  -- no call waits in a schedule that only holds this system
  have hcourse : OnCourse (fun _ => .begin) (⟨sys, []⟩ : Schedule (System Session) Answer) :=
    fun _ he => (nomatch he)
  obtain ⟨-, hreaches⟩ := hcourse.call hname rfl req
  rw [call_eq rfl] at hreaches
  rcases ho : handle id req sys with ⟨a, st⟩ | ⟨e, st⟩ | ⟨mid, mode, resume⟩
  · rw [ho] at hd hreaches
    obtain ⟨rfl, rfl⟩ := Prod.mk.inj (Option.some.inj hd)
    exact hreaches
  · rw [ho] at hd hreaches
    obtain ⟨rfl, rfl⟩ := Prod.mk.inj (Option.some.inj hd)
    exact hreaches
  · rw [ho] at hd
    cases hd

/-- What a request counts, by what becomes of the transaction. -/
theorem counts_of_step (h : sys.Coherent) {active active' : Bool}
    (hact : (sys.connection id).isActive = active)
    (hact' : (sys'.connection id).isActive = active') (hs : Step sys (.request id req) r sys') :
    Transition.Counts id req (req.begins active).toNat (req.commits active (.of r)).toNat
      ((active || req.begins active) && !active' && !req.commits active (.of r)).toNat
      ⟨sys, .request id req, r, sys'⟩ := by
  have hslot := (h.frame id).slot
  rw [show (sys.frame id).self.id = id from h.name id] at hslot
  have hcounted : Episode.Counted ⟨sys, .made id req, .of r, sys'⟩ :=
    Episode.counted rfl (reaches_of_step (h.name id) hs) hslot
  subst hact hact'
  exact ⟨rfl, hcounted.started, hcounted.committed, hcounted.aborted⟩

/-- Only a commit changes what is committed. -/
theorem keeps_of_step (h : sys.Coherent) (hs : Step sys (.request id req) r sys')
    (hreq : req ≠ .commit) :
    Transition.Keeps ⟨sys, .request id req, r, sys'⟩ := by
  refine contents_of_other (effect_of_step h hs) (fun _ => nofun) fun j heq => hreq ?_
  exact (Occurrence.request.inj heq).2

/-- A transaction that cannot begin has not been admitted in time. -/
theorem begin_counts (h : sys.Coherent) (hidle : (sys.connection id).isActive = false)
    (hs : Step sys (.request id .begin) r sys') :
    (r = .ok .none ∧ (sys'.connection id).isActive = true ∧
        Transition.Counts id .begin 1 0 0 ⟨sys, .request id .begin, r, sys'⟩) ∨
      ∃ ms, r = .error (.lockTimeout ms) ∧ (sys'.connection id).isActive = false ∧
        Transition.Counts id .begin 1 0 1 ⟨sys, .request id .begin, r, sys'⟩ := by
  have hcases : (r = .ok .none ∧ (sys'.connection id).isActive = true) ∨
      ∃ ms, r = .error (.lockTimeout ms) ∧ (sys'.connection id).isActive = false := by
    cases effect_of_step h hs with
    | move _ hm =>
      rw [connection_setFrame_self]
      cases hm with
      | refused hr =>
        obtain ⟨hact, -⟩ := Option.ite_none_right_eq_some.mp hr
        cases hidle.symm.trans hact
      | beginStaged => exact .inl ⟨rfl, rfl⟩
      | beginDirect => exact .inl ⟨rfl, rfl⟩
      | beginTimeout => exact .inr ⟨_, rfl, rfl⟩
      | flags hi => cases hi
      | switch hswitches => cases hswitches.1
      | switchTimeout hswitches => cases hswitches.1
      | statements hon => cases hon
      | binding hb => cases hb
  rcases hcases with ⟨rfl, hact⟩ | ⟨ms, rfl, hact⟩
  · exact .inl ⟨rfl, hact, counts_of_step h hidle hact hs⟩
  · exact .inr ⟨ms, rfl, hact, counts_of_step h hidle hact hs⟩

/-- A transaction goes on when something is asked in it. -/
theorem ask_counts (h : sys.Coherent) (hact : (sys.connection id).isActive = true)
    (hreq : req.delimits = false) (hs : Step sys (.request id req) r sys') :
    (sys'.connection id).isActive = true ∧
      Transition.Counts id req 0 0 0 ⟨sys, .request id req, r, sys'⟩ := by
  have hreaches := reaches_of_step (h.name id) hs
  have hms : Episode.milestones ⟨sys, .made id req, .of r, sys'⟩ = [] := by
    rw [Episode.milestones]
    dsimp only
    rw [Request.opening_of_not_delimits hreq]
    exact Request.milestones_of_not_delimits hreq
  rw [hms] at hreaches
  exact ⟨hreaches.active_self.trans hact, rfl, hreaches.books.started, hreaches.books.committed,
    hreaches.books.aborted⟩

/-- A transaction that is rolled back has ended. -/
theorem rollback_counts (h : sys.Coherent) (hact : (sys.connection id).isActive = true)
    (hs : Step sys (.request id .rollback) r sys') :
    r = .ok .none ∧ (sys'.connection id).isActive = false ∧
      Transition.Counts id .rollback 0 0 1 ⟨sys, .request id .rollback, r, sys'⟩ := by
  have hended : r = .ok .none ∧ (sys'.connection id).isActive = false := by
    cases effect_of_step h hs with
    | move _ hm =>
      have hframe : (sys.frame id).self.isActive = true := hact
      obtain ⟨rfl, rfl⟩ := hm.of_rollback
      rw [connection_setFrame_self, if_pos hframe]
      exact ⟨rfl, rfl⟩
  exact ⟨hended.1, hended.2, counts_of_step h hact hended.2 hs⟩

/-- A transaction that is to be committed has ended; where that fails, nothing is committed. -/
theorem commit_counts (h : sys.Coherent) (hact : (sys.connection id).isActive = true)
    (hs : Step sys (.request id .commit) r sys') :
    (sys'.connection id).isActive = false ∧
      ((r = .ok .none ∧
          Transition.Counts id .commit 0 1 0 ⟨sys, .request id .commit, r, sys'⟩) ∨
        ∃ e, r = .error e ∧ Transition.Keeps ⟨sys, .request id .commit, r, sys'⟩ ∧
          Transition.Counts id .commit 0 0 1 ⟨sys, .request id .commit, r, sys'⟩) := by
  have hended : (sys'.connection id).isActive = false ∧
      (r = .ok .none ∨ ∃ e, r = .error e ∧ sys'.store.contents = sys.store.contents) := by
    cases effect_of_step h hs with
    | move hreq => exact absurd rfl hreq
    | commitFails hc =>
      rw [connection_setFrame_self]
      refine ⟨?_, .inr ⟨_, rfl, hc.error_contents⟩⟩
      simp [Connection.isActive, hc.error_idle]
    | commitSkips hinactive => cases hinactive.symm.trans hact
    | commit _ hc =>
      rw [connection_commit h hc, connection_setFrame_self]
      obtain ⟨-, c, hself⟩ := hc.done_self
      rw [hself]
      exact ⟨rfl, .inl rfl⟩
  obtain ⟨hinactive, rfl | ⟨e, rfl, hcontents⟩⟩ := hended
  · exact ⟨hinactive, .inl ⟨rfl, counts_of_step h hact hinactive hs⟩⟩
  · exact ⟨hinactive, .inr ⟨e, rfl, hcontents, counts_of_step h hact hinactive hs⟩⟩

end Steps

end System

/-! ## Work and attempts -/

/-- Work on a connection: what it comes to, or a request, and what is done next, which depends on
what became of the request. -/
inductive Script (α : Type) where
  /-- the work is over -/
  | done (r : Except TxnError α)
  /-- a request is made -/
  | ask (req : Request) (next : Except TxnError Answer → Script α)

namespace Script

variable {α : Type}

/-- The work neither begins nor prepares nor ends a transaction. -/
def Plain : Script α → Prop
  | .done _ => True
  | .ask req next => req.delimits = false ∧ ∀ r, (next r).Plain

/-- The requests of the work have been made one after the other, none of them has changed what is
committed, nor was anything counted, and it has come to a result. -/
inductive Made (id : ConnectionId) : Script α → List Transition → Except TxnError α → Prop where
  /-- the work is over -/
  | done (r : Except TxnError α) : Made id (.done r) [] r
  /-- a request was made first -/
  | ask {req : Request} {next : Except TxnError Answer → Script α} {t : Transition}
      {ts : List Transition} {r : Except TxnError α} : t.Counts id req 0 0 0 → t.Keeps →
      Made id (next t.result) ts r → Made id (.ask req next) (t :: ts) r

theorem Made.keeps {id : ConnectionId} {script : Script α} {ts : List Transition}
    {r : Except TxnError α} (h : Made id script ts r) : ∀ t ∈ ts, t.Keeps := by
  induction h with
  | done => exact fun _ ht => (nomatch ht)
  | ask _ hkeeps _ ih => exact List.forall_mem_cons.mpr ⟨hkeeps, ih⟩

end Script

/-- What has happened in an attempt to run a transaction. -/
inductive Attempt (α : Type) where
  /-- the transaction could not begin -/
  | unbegun (begin : Transition) (e : TxnError)
  /-- the work has failed, and the transaction was rolled back -/
  | failed (begin : Transition) (asked : List Transition) (e : TxnError) (rollback : Transition)
  /-- the work was done, but could not be committed -/
  | uncommitted (begin : Transition) (asked : List Transition) (a : α) (commit : Transition)
      (e : TxnError)
  /-- the work was done and committed -/
  | committed (begin : Transition) (asked : List Transition) (a : α) (commit : Transition)

namespace Attempt

variable {α : Type}

/-- The steps of the connection. -/
def steps : Attempt α → List Transition
  | .unbegun b _ => [b]
  | .failed b asked _ c | .uncommitted b asked _ c _ | .committed b asked _ c => b :: asked ++ [c]

/-- What the work came to, if it was done. -/
def returned : Attempt α → List (Except TxnError α)
  | .unbegun .. => []
  | .failed _ _ e _ => [.error e]
  | .uncommitted _ _ a _ _ | .committed _ _ a _ => [.ok a]

/-- What the attempt came to. -/
def result : Attempt α → Except TxnError α
  | .unbegun _ e | .failed _ _ e _ | .uncommitted _ _ _ _ e => .error e
  | .committed _ _ a _ => .ok a

/-- The transaction has begun and was counted as started, and the work has come to a result. -/
structure Begun (id : ConnectionId) (script : Script α) (b : Transition) (asked : List Transition)
    (r : Except TxnError α) : Prop where
  /-- the transaction was counted -/
  counts : b.Counts id .begin 1 0 0
  /-- nothing was committed -/
  keeps : b.Keeps
  /-- it was answered -/
  result : b.result = .ok .none
  /-- the work was done -/
  made : script.Made id asked r

/-- The attempt was counted as started, and once as committed or aborted. Nothing has changed what
is committed but its commit, which does just the writes that the work has asked for. -/
def Sound (id : ConnectionId) (script : Script α) : Attempt α → Prop
  | .unbegun b e => b.Counts id .begin 1 0 1 ∧ b.Keeps ∧ b.result = .error e ∧ e.isConflict = false
  | .failed b asked e c => Begun id script b asked (.error e) ∧
      c.Counts id .rollback 0 0 1 ∧ c.Keeps ∧ c.result = .ok .none
  | .uncommitted b asked a c e => Begun id script b asked (.ok a) ∧
      c.Counts id .commit 0 0 1 ∧ c.Keeps ∧ c.result = .error e
  | .committed b asked a c => Begun id script b asked (.ok a) ∧
      c.Counts id .commit 0 1 0 ∧ c.result = .ok .none ∧
      c.after.store.contents =
        ⟨c.before.store.contents.statements.replay (Transition.log id asked),
          c.before.store.contents.namespaces.replay (Transition.bindings id asked)⟩

theorem Begun.forall_keeps {id : ConnectionId} {script : Script α} {b : Transition}
    {asked : List Transition} {r : Except TxnError α} (h : Begun id script b asked r) :
    ∀ t ∈ b :: asked, t.Keeps :=
  List.forall_mem_cons.mpr ⟨h.keeps, h.made.keeps⟩

/-- An attempt that has come to an error has committed nothing. -/
theorem Sound.keeps {id : ConnectionId} {script : Script α} {a : Attempt α} (h : a.Sound id script)
    {e : TxnError} (he : a.result = .error e) : ∀ t ∈ a.steps, t.Keeps := by
  cases a with
  | unbegun b e' => exact List.forall_mem_singleton.mpr h.2.1
  | failed b asked e' c =>
    exact List.forall_mem_append.mpr ⟨h.1.forall_keeps, List.forall_mem_singleton.mpr h.2.2.1⟩
  | uncommitted b asked a c e' =>
    exact List.forall_mem_append.mpr ⟨h.1.forall_keeps, List.forall_mem_singleton.mpr h.2.2.1⟩
  | committed => cases he

/-- The work has ended in a conflict, or what it has done could not be committed because of one. -/
def Conflicts : Attempt α → Prop
  | .failed _ _ e _ | .uncommitted _ _ _ _ e => e.isConflict = true
  | _ => False

theorem Sound.conflicts {id : ConnectionId} {script : Script α} {a : Attempt α}
    (h : a.Sound id script) {e : TxnError} (he : a.result = .error e)
    (hconflict : e.isConflict = true) : a.Conflicts := by
  cases a with
  | unbegun b e' =>
    obtain rfl := Except.error.inj he
    cases h.2.2.2.symm.trans hconflict
  | failed b asked e' c =>
    obtain rfl := Except.error.inj he
    exact hconflict
  | uncommitted b asked a c e' =>
    obtain rfl := Except.error.inj he
    exact hconflict
  | committed => cases he

theorem Conflicts.result {a : Attempt α} (h : a.Conflicts) :
    ∃ e, a.result = .error e ∧ e.isConflict = true := by
  cases a with
  | failed b asked e c => exact ⟨e, rfl, h⟩
  | uncommitted b asked a c e => exact ⟨e, rfl, h⟩
  | unbegun | committed => exact h.elim

theorem length_returned_le (a : Attempt α) : a.returned.length ≤ 1 := by
  cases a with
  | unbegun => exact Nat.zero_le 1
  | failed | uncommitted | committed => exact Nat.le_refl 1

end Attempt

end QuadTxn
