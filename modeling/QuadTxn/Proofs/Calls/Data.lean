import QuadTxn.Proofs.Calls.Frames

/-!
# Requests on statements, as calls

A request on statements that is not refused and need not wait for the gate answers what it means on
the statements that the connection sees, registers its read, and does its writes one after the other
(`Frame.perform_eq`).
-/

namespace QuadTxn

namespace Frame

/-! ## Reads -/

section Admitted

variable {σ : Type}

/-- The gate lets the connection read: it is free of writers, or the connection is the writer. -/
def Admitted (st : Frame σ) : Prop :=
  st.coordinator.gate.writer = none ∨ st.coordinator.gate.writer = some st.self.id

/-- The connection can read without waiting. -/
def CanRead (st : Frame σ) : Prop := st.self.isActive = true → st.Admitted

/-- A read is registered, if the isolation asks for it. -/
def observe (st : Frame σ) (r : Read) : Frame σ :=
  st.update fun c => if c.isolation.snapshot then { c with ledger := c.ledger.observe r } else c

theorem acquire_shared_eq {st : Frame σ} (h : st.coordinator.gate.writer = none)
    (timeout : Option Nat) :
    Call.acquire .shared timeout st = .ok ⟨⟩
      { st with coordinator :=
        { st.coordinator with gate := st.coordinator.gate.hold st.self.id .shared } } := by
  simp [Call.acquire, Gate.request, Gate.admits, h]

variable {α : Type} {answer : Call σ α} {a : α} {f : Connection σ → Connection σ} {st : Frame σ}

/-- A tracked answer that does not depend on the coordinator is given as it is, and its read is
registered. -/
theorem tracked_eq
    (h : ∀ k, answer { st with coordinator := k } = .ok a (update f { st with coordinator := k }))
    (hid : (f st.self).id = st.self.id) (hadm : st.Admitted) (r : Read) :
    Connection.tracked r answer st = .ok a ((st.update f).observe r) := by
  have hobs : ∀ st' : Frame σ, Connection.observe r st' = .ok ⟨⟩ (st'.observe r) := fun _ => rfl
  by_cases hw : st.coordinator.gate.writer = some st.self.id
  · -- the writer need not ask the gate
    have hheld : Call.holdsGate st = true := by simp [Call.holdsGate, hw]
    simp [Connection.tracked, hheld, h st.coordinator, hobs]
  · -- the gate is taken for the answer and given back, so that it is as it was
    have hfree : st.coordinator.gate.writer = none := hadm.resolve_right hw
    have hheld : Call.holdsGate st = false := by simp [Call.holdsGate, hfree]
    simp [Connection.tracked, hheld, Call.shared, acquire_shared_eq hfree, h, hobs, Call.release,
      update, hid, Gate.hold, Gate.release]

/-- Inside a transaction an answer is tracked, outside it is given at once. -/
theorem reading_eq
    (h : ∀ k, answer { st with coordinator := k } = .ok a (update f { st with coordinator := k }))
    (hid : (f st.self).id = st.self.id) (hread : st.CanRead) (r : Read) :
    Connection.reading r answer st =
      .ok a (if st.self.isActive then (st.update f).observe r else st.update f) := by
  rcases hact : st.self.isActive with _ | _
  · simp [Connection.reading, hact, h st.coordinator]
  · simp [Connection.reading, hact, tracked_eq h hid (hread hact)]

end Admitted

theorem view_answers (st : Frame Session) (p : Pattern) (inferred : Bool) :
    (st.self.staging.onTopOf (fun p => Backend.statements p inferred) p :
      SessionM Session (List Statement)).Answers (st.self.session, st.store)
      (st.seen.select p) :=
  Staging.onTopOf_answers (fun _ => Session.read_answers _ _ _) _ p

@[simp] theorem view_eq (st : Frame Session) (p : Pattern) (inferred : Bool) :
    Connection.view p inferred st = .ok (st.seen.select p) st := by
  simp [Connection.view, native_answers (view_answers st p inferred)]

/-- A query that is answered with staged writes is reported. -/
def merged (st : Frame Session) (req : Request) : Frame Session :=
  match req with
  | .evaluate q _ _ _ =>
    if st.self.staging.hasChanges then
      st.update fun c => { c with events := c.events ++ [.merged q] }
    else st
  | _ => st

/-- The read of a request has been done, and is registered if a transaction runs. -/
def noted (st : Frame Session) (req : Request) : Frame Session :=
  match req.read? with
  | some r => if st.self.isActive then (st.merged req).observe r else st.merged req
  | none => st

theorem merged_eq (st : Frame Session) (req : Request) : ∃ events,
    st.merged req = st.update (fun c => { c with events := c.events ++ events }) ∧
      ∀ e ∈ events, ∃ q, e = .merged q := by
  have hsame : st = st.update fun c => { c with events := c.events ++ [] } := by
    simp [update]
  have hnone : ∀ e ∈ ([] : List Event), ∃ q, e = .merged q := by simp
  cases req with
  | evaluate q d b inferred =>
    rcases hchanges : st.self.staging.hasChanges with _ | _
    · exact ⟨[], by simpa [merged, hchanges] using hsame, hnone⟩
    · exact ⟨[.merged q], by simp [merged, hchanges], by simp⟩
  | _ => exact ⟨[], hsame, hnone⟩

/-- Noting a read at most adds it to the ledger, where a transaction tracks its reads, and reports a
query. -/
theorem noted_eq (st : Frame Session) (req : Request) : ∃ ledger events,
    st.noted req =
        st.update (fun c => { c with ledger := ledger, events := c.events ++ events }) ∧
      (∀ e ∈ events, ∃ q, e = .merged q) ∧
      (st.self.isActive = true →
        ledger = (if st.self.isolation.snapshot then req.read? else none).elim st.self.ledger
          st.self.ledger.observe) := by
  obtain ⟨events, hmerged, hevents⟩ := merged_eq st req
  rcases hread : req.read? with _ | r
  · exact ⟨st.self.ledger, [], by simp [noted, hread, update], by simp, fun _ => by simp⟩
  · rcases hact : st.self.isActive with _ | _
    · exact ⟨st.self.ledger, events, by simp [noted, hread, hact, hmerged, update], hevents,
        fun hfalse => absurd hfalse Bool.false_ne_true⟩
    · rcases hsnap : st.self.isolation.snapshot with _ | _
      · exact ⟨st.self.ledger, events,
          by simp [noted, hread, hact, hmerged, observe, update, hsnap], hevents, fun _ => rfl⟩
      · exact ⟨st.self.ledger.observe r, events,
          by simp [noted, hread, hact, hmerged, observe, update, hsnap], hevents, fun _ => rfl⟩

/-! ## Writes -/

/-- The listeners of the connection are told of a write, if it is one of a statement. -/
def report (st : Frame Session) (w : Write) : Frame Session :=
  st.update fun c => { c with events := c.events ++ w.events c.listeners }

/-- One write is done: in the native transaction if the transaction is direct, else it is staged. -/
def write (kind : BatchKind) (st : Frame Session) (w : Write) : Frame Session :=
  (if st.self.phase = .direct then st.writeNative w else st.update (·.stage kind w)).report w

/-- A request on statements is done: its read is noted, and its writes follow. -/
def perform (st : Frame Session) (req : Request) : Frame Session :=
  (req.writesIn st.seen).foldl (write req.batch) (st.noted req)

/-- A direct transaction has a native transaction that takes writes. -/
def Ready (st : Frame Session) : Prop := st.self.phase = .direct → st.self.session.Open

theorem Ready.write {st : Frame Session} (h : st.Ready) (kind : BatchKind) (w : Write) :
    (st.write kind w).Ready := by
  rw [Frame.write]
  split
  · rename_i hp
    exact fun _ => writeNative_open (h hp) w
  · rename_i hp
    cases w <;> exact fun hp' => absurd hp' hp

theorem addOne_eq {st : Frame Session} (h : st.Ready) (kind : BatchKind) {s : Statement}
    (hs : s.WellFormed) : Connection.addOne kind s st = .ok ⟨⟩ (st.write kind (.add s)) := by
  by_cases hd : st.self.phase = .direct
  · simp [Connection.addOne, Connection.isDirect, Connection.notify, write, hd,
      storeAdd_eq (h hd) hs]
    rfl
  · simp [Connection.addOne, Connection.isDirect, Connection.notify, write, hd]
    rfl

theorem removeOne_eq {st : Frame Session} (h : st.Ready) (kind : BatchKind) (s : Statement) :
    Connection.removeOne kind s st = .ok ⟨⟩ (st.write kind (.remove s)) := by
  by_cases hd : st.self.phase = .direct
  · simp [Connection.removeOne, Connection.isDirect, Connection.notify, write, hd,
      storeRemove_eq (h hd) s]
    rfl
  · simp [Connection.removeOne, Connection.isDirect, Connection.notify, write, hd]
    rfl

/-- Why the connection takes no write, if it takes none. -/
def unwritable? {σ : Type} (st : Frame σ) : Option TxnError :=
  match st.self.phase with
  | .idle => some .notActive
  | .prepared => some .prepared
  | .staging | .direct => none

theorem isActive_of_writable {σ : Type} {st : Frame σ} (hw : st.unwritable? = none) :
    st.self.isActive = true := by
  rcases hp : st.self.phase with _ | _ | _ | _
  · simp [unwritable?, hp] at hw
  · simp [Connection.isActive, hp]
  · simp [Connection.isActive, hp]
  · simp [unwritable?, hp] at hw

/-- A running transaction that takes no write is prepared. -/
theorem prepared_of_unwritable {σ : Type} {st : Frame σ} (hact : st.self.isActive = true)
    (hw : st.unwritable? ≠ none) : st.self.phase = .prepared := by
  rcases hp : st.self.phase with _ | _ | _ | _
  · simp [Connection.isActive, hp] at hact
  · simp [unwritable?, hp] at hw
  · simp [unwritable?, hp] at hw
  · rfl

theorem checkWritable_eq {σ : Type} (st : Frame σ) :
    Connection.checkWritable st =
      match st.unwritable? with
      | some e => .error e st
      | none => .ok ⟨⟩ st := by
  simp only [Connection.checkWritable, unwritable?, Action.bind_apply, Call.self_apply,
    Outcome.bind_ok]
  cases st.self.phase <;> rfl

theorem Ready.noted {st : Frame Session} (h : st.Ready) (req : Request) : (st.noted req).Ready := by
  obtain ⟨ledger, events, hnoted, -⟩ := noted_eq st req
  rw [hnoted]
  exact h

theorem add_eq {st : Frame Session} (h : st.Ready) (hw : st.unwritable? = none)
    {kind : BatchKind} {subject predicate object : Term} {graphs : List GraphName}
    (hm : Request.malformation? subject predicate = none) :
    Connection.add kind subject predicate object graphs st =
      .ok ⟨⟩ (st.perform (.add kind subject predicate object graphs)) := by
  obtain ⟨hs, hp⟩ := Request.wellFormed_of_malformation hm
  have hperform : st.perform (.add kind subject predicate object graphs) =
      (Request.add kind subject predicate object graphs).additions.foldl
        (fun st s => st.write kind (.add s)) st := by
    rw [perform, Request.writesIn]
    exact (congrArg (List.foldl _ _) (List.append_nil _)).trans List.foldl_map
  rw [hperform]
  simp only [Connection.add, hs, hp, checkWritable_eq, hw, Action.bind_apply, Outcome.bind_ok,
    Bool.not_true, Bool.false_eq_true, if_false]
  refine Action.forM_eq (P := Ready) (fun s hmem st' hst' => ?_) h
  have hwf : s.WellFormed := Request.wellFormed_of_mem_additions
    (show (Request.add kind subject predicate object graphs).malformed? = none from hm) hmem
  exact ⟨addOne_eq hst' kind hwf, hst'.write kind _⟩

theorem remove_eq {st : Frame Session} (h : st.Ready) (hw : st.unwritable? = none)
    (hread : st.CanRead) (kind : BatchKind) (p : Pattern) :
    Connection.remove kind p st =
      .ok (st.seen.select p).length (st.perform (.remove kind p)) := by
  have hactive := isActive_of_writable hw
  have hnoted : st.noted (.remove kind p) = st.observe (.ofPattern p false) := by
    simp [noted, merged, Request.read?, hactive]
  have hperform : st.perform (.remove kind p) = (st.seen.select p).foldl
      (fun st s => st.write kind (.remove s)) (st.noted (.remove kind p)) := by
    rw [perform, Request.writesIn]
    exact List.foldl_map
  have htracked : Connection.tracked (.ofPattern p false) (Connection.view p false) st =
      .ok (st.seen.select p) (st.noted (.remove kind p)) := by
    rw [hnoted]
    exact tracked_eq (f := id) (fun k => view_eq _ p false) rfl (hread hactive) _
  have hforM : (forM (st.seen.select p) (Connection.removeOne kind) : Call Session PUnit)
      (st.noted (.remove kind p)) = .ok ⟨⟩ (st.perform (.remove kind p)) := by
    rw [hperform]
    refine Action.forM_eq (P := Ready) (fun s _ st' hst' => ?_) (h.noted _)
    exact ⟨removeOne_eq hst' kind s, hst'.write kind _⟩
  simp [Connection.remove, checkWritable_eq, hw, htracked, hforM]

/-! ## Requests on statements -/

/-- A request that only reads is done when its read is noted. -/
theorem perform_read {st : Frame Session} {req : Request} (h : req.writesIn st.seen = []) :
    st.perform req = st.noted req := by
  rw [perform, h]
  rfl

theorem getStatements_eq {st : Frame Session} (hread : st.CanRead) (p : Pattern)
    (inferred : Bool) :
    Connection.getStatements p inferred st =
      .ok (st.seen.select p) (st.noted (.getStatements p inferred)) :=
  reading_eq (f := id) (fun _ => view_eq _ p inferred) rfl hread _

theorem hasStatement_eq {st : Frame Session} (hread : st.CanRead) (p : Pattern)
    (inferred : Bool) :
    Connection.hasStatement p inferred st =
      .ok (st.seen.anySelected p) (st.noted (.hasStatement p inferred)) := by
  refine reading_eq (f := id) (fun k => ?_) rfl hread _
  rw [Model.anySelected_eq]
  simp only [Action.bind_apply, view_eq, Outcome.bind_ok]
  rfl

theorem size_eq {st : Frame Session} (hread : st.CanRead) (graphs : List GraphName) :
    Connection.size graphs st =
      .ok (st.seen.select (.within graphs)).length (st.noted (.size graphs)) := by
  refine reading_eq (f := id) (fun k => ?_) rfl hread _
  simp only [Action.bind_apply, view_eq, Outcome.bind_ok]
  rfl

/-- The graphs of the store and those that are added to are listed, if the connection sees a
statement in them. -/
theorem graphNames_found {st : Frame Session} (hread : st.CanRead) :
    Connection.graphNames st =
      .ok (st.self.graphs.found st.visible.statements.namedGraphs.toList fun graph =>
        st.seen.anySelected (.within [some graph])) (st.noted .graphNames) := by
  refine reading_eq (f := id) (fun k => ?_) rfl hread _
  simp only [Action.bind_apply, Call.self_apply, Outcome.bind_ok]
  refine native_answers (SessionM.Answers.bind (Session.read_answers _ _ _) ?_)
  refine GraphOverlay.resolve_answers (fun graph => ?_) _ _
  rw [Model.anySelected_eq]
  exact SessionM.Answers.bind (view_answers st _ false) (SessionM.Answers.pure _ _)

theorem graphNames_eq {st : Frame Session} (hread : st.CanRead)
    (hcov : st.self.graphs.Covers st.self.staging) :
    Connection.graphNames st = .ok st.seen.namedGraphs.toList (st.noted .graphNames) := by
  rw [graphNames_found hread, seen, GraphOverlay.found_of_covers hcov]

theorem evaluate_eq {st : Frame Session} (hread : st.CanRead) (q : Query) (d : Dataset)
    (b : Bindings) (inferred : Bool) :
    Connection.evaluate q d b inferred st =
      .ok (st.seen.solutions q d b) (st.noted (.evaluate q d b inferred)) := by
  rcases hchanges : st.self.staging.hasChanges with _ | _
  · -- nothing is staged, so that the store alone answers, and nothing is reported
    have hnoted : st.noted (.evaluate q d b inferred) =
        if st.self.isActive then (st.update id).observe (.ofQuery q d b inferred)
        else st.update id := by
      simp [noted, Request.read?, merged, hchanges]
      rfl
    rw [hnoted]
    refine reading_eq (f := id) (fun k => ?_) rfl hread _
    have hseen : st.seen = st.visible.statements := Staging.onto_of_not_hasChanges hchanges _
    simp only [Action.bind_apply, Call.self_apply, Outcome.bind_ok, hchanges, Bool.false_eq_true,
      if_false, hseen]
    exact native_answers (Query.evaluate_answers (fun _ => Session.read_answers _ _ _) q d b)
  · let report : Connection Session → Connection Session :=
      fun c => { c with events := c.events ++ [.merged q] }
    have hnoted : st.noted (.evaluate q d b inferred) =
        if st.self.isActive then (st.update report).observe (.ofQuery q d b inferred)
        else st.update report := by
      simp [noted, Request.read?, merged, hchanges, report]
    rw [hnoted]
    refine reading_eq (f := report) (fun k => ?_) rfl hread _
    simp only [Action.bind_apply, Call.self_apply, Call.update_apply, Outcome.bind_ok, hchanges,
      if_true]
    exact native_answers (Query.evaluate_answers (fun p => view_answers st p inferred) q d b)

/-- A request on statements that is not refused and need not wait answers what it means on the
statements that the connection sees. -/
theorem perform_eq {st : Frame Session} {req : Request} (hreq : req.onStatements = true)
    (hmal : req.malformed? = none) (hw : req.isWrite = true → st.unwritable? = none)
    (hread : req.read?.isSome = true → st.CanRead) (hready : st.Ready)
    (hcov : req = .graphNames → st.self.graphs.Covers st.self.staging) :
    req.call st = .ok (req.answerIn st.seen) (st.perform req) := by
  cases req with
  | add kind subject predicate object graphs =>
    simp [Request.call, add_eq hready (hw rfl) hmal, Request.answerIn]
  | addStatement s =>
    simp [Request.call, Connection.addStatement, add_eq hready (hw rfl) hmal, Request.answerIn]
    rfl
  | remove kind p =>
    simp [Request.call, remove_eq hready (hw rfl) (hread rfl), Request.answerIn]
  | removeStatement s =>
    simp [Request.call, Connection.removeStatement, remove_eq hready (hw rfl) (hread rfl),
      Request.answerIn]
    rfl
  | clear graphs =>
    simp [Request.call, Connection.clear, remove_eq hready (hw rfl) (hread rfl),
      Request.answerIn]
    rfl
  | getStatements p inferred =>
    simp [Request.call, getStatements_eq (hread rfl), Request.answerIn]
    exact (perform_read rfl).symm
  | hasStatement p inferred =>
    simp [Request.call, hasStatement_eq (hread rfl), Request.answerIn]
    exact (perform_read rfl).symm
  | evaluate q d b inferred =>
    simp [Request.call, evaluate_eq (hread rfl), Request.answerIn]
    exact (perform_read rfl).symm
  | size graphs =>
    simp [Request.call, size_eq (hread rfl), Request.answerIn]
    exact (perform_read rfl).symm
  | graphNames =>
    simp [Request.call, graphNames_eq (hread rfl) (hcov rfl), Request.answerIn]
    exact (perform_read rfl).symm
  | _ => cases hreq

end Frame

end QuadTxn
