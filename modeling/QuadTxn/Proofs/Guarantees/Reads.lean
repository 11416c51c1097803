import QuadTxn.Proofs.Runs.Passing

/-!
# Reads answer from one set

The reads of a connection take different ways: a listing lays the staged statements over those of
the store, the named graphs are those of the store with the touched ones asked for again, and a
query runs on the store alone if nothing is staged. Still all of them answer from one set of
statements, in whatever state the transaction is (`System.reads_answer_from_one_set`).

Inside a transaction a read has to wait while another connection is the writer at the gate. It has
done nothing by then, and is made anew once the gate admits it (`Action.Delayed`).
-/

namespace QuadTxn

/-! ## Reads that wait -/

namespace Action

variable {s α β : Type}

/-- A call that is made at a state waits to read, having done nothing, and is made anew at a later
state that admits it. -/
def Delayed (m : Action s α) (st : s) (Admits : s → Prop) : Prop :=
  ∃ resume, m st = .waits st .shared resume ∧ ∀ later, Admits later → resume later = m later

theorem Delayed.map {m : Action s α} {st : s} {Admits : s → Prop} (h : m.Delayed st Admits)
    (f : α → β) : (f <$> m).Delayed st Admits := by
  obtain ⟨resume, hwaits, hanew⟩ := h
  refine ⟨fun later => (resume later).bind fun a => pure (f a), ?_, fun later hlater => ?_⟩
  · rw [map_apply, hwaits, Outcome.bind_waits]
  · exact congrArg (Outcome.bind · fun a => pure (f a)) (hanew later hlater)

end Action

namespace Frame

section Delayed

variable {σ α : Type} {st : Frame σ}

/-- A tracked answer that the gate does not admit waits, and is given anew. -/
theorem tracked_delayed (h : ¬st.Admitted) (r : Read) (answer : Call σ α) :
    (Connection.tracked r answer).Delayed st fun later => later.coordinator.gate.writer = none := by
  obtain ⟨hfree, hown⟩ := not_or.mp h
  have hheld : Call.holdsGate st = false := by simp [Call.holdsGate, hown]
  have hadmits : st.coordinator.gate.admits .shared = false := by
    rw [Gate.admits, Option.isNone_eq_false_iff, Option.isSome_iff_ne_none]
    exact hfree
  simp only [Action.Delayed, Connection.tracked, Action.bind_apply, Action.get_apply,
    Outcome.bind_ok, hheld, Bool.false_eq_true, if_false, Call.shared, Call.acquire, Gate.request,
    hadmits, Outcome.bind_waits]
  refine ⟨_, rfl, fun later hlater => ?_⟩
  have hlater' : Call.holdsGate later = false := by simp [Call.holdsGate, hlater]
  simp [hlater', acquire_shared_eq hlater]

/-- A transaction can read, as the gate has no writer. -/
def Reads (st : Frame σ) : Prop := st.self.isActive = true ∧ st.coordinator.gate.writer = none

theorem reading_delayed (h : ¬st.CanRead) (r : Read) (answer : Call σ α) :
    (Connection.reading r answer).Delayed st Reads := by
  obtain ⟨hact, hadm⟩ := Classical.not_imp.mp h
  obtain ⟨resume, hwaits, hanew⟩ := tracked_delayed hadm r answer
  refine ⟨resume, ?_, fun later ⟨hlater, hfree⟩ => ?_⟩
  · simp [Connection.reading, hact, hwaits]
  · simp [Connection.reading, hlater, hanew later hfree]

end Delayed

/-- A request that only reads statements waits if it has to, and is made anew. -/
theorem call_delayed {st : Frame Session} {req : Request} (hon : req.onStatements = true)
    (hwrite : req.isWrite = false) (h : ¬st.CanRead) : req.call.Delayed st Reads := by
  cases req with
  | getStatements p inferred => exact (reading_delayed h _ _).map _
  | hasStatement p inferred => exact (reading_delayed h _ _).map _
  | evaluate q d b inferred => exact (reading_delayed h _ _).map _
  | size graphs => exact (reading_delayed h _ _).map _
  | graphNames => exact (reading_delayed h _ _).map _
  | add | addStatement | remove | removeStatement | clear => cases hwrite
  | _ => cases hon

end Frame

namespace System

variable {sys : System Session} {id : ConnectionId} {req : Request}

theorem on_delayed {α : Type} {call : Call Session α} {Admits : Frame Session → Prop}
    (hact : (sys.connection id).isActive = true) (h : call.Delayed (sys.frame id) Admits) :
    (on id call).Delayed sys fun later => Admits (later.frame id) := by
  obtain ⟨resume, hwaits, hanew⟩ := h
  refine ⟨fun later => (resume (later.frame id)).zoom (frame id) (setFrame id) later, ?_,
    fun later hlater => ?_⟩
  · rw [on, Action.zoom, hwaits, Outcome.zoom, setFrame_frame hact]
  · exact congrArg (Outcome.zoom (frame id) (setFrame id) later) (hanew _ hlater)

/-! ## Answers -/

/-- A connection answers a request in this way, at once unless it has to wait for the gate. A
request that has to wait is made anew once the gate has no writer. -/
structure Answers (sys : System Session) (id : ConnectionId) (req : Request) (a : Answer) :
    Prop where
  /-- nothing else is answered, and the request does not fail -/
  result : ∀ {r sys'}, Step sys (.request id req) r sys' → r = .ok a
  /-- the request is answered if the connection can read -/
  prompt : sys.CanRead id → ∃ sys', Step sys (.request id req) (.ok a) sys'
  /-- the request waits if the connection cannot read -/
  delayed : ¬sys.CanRead id →
    (handle id req : Action (System Session) Answer).Delayed sys fun later =>
      (later.frame id).Reads

/-- A read of statements answers from the statements that the connection sees. -/
theorem answers_of_read (h : sys.Coherent) (hon : req.onStatements = true)
    (hwrite : req.isWrite = false) :
    sys.Answers id req (req.answerIn (sys.frame id).seen) where
  result := fun hs => by
    obtain ⟨a, rfl⟩ := ok_of_read h hon hwrite hs
    rw [answer_of_step h hon hs]
  prompt := fun hread =>
    ⟨_, step_of_onStatements h hon (Frame.refusal?_of_read hon hwrite) fun _ => hread⟩
  delayed := fun hread => by
    have hreq : req ≠ .commit := by
      rintro rfl
      cases hon
    have hcan : ¬(sys.frame id).CanRead := by
      rw [Frame.CanRead, Frame.Admitted, show (sys.frame id).self.id = id from h.name id]
      exact hread
    rw [handle_eq hreq]
    exact on_delayed (Classical.not_imp.mp hread).1 (Frame.call_delayed hon hwrite hcan)

/-! ## The guarantee -/

/-- In every reachable state all reads of a connection answer from one list of statements, the one
that a listing of everything gives: whether a pattern selects something, how many statements are in
some graphs, which named graphs there are, in order and without repeats, and the solutions of a
query, in the order in which evaluation on the set of these statements finds them. -/
theorem reads_answer_from_one_set (hreach : Reachable sys) (id : ConnectionId) :
    ∃ l : List Statement,
      (∀ inferred, sys.Answers id (.getStatements .any inferred) (.statements l)) ∧
      (∀ p inferred, sys.Answers id (.hasStatement p inferred) (.truth (l.any p.selects))) ∧
      (∀ graphs, sys.Answers id (.size graphs)
        (.count (l.filter fun s => Pattern.accepts graphs s.graph).length)) ∧
      (∃ names : List Term, sys.Answers id .graphNames (.graphs names) ∧
        (names.Pairwise fun g g' => compare g g' = .lt) ∧
        ∀ g, g ∈ names ↔ ∃ s ∈ l, s.graph = some g) ∧
      ∀ q d b inferred, sys.Answers id (.evaluate q d b inferred)
        (.solutions (Model.solutions (.ofList l) q d b)) := by
  have h := hreach.coherent
  have hread : ∀ req : Request, req.onStatements = true → req.isWrite = false →
      sys.Answers id req (req.answerIn (sys.frame id).seen) :=
    fun _ hon hwrite => answers_of_read h hon hwrite
  refine ⟨(sys.frame id).seen.toList, fun inferred => ?_, fun p inferred => ?_, fun graphs => ?_,
    ⟨_, hread .graphNames rfl rfl, SortedSet.sorted _, fun g => Model.mem_namedGraphs⟩,
    fun q d b inferred => ?_⟩
  · have hall := hread (.getStatements .any inferred) rfl rfl
    rwa [Request.answerIn, Model.select_any] at hall
  · exact hread (.hasStatement p inferred) rfl rfl
  · exact hread (.size graphs) rfl rfl
  · have hself : SortedSet.ofList (sys.frame id).seen.toList = (sys.frame id).seen := by
      ext s
      exact SortedSet.mem_ofList
    rw [hself]
    exact hread (.evaluate q d b inferred) rfl rfl

/-- A connection has committed a statement in each of two named graphs, and stages that one of them
is emptied and a third one is filled. The listing, the count and the named graphs agree. -/
theorem staged_graphs_are_listed : ∃ r start ts sys,
    Step .new (.request "c" .begin) r start ∧
    requests start [("c", .addStatement ⟨.iri "s", .iri "p", .iri "o", some (.iri "g")⟩),
      ("c", .addStatement ⟨.iri "s", .iri "p", .iri "o", some (.iri "h")⟩), ("c", .commit),
      ("c", .begin), ("c", .clear [some (.iri "g")]),
      ("c", .add (.update "u" [] ∅) (.iri "s") (.iri "p") (.iri "o") [some (.iri "i")])] =
        some (ts, sys) ∧
    sys.Answers "c" (.getStatements .any false) (.statements
      [⟨.iri "s", .iri "p", .iri "o", some (.iri "h")⟩,
        ⟨.iri "s", .iri "p", .iri "o", some (.iri "i")⟩]) ∧
    sys.Answers "c" (.size [some (.iri "g")]) (.count 0) ∧
    ∃ names : List Term, sys.Answers "c" .graphNames (.graphs names) ∧
      .iri "g" ∉ names ∧ .iri "h" ∈ names ∧ .iri "i" ∈ names := by
  obtain ⟨r, start, ts, sys, r', final, hbegin, hplay, hlist, hcheck⟩ :=
    requests_of_check_ends
      (fun _ _ last => match last.result with
        | .ok (.statements l) => decide (l = [⟨.iri "s", .iri "p", .iri "o", some (.iri "h")⟩,
            ⟨.iri "s", .iri "p", .iri "o", some (.iri "i")⟩])
        | _ => false)
      (by decide +kernel : ((requests .new ([("c", .begin)] ++
        ([("c", .addStatement ⟨.iri "s", .iri "p", .iri "o", some (.iri "g")⟩),
          ("c", .addStatement ⟨.iri "s", .iri "p", .iri "o", some (.iri "h")⟩), ("c", .commit),
          ("c", .begin), ("c", .clear [some (.iri "g")]),
          ("c", .add (.update "u" [] ∅) (.iri "s") (.iri "p") (.iri "o") [some (.iri "i")])] ++
            [("c", .getStatements .any false)]))).any _) = true)
  have hreach : Reachable sys := ⟨_, (run_of_requests hplay).1.cons hbegin⟩
  obtain ⟨l, hall, -, hsize, ⟨names, hnames, -, hmem⟩, -⟩ := reads_answer_from_one_set hreach "c"
  obtain rfl := (hall false).result hlist
  obtain rfl : l = [⟨.iri "s", .iri "p", .iri "o", some (.iri "h")⟩,
      ⟨.iri "s", .iri "p", .iri "o", some (.iri "i")⟩] := of_decide_eq_true hcheck
  refine ⟨r, start, ts, sys, hbegin, hplay, hall false, hsize [some (.iri "g")], names, hnames, ?_⟩
  simp [hmem]

end System

end QuadTxn
