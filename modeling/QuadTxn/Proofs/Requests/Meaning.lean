import QuadTxn.Proofs.Statements.Locality
import QuadTxn.Txn.Request

/-!
# What requests mean on a set of statements

The requests that read or write statements (`Request.onStatements`) have a meaning apart from
connections, sessions and stores: what they answer in a set of statements (`Request.answerIn`),
what they write to it (`Request.writesIn`), and what they read (`Request.read?`). Answer and writes
depend on the set only as far as the footprint of the read reaches (`Request.answerIn_congr`,
`Request.writesIn_congr`).

`Request.call` is the call on a connection that a request asks for.
-/

namespace QuadTxn

namespace Request

/-- Whether a request reads or writes statements. -/
def onStatements : Request → Bool
  | .add .. | .addStatement _ | .remove .. | .removeStatement _ | .clear _
  | .getStatements .. | .hasStatement .. | .evaluate .. | .size _ | .graphNames => true
  | _ => false

/-- Whether a request writes, statements or namespace bindings. -/
def isWrite : Request → Bool
  | .add .. | .addStatement _ | .remove .. | .removeStatement _ | .clear _
  | .bindLabel .. | .unbindLabel _ | .unbindAll => true
  | _ => false

/-- Why a triple cannot be added, if it cannot: its subject is a literal, or else its predicate is
no IRI. -/
def malformation? (subject predicate : Term) : Option TxnError :=
  if !subject.isResource then
    some (.invalidStatement ("subject " ++ subject.render ++ " is a literal"))
  else if !predicate.isIri then
    some (.invalidStatement ("predicate " ++ predicate.render ++ " is not an IRI"))
  else none

/-- Why a request is refused whatever the state of the connection is, if it is. -/
def malformed? : Request → Option TxnError
  | .add _ subject predicate _ _ => malformation? subject predicate
  | .addStatement s => malformation? s.subject s.predicate
  | _ => none

/-- The statements that a request adds, one for each graph. -/
def additions : Request → List Statement
  | .add _ subject predicate object graphs =>
    (if graphs.isEmpty then [none] else graphs).map fun g => ⟨subject, predicate, object, g⟩
  | .addStatement s => [s]
  | _ => []

/-- The pattern by which a request removes statements. -/
def removal? : Request → Option Pattern
  | .remove _ p => some p
  | .removeStatement s => some (.exact s)
  | .clear graphs => some (.within graphs)
  | _ => none

/-- The batch that the writes of a request are staged in. -/
def batch : Request → BatchKind
  | .add kind .. | .remove kind _ => kind
  | _ => .explicit

/-- The read that a request registers. -/
def read? : Request → Option Read
  | .getStatements p inferred | .hasStatement p inferred => some (.ofPattern p inferred)
  | .evaluate q d b inferred => some (.ofQuery q d b inferred)
  | .size graphs => some (.ofGraphs graphs)
  | .graphNames => some (.ofGraphs [])
  | .remove _ p => some (.ofPattern p false)
  | .removeStatement s => some (.ofPattern (.exact s) false)
  | .clear graphs => some (.ofPattern (.within graphs) false)
  | _ => none

/-- What a request writes where it finds a set of statements: its additions, then the removal of
each statement that it selects, in order. -/
def writesIn (m : Model) (req : Request) : List Write :=
  req.additions.map .add ++ (req.removal?.elim [] m.select).map .remove

theorem writesIn_of_not_isWrite {req : Request} (h : ¬req.isWrite = true) (m : Model) :
    req.writesIn m = [] := by
  cases req <;> first | rfl | exact absurd rfl h

/-- What a request answers where it finds a set of statements. A removal answers how many
statements it selects. -/
def answerIn (m : Model) : Request → Answer
  | .getStatements p _ => .statements (m.select p)
  | .hasStatement p _ => .truth (m.anySelected p)
  | .evaluate q d b _ => .solutions (m.solutions q d b)
  | .size graphs => .count (m.select (.within graphs)).length
  | .graphNames => .graphs m.namedGraphs.toList
  | .remove _ p => .count (m.select p).length
  | .removeStatement s => .count (m.select (.exact s)).length
  | .clear graphs => .count (m.select (.within graphs)).length
  | _ => .none

theorem wellFormed_of_malformation {subject predicate : Term}
    (h : malformation? subject predicate = none) :
    subject.isResource = true ∧ predicate.isIri = true := by
  rw [malformation?] at h
  split at h
  · cases h
  · rename_i hs
    split at h
    · cases h
    · rename_i hp
      exact ⟨by simpa using hs, by simpa using hp⟩

/-- What a request adds is well formed, unless the request is refused. -/
theorem wellFormed_of_mem_additions {req : Request} (h : req.malformed? = none) {s : Statement}
    (hs : s ∈ req.additions) : s.WellFormed := by
  cases req with
  | add kind subject predicate object graphs =>
    obtain ⟨g, -, rfl⟩ := List.mem_map.mp hs
    exact wellFormed_of_malformation h
  | addStatement t =>
    obtain rfl := List.mem_singleton.mp hs
    exact wellFormed_of_malformation h
  | _ => cases hs

/-! ## Only the footprint counts -/

theorem mem_footprint_of_removal {req : Request} {p : Pattern} (h : req.removal? = some p) :
    ∃ r, req.read? = some r ∧ p ∈ r.footprint := by
  cases req with
  | remove kind q =>
    obtain rfl := Option.some.inj h
    exact ⟨_, rfl, List.mem_singleton_self _⟩
  | removeStatement s =>
    obtain rfl := Option.some.inj h
    exact ⟨_, rfl, List.mem_singleton_self _⟩
  | clear graphs =>
    obtain rfl := Option.some.inj h
    exact ⟨_, rfl, List.mem_singleton_self _⟩
  | _ => cases h

/-- Sets that agree on what a request reads have the same written to them. -/
theorem writesIn_congr {req : Request} {m m' : Model}
    (h : ∀ r, req.read? = some r → Model.Agree r.footprint m m') :
    req.writesIn m = req.writesIn m' := by
  rw [writesIn, writesIn]
  rcases hp : req.removal? with _ | p
  · rfl
  · obtain ⟨r, hr, hmem⟩ := mem_footprint_of_removal hp
    have hselect : m.select p = m'.select p := (h r hr).select_eq hmem fun _ hs => hs
    simp only [Option.elim_some, hselect]

/-- Sets that agree on what a request reads give the same answer. -/
theorem answerIn_congr {req : Request} {m m' : Model}
    (h : ∀ r, req.read? = some r → Model.Agree r.footprint m m') :
    req.answerIn m = req.answerIn m' := by
  have hselect : ∀ p inferred, req.read? = some (.ofPattern p inferred) →
      m.select p = m'.select p := fun p inferred hr =>
    (h _ hr).select_eq (List.mem_singleton_self p) fun _ hs => hs
  cases req with
  | getStatements p inferred => simp only [answerIn, hselect p inferred rfl]
  | hasStatement p inferred =>
    simp only [answerIn, Model.anySelected_eq, hselect p inferred rfl]
  | evaluate q d b inferred => simp only [answerIn, Model.solutions_congr (h _ rfl)]
  | size graphs => simp only [answerIn, hselect (.within graphs) false rfl]
  | graphNames =>
    -- the graphs are found by reading everything
    obtain rfl : m = m' := (h _ rfl).eq_of_any (List.mem_singleton_self _)
    rfl
  | remove kind p => simp only [answerIn, hselect p false rfl]
  | removeStatement s => simp only [answerIn, hselect (.exact s) false rfl]
  | clear graphs => simp only [answerIn, hselect (.within graphs) false rfl]
  | _ => rfl

/-! ## The call of a request -/

variable {σ : Type} [Backend σ]

/-- The call on a connection that a request asks for. A commit is announced to the other
connections by the system, not here. -/
def call : Request → Call σ Answer
  | .begin => do Connection.begin; return .none
  | .prepare => do Connection.prepare; return .none
  | .commit => do let _ ← Connection.commit; return .none
  | .rollback => do Connection.rollback; return .none
  | .add kind s p o graphs => do Connection.add kind s p o graphs; return .none
  | .addStatement s => do Connection.addStatement s; return .none
  | .remove kind p => .count <$> Connection.remove kind p
  | .removeStatement s => .count <$> Connection.removeStatement s
  | .clear graphs => .count <$> Connection.clear graphs
  | .bindLabel label name => do Connection.bindLabel label name; return .none
  | .unbindLabel label => do Connection.unbindLabel label; return .none
  | .unbindAll => do Connection.unbindAll; return .none
  | .getStatements p inferred => .statements <$> Connection.getStatements p inferred
  | .hasStatement p inferred => .truth <$> Connection.hasStatement p inferred
  | .evaluate q d b inferred => .solutions <$> Connection.evaluate q d b inferred
  | .size graphs => .count <$> Connection.size graphs
  | .graphNames => .graphs <$> Connection.graphNames
  | .getNamespaces => .namespaces <$> Connection.getNamespaces
  | .namespaceOf label => .namespaceName <$> Connection.namespaceOf label
  | .setReadSnapshot on => do Connection.setReadSnapshot on; return .none
  | .setSnapshot on => do Connection.setSnapshot on; return .none
  | .setSerializable on => do Connection.setSerializable on; return .none
  | .setIsolation level => do Connection.setIsolation level; return .none
  | .listen listener => do Call.update (Connection.listen listener); return .none
  | .unlisten listener => .truth <$> do
      let (found, c) := (← Call.self).unlisten listener
      Call.update fun _ => c
      return found

end Request

namespace Outcome

variable {s t α β : Type}

/-- Going on with what the answer is turned into does not touch the state. -/
theorem zoom_map (get : t → s) (put : s → t → t) (st : t) (o : Outcome s α) (f : α → β) :
    (o.zoom get put st).bind (fun a => pure (f a)) =
      (o.bind fun a => pure (f a)).zoom get put st := by
  induction o generalizing st with
  | ok a st' => rfl
  | error e st' => rfl
  | waits st' mode resume ih => exact congrArg (Outcome.waits _ mode) (funext fun x => ih _ x)

end Outcome

namespace System

variable {σ α β : Type} [Backend σ]

theorem on_map (id : ConnectionId) (m : Call σ α) (f : α → β) :
    f <$> on id m = on id (f <$> m) :=
  funext fun sys => Outcome.zoom_map (frame id) (setFrame id) sys (m (frame id sys)) f

/-- Except for a commit, a request is its call on the frame of its connection. -/
theorem handle_eq {id : ConnectionId} {req : Request} (h : req ≠ .commit) :
    (handle id req : Action (System σ) Answer) = on id req.call := by
  cases req with
  | commit => exact absurd rfl h
  | begin => exact on_map id _ fun _ => Answer.none
  | prepare => exact on_map id _ fun _ => Answer.none
  | rollback => exact on_map id _ fun _ => Answer.none
  | add kind s p o graphs => exact on_map id _ fun _ => Answer.none
  | addStatement s => exact on_map id _ fun _ => Answer.none
  | bindLabel label name => exact on_map id _ fun _ => Answer.none
  | unbindLabel label => exact on_map id _ fun _ => Answer.none
  | unbindAll => exact on_map id _ fun _ => Answer.none
  | setReadSnapshot on => exact on_map id _ fun _ => Answer.none
  | setSnapshot on => exact on_map id _ fun _ => Answer.none
  | setSerializable on => exact on_map id _ fun _ => Answer.none
  | setIsolation level => exact on_map id _ fun _ => Answer.none
  | listen listener => exact on_map id _ fun _ => Answer.none
  | _ => exact on_map id _ _

end System

end QuadTxn
