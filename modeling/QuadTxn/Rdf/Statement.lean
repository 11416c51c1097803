import QuadTxn.Rdf.Term

/-!
# Statements and patterns

A statement is a triple of terms in a graph; `none` is the default graph. Statements are ordered by
subject, predicate, object and graph, the default graph first.

A pattern selects statements (`Pattern.selects`): each position is a required term or a wildcard,
and the graphs are a list of accepted ones, where the empty list accepts every graph.
-/

namespace QuadTxn

/-- The graph a statement is in: a named one, or the default graph. -/
abbrev GraphName := Option Term

/-- A subject, a predicate and an object in a graph. -/
structure Statement where
  /-- the subject, a resource in a well-formed statement -/
  subject : Term
  /-- the predicate, an IRI in a well-formed statement -/
  predicate : Term
  /-- the object -/
  object : Term
  /-- the graph, `none` for the default one -/
  graph : GraphName
  deriving DecidableEq, Repr, Inhabited

namespace Statement

instance : Ord Statement where
  compare := compareLex (compareOn subject) <| compareLex (compareOn predicate) <|
    compareLex (compareOn object) (compareOn graph)

theorem compare_def (a b : Statement) :
    compare a b = (compare a.subject b.subject).then ((compare a.predicate b.predicate).then
      ((compare a.object b.object).then (compare a.graph b.graph))) := rfl

instance : Std.TransOrd Statement :=
  inferInstanceAs <| Std.TransCmp <| compareLex (compareOn subject) <|
    compareLex (compareOn predicate) <| compareLex (compareOn object) (compareOn graph)

instance : Std.LawfulEqOrd Statement where
  compare_self := Std.ReflCmp.compare_self
  eq_of_compare {a b} h := by
    rw [compare_def, Ordering.then_eq_eq, Ordering.then_eq_eq, Ordering.then_eq_eq] at h
    obtain ⟨h₁, h₂, h₃, h₄⟩ := h
    cases a; cases b
    simp only [mk.injEq]
    exact ⟨Std.LawfulEqOrd.eq_of_compare h₁, Std.LawfulEqOrd.eq_of_compare h₂,
      Std.LawfulEqOrd.eq_of_compare h₃, Std.LawfulEqOrd.eq_of_compare h₄⟩

/-- A statement is well formed if its subject is a resource and its predicate an IRI. -/
def WellFormed (s : Statement) : Prop := s.subject.isResource = true ∧ s.predicate.isIri = true

instance (s : Statement) : Decidable s.WellFormed := inferInstanceAs (Decidable (_ ∧ _))

/-- The written form: the terms, the graph unless it is the default one, and a full stop. -/
def render (s : Statement) : String :=
  s.subject.render ++ " " ++ s.predicate.render ++ " " ++ s.object.render ++
    (match s.graph with
      | some g => " " ++ g.render
      | none => "") ++ " ."

end Statement

/-! ## Patterns -/

/-- A selection of statements. -/
structure Pattern where
  /-- the required subject, `none` for any -/
  subject : Option Term
  /-- the required predicate, `none` for any -/
  predicate : Option Term
  /-- the required object, `none` for any -/
  object : Option Term
  /-- the accepted graphs; if there are none, every graph is accepted -/
  graphs : List GraphName
  deriving DecidableEq, Repr, Inhabited

namespace Pattern

/-- The pattern that selects every statement of the given graphs (of all graphs if none are
given). -/
def within (graphs : List GraphName) : Pattern := ⟨none, none, none, graphs⟩

/-- The pattern that selects every statement. -/
def any : Pattern := within []

/-- The pattern that selects one statement. -/
def exact (s : Statement) : Pattern :=
  ⟨some s.subject, some s.predicate, some s.object, [s.graph]⟩

/-- Whether a position of a pattern admits a term. -/
def admits (required : Option Term) (actual : Term) : Bool :=
  required.all (· = actual)

/-- Whether a list of accepted graphs accepts a graph. -/
def accepts (graphs : List GraphName) (graph : GraphName) : Bool :=
  graphs.isEmpty || graphs.contains graph

/-- Whether a statement is selected. -/
def selects (p : Pattern) (s : Statement) : Bool :=
  admits p.subject s.subject && admits p.predicate s.predicate && admits p.object s.object &&
    accepts p.graphs s.graph

@[simp] theorem admits_none (t : Term) : admits none t = true := rfl

@[simp] theorem admits_some (t u : Term) : admits (some t) u = true ↔ t = u := by
  simp [admits]

@[simp] theorem accepts_nil (g : GraphName) : accepts [] g = true := rfl

theorem accepts_iff {graphs : List GraphName} {g : GraphName} :
    accepts graphs g = true ↔ graphs = [] ∨ g ∈ graphs := by
  simp [accepts]

@[simp] theorem selects_any (s : Statement) : any.selects s = true := rfl

/-- The exact pattern of a statement selects that statement only. -/
theorem selects_exact {s t : Statement} : (exact s).selects t = true ↔ t = s := by
  cases s; cases t
  constructor <;> intro h <;> simp_all [exact, selects, accepts_iff]

/-- The written form of one position: the required term, or a variable of the given name. -/
private def renderPosition (required : Option Term) (name : String) : String :=
  match required with
  | some t => t.render
  | none => "?" ++ name

/-- The written form of a graph in a list of accepted graphs. -/
private def renderGraph : GraphName → String
  | some g => g.render
  | none => "DEFAULT"

/-- The written form: the three positions, then the accepted graphs unless all are. -/
def render (p : Pattern) : String :=
  renderPosition p.subject "s" ++ " " ++ renderPosition p.predicate "p" ++ " " ++
    renderPosition p.object "o" ++
    if p.graphs.isEmpty then "" else " FROM [" ++ ", ".intercalate (p.graphs.map renderGraph) ++ "]"

end Pattern

end QuadTxn
