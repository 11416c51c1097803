import QuadTxn.Data.SortedMap
import QuadTxn.Rdf.Statement

/-!
# Basic graph patterns

A query is a list of triple patterns, whose positions are variables or constants. A solution binds
variables to terms. Under a solution a triple pattern has

* a pattern that selects its candidates (`TriplePattern.candidates`), and
* for every candidate the solution extended by what the candidate binds
  (`TriplePattern.unify`), unless they contradict each other.
-/

namespace QuadTxn

/-- The terms that variables are bound to, in the order of the variables' names. -/
abbrev Bindings := SortedMap String Term

/-- The written form of bindings: a blank, the variable, an equals sign and the term for each. -/
def Bindings.render (b : Bindings) : String :=
  String.join (b.entries.map fun e => " ?" ++ e.1 ++ "=" ++ e.2.render)

/-- The graphs that a query looks at; if there are none, it looks at every graph. -/
abbrev Dataset := List GraphName

/-- One position of a triple pattern. -/
inductive Position where
  /-- a variable -/
  | var (name : String)
  /-- a constant -/
  | const (term : Term)
  deriving DecidableEq, Repr, Inhabited

namespace Position

/-- The term that a solution leaves for a position: a constant's own, a variable's if bound. -/
def resolve (b : Bindings) : Position → Option Term
  | .var name => b.get? name
  | .const term => some term

/-- The solution in which a position stands for a term, unless it stands for another already. -/
def unify (p : Position) (t : Term) (b : Bindings) : Option Bindings :=
  match p with
  | .const u => if u = t then some b else none
  | .var name =>
    match b.get? name with
    | some u => if u = t then some b else none
    | none => some (b.insert name t)

/-- The written form of a position. -/
def render : Position → String
  | .var name => "?" ++ name
  | .const term => term.render

end Position

/-- A triple whose positions are variables or constants. -/
structure TriplePattern where
  /-- the subject position -/
  subject : Position
  /-- the predicate position -/
  predicate : Position
  /-- the object position -/
  object : Position
  deriving DecidableEq, Repr, Inhabited

namespace TriplePattern

/-- The pattern of the statements that the triple can stand for under a solution. -/
def candidates (t : TriplePattern) (b : Bindings) (d : Dataset) : Pattern :=
  ⟨t.subject.resolve b, t.predicate.resolve b, t.object.resolve b, d⟩

/-- The solution in which the triple stands for a statement, unless a constant, an earlier binding
or a repeated variable forbids it. -/
def unify (t : TriplePattern) (s : Statement) (b : Bindings) : Option Bindings :=
  (t.subject.unify s.subject b).bind fun b =>
    (t.predicate.unify s.predicate b).bind fun b =>
      t.object.unify s.object b

/-- The written form of a triple pattern. -/
def render (t : TriplePattern) : String :=
  t.subject.render ++ " " ++ t.predicate.render ++ " " ++ t.object.render

end TriplePattern

/-- A conjunction of triple patterns, joined in order. -/
abbrev Query := List TriplePattern

/-- The written form of a query: its triple patterns between braces, each ended by a full stop. -/
def Query.render (q : Query) : String :=
  "\x7b " ++ String.join (q.map fun t => t.render ++ " . ") ++ "\x7d"

end QuadTxn
