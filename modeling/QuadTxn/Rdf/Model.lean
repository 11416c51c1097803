import QuadTxn.Data.SortedSet
import QuadTxn.Rdf.Statement

/-!
# Models

A model is a finite set of statements. It is a `SortedSet`, so its listings are in the order of
statements without repeats, and models with the same statements are equal.
-/

namespace QuadTxn

/-- A finite set of statements, listed in the order of statements. -/
abbrev Model := SortedSet Statement

namespace Model

/-- Put a statement in, and say whether it was missing. -/
def add (m : Model) (s : Statement) : Bool × Model := (s ∉ m, m.insert s)

/-- Take a statement out, and say whether it was there. -/
def remove (m : Model) (s : Statement) : Bool × Model := (s ∈ m, m.erase s)

/-- The statements that a pattern selects, in order. -/
def select (m : Model) (p : Pattern) : List Statement := m.toList.filter p.selects

theorem mem_select {m : Model} {p : Pattern} {s : Statement} :
    s ∈ m.select p ↔ s ∈ m ∧ p.selects s = true := List.mem_filter

@[simp] theorem select_any (m : Model) : m.select Pattern.any = m.toList :=
  List.filter_eq_self.mpr fun s _ => Pattern.selects_any s

/-- Whether a pattern selects some statement. -/
def anySelected (m : Model) (p : Pattern) : Bool := m.any p.selects

theorem anySelected_iff {m : Model} {p : Pattern} :
    m.anySelected p = true ↔ ∃ s ∈ m, p.selects s = true := List.any_eq_true

/-- Take every selected statement out, and list these. -/
def removeSelected (m : Model) (p : Pattern) : List Statement × Model :=
  (m.select p, m.filter fun s => !p.selects s)

/-- The graphs that hold a statement, in order, the default graph included. -/
def graphs (m : Model) : SortedSet GraphName := .ofList (m.toList.map (·.graph))

/-- The named graphs that hold a statement, in order. -/
def namedGraphs (m : Model) : SortedSet Term := .ofList (m.toList.filterMap (·.graph))

theorem mem_graphs {m : Model} {g : GraphName} : g ∈ m.graphs ↔ ∃ s ∈ m, s.graph = g := by
  rw [graphs, SortedSet.mem_ofList, List.mem_map]
  rfl

theorem mem_namedGraphs {m : Model} {g : Term} :
    g ∈ m.namedGraphs ↔ ∃ s ∈ m, s.graph = some g := by
  rw [namedGraphs, SortedSet.mem_ofList, List.mem_filterMap]
  rfl

end Model

end QuadTxn
