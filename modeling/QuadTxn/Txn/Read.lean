import QuadTxn.Query.Basic
import QuadTxn.Rdf.Model

/-!
# Reads

A `Read` describes one read of a transaction, so that it can be compared with what other
transactions commit later. The `footprint` of a read is a list of patterns; the read depends on the
statements that one of them selects, and on no others. A set of changed statements affects the read
if it meets the footprint.
-/

namespace QuadTxn

/-- What a read selects. -/
inductive Selection where
  /-- the statements of a pattern -/
  | pattern (p : Pattern)
  /-- the solutions of a query -/
  | query (q : Query)
  deriving DecidableEq, Inhabited

/-- A description of a read. -/
structure Read where
  /-- what is selected -/
  selection : Selection
  /-- the graphs that a query looks at -/
  dataset : Dataset
  /-- the bindings that a query starts from -/
  bindings : Bindings
  /-- whether derived statements were asked for -/
  inferred : Bool
  deriving DecidableEq, Inhabited

namespace Read

/-- The read of a pattern. -/
def ofPattern (p : Pattern) (inferred : Bool) : Read := ⟨.pattern p, [], ∅, inferred⟩

/-- The read of a query. -/
def ofQuery (q : Query) (d : Dataset) (b : Bindings) (inferred : Bool) : Read :=
  ⟨.query q, d, b, inferred⟩

/-- The read of everything in the given graphs (in all if none are given). -/
def ofGraphs (graphs : List GraphName) : Read := ofPattern (.within graphs) false

/-- The patterns that select all statements the read depends on: a pattern itself, and for a query
the candidates of each triple pattern under the initial bindings. -/
def footprint (r : Read) : List Pattern :=
  match r.selection with
  | .pattern p => [p]
  | .query q => q.map fun t => t.candidates r.bindings r.dataset

/-- Whether a set of changed statements meets the footprint. -/
def affectedBy (delta : Model) (r : Read) : Bool := r.footprint.any delta.anySelected

theorem affectedBy_iff {delta : Model} {r : Read} :
    affectedBy delta r = true ↔ ∃ p ∈ r.footprint, ∃ s ∈ delta, p.selects s = true := by
  simp [affectedBy, Model.anySelected_iff]

/-- The written form: what is selected, then the initial bindings unless there are none. -/
def render (r : Read) : String :=
  (match r.selection with
    | .pattern p => "read " ++ p.render
    | .query q => "query " ++ q.render) ++
  if r.bindings.isEmpty then "" else " with" ++ r.bindings.render

end Read

end QuadTxn
