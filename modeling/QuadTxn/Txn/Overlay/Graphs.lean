import QuadTxn.Rdf.Model

/-!
# Touched graphs

A named graph exists while it holds a statement. Of the graphs that staged writes go into or come
from, only their names are kept; whether such a graph exists is asked anew each time.
-/

namespace QuadTxn

/-- The named graphs that staged writes touch. -/
structure GraphOverlay where
  /-- the graphs that statements are to be added to -/
  added : SortedSet Term
  /-- the graphs that statements are to be removed from -/
  removed : SortedSet Term
  deriving DecidableEq, Inhabited

namespace GraphOverlay

/-- No graph is touched. -/
def empty : GraphOverlay := ⟨∅, ∅⟩

instance : EmptyCollection GraphOverlay := ⟨empty⟩

/-- A statement is to be added to a graph; the default graph is not kept account of. -/
def noteAdd (o : GraphOverlay) : GraphName → GraphOverlay
  | some g => { o with added := o.added.insert g }
  | none => o

/-- A statement is to be removed from a graph; the default graph is not kept account of. -/
def noteRemove (o : GraphOverlay) : GraphName → GraphOverlay
  | some g => { o with removed := o.removed.insert g }
  | none => o

/-- Whether a staged write goes into or comes from a graph. -/
def touches (o : GraphOverlay) (g : Term) : Bool := g ∈ o.added || g ∈ o.removed

/-- Those of a list of graphs that exist: the untouched ones, and the touched ones that are
populated. -/
def existing {m : Type → Type} [Monad m] (o : GraphOverlay) (populated : Term → m Bool) :
    List Term → m (List Term)
  | [] => return []
  | g :: gs => do
    let keep ← if o.touches g then populated g else pure true
    let rest ← o.existing populated gs
    return if keep then g :: rest else rest

/-- The graphs that exist, in order, from those of the store. -/
def resolve {m : Type → Type} [Monad m] (o : GraphOverlay) (stored : List Term)
    (populated : Term → m Bool) : m (List Term) := do
  let graphs ← o.existing populated (stored ++ o.added.toList)
  return (SortedSet.ofList graphs).toList

end GraphOverlay

end QuadTxn
