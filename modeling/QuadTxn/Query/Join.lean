import QuadTxn.Query.Basic

/-!
# Joining triple patterns

A query is answered by a nested loop: the solutions so far are taken in order, each asks the source
for its candidates, and each candidate that unifies adds one solution. When no solution is left the
remaining triple patterns are not looked at.

The source answers in a monad, so that the same loop runs over a plain model (`Id`), over a store
that can fail, and over one that keeps account of its reads.
-/

namespace QuadTxn.Query

variable {m : Type → Type} [Monad m]

/-- What a source of statements answers to a pattern. -/
abbrev Source (m : Type → Type) := Pattern → m (List Statement)

/-- The solutions that extend one solution by a triple pattern. -/
def extend (source : Source m) (d : Dataset) (t : TriplePattern) (b : Bindings) :
    m (List Bindings) := do
  let candidates ← source (t.candidates b d)
  return candidates.filterMap (t.unify · b)

/-- The solutions that extend some solution of a list by a triple pattern, in order. -/
def extendAll (source : Source m) (d : Dataset) (t : TriplePattern) :
    List Bindings → m (List Bindings)
  | [] => return []
  | b :: bs => do
    let first ← extend source d t b
    let others ← extendAll source d t bs
    return first ++ others

/-- The solutions of the remaining triple patterns that extend some solution of a list. -/
def join (source : Source m) (d : Dataset) : Query → List Bindings → m (List Bindings)
  | [], solutions => return solutions
  | t :: ts, solutions => do
    let next ← extendAll source d t solutions
    if next.isEmpty then return [] else join source d ts next

/-- The solutions of a query that extend the given bindings. -/
def evaluate (source : Source m) (q : Query) (d : Dataset) (b : Bindings) : m (List Bindings) :=
  join source d q [b]

/-! ## Sources without effects

Over a source that only answers, the loop only answers too, and with the same solutions. -/

variable [LawfulMonad m]

theorem extendAll_pure (source : Source Id) (d : Dataset) (t : TriplePattern)
    (bs : List Bindings) :
    extendAll (m := m) (fun p => pure (source p).run) d t bs =
      pure (extendAll source d t bs).run := by
  induction bs with
  | nil => simp [extendAll]
  | cons b bs ih => simp [extendAll, extend, ih]

theorem join_pure (source : Source Id) (d : Dataset) (q : Query) (bs : List Bindings) :
    join (m := m) (fun p => pure (source p).run) d q bs = pure (join source d q bs).run := by
  induction q generalizing bs with
  | nil => simp [join]
  | cons t ts ih =>
    simp only [join, extendAll_pure, pure_bind, Id.run_bind]
    split <;> simp [ih]

/-- A source that answers without effect makes a query answer without effect. -/
theorem evaluate_pure (source : Source Id) (q : Query) (d : Dataset) (b : Bindings) :
    evaluate (m := m) (fun p => pure (source p).run) q d b = pure (evaluate source q d b).run :=
  join_pure source d q [b]

end QuadTxn.Query
