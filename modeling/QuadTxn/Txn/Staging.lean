import QuadTxn.Query.Join
import QuadTxn.Rdf.Model

/-!
# Staged writes

The writes that a transaction has not yet handed to its store are kept in batches, one for all
ungrouped writes and one for each update they were issued by. A batch holds statements to add and
statements to remove.

Staging a statement on one side takes it off the other side of every batch, so that no statement is
to be both added and removed, and the batches can be applied in any order.
-/

namespace QuadTxn

/-- What issued the writes of a batch. -/
inductive BatchKind where
  /-- the caller itself -/
  | explicit
  /-- an update with its text, its graphs and its bindings -/
  | update (text : String) (dataset : Dataset) (bindings : Bindings)
  deriving DecidableEq, Inhabited

/-- The staged writes of one kind. -/
structure Batch where
  /-- what issued them -/
  kind : BatchKind
  /-- the statements to add -/
  adds : Model
  /-- the statements to remove -/
  removes : Model
  deriving DecidableEq, Inhabited

/-- Whether nothing is staged in a batch. -/
def Batch.isEmpty (b : Batch) : Bool := b.adds.isEmpty && b.removes.isEmpty

/-- The batches of a transaction, in the order of their creation; a batch is named by its
position. -/
structure Staging where
  /-- the batches -/
  batches : List Batch
  deriving DecidableEq, Inhabited

namespace Staging

/-- The staging area of a transaction that has written nothing. -/
def empty : Staging := ⟨[]⟩

instance : EmptyCollection Staging := ⟨empty⟩

/-- The position of the batch of a kind, and the area with that batch created if it was missing. -/
def idFor (g : Staging) (kind : BatchKind) : Nat × Staging :=
  match g.batches.findIdx? (·.kind = kind) with
  | some i => (i, g)
  | none => (g.batches.length, ⟨g.batches ++ [⟨kind, ∅, ∅⟩]⟩)

/-- Stage an addition into the batch at a position (into none if there is no such batch). -/
def stageAdd (g : Staging) (i : Nat) (s : Statement) : Staging :=
  let cleared := g.batches.map fun b => { b with removes := b.removes.erase s }
  ⟨cleared.modify i fun b => { b with adds := b.adds.insert s }⟩

/-- Stage a removal into the batch at a position (into none if there is no such batch). -/
def stageRemove (g : Staging) (i : Nat) (s : Statement) : Staging :=
  let cleared := g.batches.map fun b => { b with adds := b.adds.erase s }
  ⟨cleared.modify i fun b => { b with removes := b.removes.insert s }⟩

/-- Stage an addition into the batch of a kind. -/
def add (g : Staging) (kind : BatchKind) (s : Statement) : Staging :=
  let (i, g) := g.idFor kind
  g.stageAdd i s

/-- Stage a removal into the batch of a kind. -/
def remove (g : Staging) (kind : BatchKind) (s : Statement) : Staging :=
  let (i, g) := g.idFor kind
  g.stageRemove i s

/-- Whether some batch holds a staged write. -/
def hasChanges (g : Staging) : Bool := g.batches.any (!·.isEmpty)

/-- Whether a statement is to be removed. -/
def isRemoved (g : Staging) (s : Statement) : Bool := g.batches.any (s ∈ ·.removes)

/-- The staged additions that a pattern selects, batch by batch. -/
def addedMatching (g : Staging) (p : Pattern) : List Statement :=
  g.batches.flatMap (·.adds.select p)

/-- Whether some addition goes into a named graph. -/
def addsInto (g : Staging) (graph : Term) : Bool :=
  g.batches.any (·.adds.anySelected (.within [some graph]))

/-- All statements to add. -/
def added (g : Staging) : Model := .ofList (g.batches.flatMap (·.adds.toList))

/-- All statements to remove. -/
def removed (g : Staging) : Model := .ofList (g.batches.flatMap (·.removes.toList))

/-- Number of staged additions, summed over the batches. -/
def addCount (g : Staging) : Nat := g.batches.foldr (fun b n => b.adds.size + n) 0

/-- Number of staged removals, summed over the batches. -/
def removeCount (g : Staging) : Nat := g.batches.foldr (fun b n => b.removes.size + n) 0

/-! ## The view of a transaction

What a transaction sees is what its store holds, less the staged removals, with the staged
additions. -/

/-- The statements that a pattern selects in the view, from those that it selects in the store. -/
def overlay (g : Staging) (p : Pattern) (stored : List Statement) : List Statement :=
  ((SortedSet.ofList (stored.filter fun s => !g.isRemoved s)).insertMany (g.addedMatching p)).toList

/-- The view as a source of statements, over the store as a source of statements. -/
def onTopOf {m : Type → Type} [Monad m] (g : Staging) (source : Query.Source m) : Query.Source m :=
  fun p => do
    let stored ← source p
    return g.overlay p stored

end Staging

end QuadTxn
