import QuadTxn.Proofs.Staging.View
import QuadTxn.Store.Backend
import QuadTxn.Txn.Overlay.Graphs

/-!
# Session operations that only answer

An operation of a session that only answers leaves session and store as they are. Put together,
such operations only answer too: a query over a source that answers, and the list of the graphs
that exist.
-/

namespace QuadTxn

namespace SessionM

variable {σ α β : Type} {x : σ × Store}

/-- At a session and a store an operation answers `a`, and changes neither. -/
def Answers (m : SessionM σ α) (x : σ × Store) (a : α) : Prop := m x = .ok a x

theorem Answers.pure (a : α) (x : σ × Store) : Answers (Pure.pure a : SessionM σ α) x a := rfl

theorem Answers.bind {m : SessionM σ α} {f : α → SessionM σ β} {a : α} {b : β}
    (hm : m.Answers x a) (hf : (f a).Answers x b) : (m >>= f).Answers x b := by
  change EStateM.bind m f x = .ok b x
  rw [EStateM.bind, show m x = .ok a x from hm]
  exact hf

end SessionM

open SessionM

variable {σ : Type} {x : σ × Store}

namespace Query

variable {source : Source (SessionM σ)} {m : Model} {d : Dataset}

theorem extendAll_answers (h : ∀ p, (source p).Answers x (m.select p)) (t : TriplePattern)
    (bs : List Bindings) :
    (extendAll source d t bs).Answers x
      (extendAll (m := Id) (fun p => m.select p) d t bs).run := by
  induction bs with
  | nil => exact Answers.pure _ x
  | cons b bs ih =>
    refine Answers.bind ?_ (Answers.bind ih (Answers.pure _ x))
    exact Answers.bind (h _) (Answers.pure _ x)

theorem join_answers (h : ∀ p, (source p).Answers x (m.select p)) (q : Query)
    (bs : List Bindings) :
    (join source d q bs).Answers x (join (m := Id) (fun p => m.select p) d q bs).run := by
  induction q generalizing bs with
  | nil => exact Answers.pure _ x
  | cons t ts ih =>
    refine Answers.bind (extendAll_answers h t bs) ?_
    -- both loops have the same solutions so far, and stop at the same point
    simp only [join, Id.run_bind]
    split
    · exact Answers.pure _ x
    · exact ih _

/-- A query over a source that answers from a set of statements answers from that set. -/
theorem evaluate_answers (h : ∀ p, (source p).Answers x (m.select p)) (q : Query) (d : Dataset)
    (b : Bindings) :
    (evaluate source q d b).Answers x (evaluate (m := Id) (fun p => m.select p) q d b).run :=
  join_answers h q [b]

end Query

namespace Staging

/-- The view over a source that answers from a set of statements answers from the view of it. -/
theorem onTopOf_answers {source : Query.Source (SessionM σ)} {m : Model}
    (h : ∀ p, (source p).Answers x (m.select p)) (g : Staging) (p : Pattern) :
    (g.onTopOf source p).Answers x ((g.onto m).select p) := by
  rw [← overlay_select]
  exact Answers.bind (h p) (Answers.pure _ x)

end Staging

namespace GraphOverlay

theorem existing_answers {populated : Term → SessionM σ Bool} {test : Term → Bool}
    (h : ∀ g, (populated g).Answers x (test g)) (o : GraphOverlay) (gs : List Term) :
    (o.existing populated gs).Answers x (gs.filter fun g => !o.touches g || test g) := by
  induction gs with
  | nil => exact Answers.pure _ x
  | cons g gs ih =>
    have hrest : ∀ keep : Bool, (do
        let rest ← o.existing populated gs
        return if keep then g :: rest else rest).Answers x
          (if keep then g :: gs.filter fun g => !o.touches g || test g
            else gs.filter fun g => !o.touches g || test g) :=
      fun _ => Answers.bind ih (Answers.pure _ x)
    rw [List.filter_cons, existing]
    rcases o.touches g with _ | _
    · exact hrest true
    · exact Answers.bind (h g) (hrest (test g))

/-- Every graph that staged writes go into or come from is kept account of. -/
def Covers (o : GraphOverlay) (g : Staging) : Prop :=
  ∀ s graph, s.graph = some graph →
    (g.isAdded s = true → graph ∈ o.added) ∧ (g.isRemoved s = true → graph ∈ o.removed)

theorem Covers.empty : Covers ∅ ∅ :=
  fun _ _ _ => ⟨(nomatch ·), (nomatch ·)⟩

theorem mem_added_noteAdd {o : GraphOverlay} {name : GraphName} {graph : Term} :
    graph ∈ (o.noteAdd name).added ↔ name = some graph ∨ graph ∈ o.added := by
  cases name with
  | none => simp [noteAdd]
  | some g => simp [noteAdd, eq_comm]

theorem mem_removed_noteRemove {o : GraphOverlay} {name : GraphName} {graph : Term} :
    graph ∈ (o.noteRemove name).removed ↔ name = some graph ∨ graph ∈ o.removed := by
  cases name with
  | none => simp [noteRemove]
  | some g => simp [noteRemove, eq_comm]

@[simp] theorem removed_noteAdd (o : GraphOverlay) (name : GraphName) :
    (o.noteAdd name).removed = o.removed := by
  cases name <;> rfl

@[simp] theorem added_noteRemove (o : GraphOverlay) (name : GraphName) :
    (o.noteRemove name).added = o.added := by
  cases name <;> rfl

theorem Covers.add {o : GraphOverlay} {g : Staging} (h : o.Covers g) (kind : BatchKind)
    (s : Statement) : (o.noteAdd s.graph).Covers (g.add kind s) := by
  intro t graph ht
  rw [mem_added_noteAdd, removed_noteAdd]
  refine ⟨fun hadded => ?_, fun hremoved => ?_⟩
  · rcases Staging.isAdded_add.mp hadded with rfl | hadded
    · exact .inl ht
    · exact .inr ((h t graph ht).1 hadded)
  · exact (h t graph ht).2 (Staging.isRemoved_add.mp hremoved).1

theorem Covers.remove {o : GraphOverlay} {g : Staging} (h : o.Covers g) (kind : BatchKind)
    (s : Statement) : (o.noteRemove s.graph).Covers (g.remove kind s) := by
  intro t graph ht
  rw [mem_removed_noteRemove, added_noteRemove]
  refine ⟨fun hadded => ?_, fun hremoved => ?_⟩
  · exact (h t graph ht).1 (Staging.isAdded_remove.mp hadded).1
  · rcases Staging.isRemoved_remove.mp hremoved with rfl | hremoved
    · exact .inl ht
    · exact .inr ((h t graph ht).2 hremoved)

/-- An untouched graph holds in the view what it holds in the store. -/
theorem Covers.mem_onto_iff {o : GraphOverlay} {g : Staging} (h : o.Covers g) {m : Model}
    {graph : Term} (ht : o.touches graph = false) {s : Statement} (hs : s.graph = some graph) :
    s ∈ g.onto m ↔ s ∈ m := by
  simp only [touches, Bool.or_eq_false_iff, decide_eq_false_iff_not] at ht
  have hadded : g.isAdded s = false := by
    rw [← Bool.not_eq_true]
    exact fun hadded => ht.1 ((h s graph hs).1 hadded)
  have hremoved : g.isRemoved s = false := by
    rw [← Bool.not_eq_true]
    exact fun hremoved => ht.2 ((h s graph hs).2 hremoved)
  simp [hadded, hremoved]

/-- The graphs that exist, as far as a test tells for the touched ones. -/
def found (o : GraphOverlay) (stored : List Term) (test : Term → Bool) : List Term :=
  (SortedSet.ofList ((stored ++ o.added.toList).filter fun g => !o.touches g || test g)).toList

theorem resolve_answers {populated : Term → SessionM σ Bool} {test : Term → Bool}
    (h : ∀ g, (populated g).Answers x (test g)) (o : GraphOverlay) (stored : List Term) :
    (o.resolve stored populated).Answers x (o.found stored test) :=
  Answers.bind (existing_answers h o _) (Answers.pure _ x)

/-- The graphs that exist are the named graphs of the view. -/
theorem found_of_covers {o : GraphOverlay} {g : Staging} (hcov : o.Covers g) (m : Model) :
    o.found m.namedGraphs.toList (fun graph => (g.onto m).anySelected (.within [some graph])) =
      (g.onto m).namedGraphs.toList := by
  have hset : SortedSet.ofList ((m.namedGraphs.toList ++ o.added.toList).filter fun graph =>
      !o.touches graph || (g.onto m).anySelected (.within [some graph])) =
        (g.onto m).namedGraphs := by
    ext graph
    have hany : (g.onto m).anySelected (.within [some graph]) = true ↔
        graph ∈ (g.onto m).namedGraphs := by
      rw [Model.anySelected_iff, Model.mem_namedGraphs]
      simp [Pattern.selects, Pattern.within, Pattern.accepts_iff]
    rw [SortedSet.mem_ofList, List.mem_filter, List.mem_append, Bool.or_eq_true, hany]
    constructor
    · rintro ⟨hmem, hkeep⟩
      rcases hkeep with huntouched | hpop
      · -- an untouched graph is one of the store, and its statements are still there
        have ht : o.touches graph = false := by simpa using huntouched
        have hstored : graph ∈ m.namedGraphs := by
          rcases hmem with hstored | hadded
          · exact hstored
          · simp only [touches, Bool.or_eq_false_iff, decide_eq_false_iff_not] at ht
            exact absurd hadded ht.1
        obtain ⟨s, hs, hgraph⟩ := Model.mem_namedGraphs.mp hstored
        exact Model.mem_namedGraphs.mpr ⟨s, (hcov.mem_onto_iff ht hgraph).mpr hs, hgraph⟩
      · exact hpop
    · intro hpop
      refine ⟨?_, .inr hpop⟩
      obtain ⟨s, hs, hgraph⟩ := Model.mem_namedGraphs.mp hpop
      rcases Staging.mem_onto.mp hs with ⟨hs, -⟩ | hadded
      · exact .inl (Model.mem_namedGraphs.mpr ⟨s, hs, hgraph⟩)
      · exact .inr ((hcov s graph hgraph).1 hadded)
  exact congrArg SortedSet.toList hset

end GraphOverlay

end QuadTxn
