import QuadTxn.Proofs.Statements.Unification
import QuadTxn.Store.Error
import Mathlib.Data.Multiset.Bind

/-!
# The solutions of a query are exact

A basic graph pattern asks for a statement for each of its triples, each in an accepted graph, and
for the solution under which every triple reads as its statement. The nested loop returns these
solutions, one for each choice of statements and no others
(`Query.solutions_match_choices_of_statements`).

It is enough to look at the loop that takes every accepted statement in turn and unifies: the
candidates that the source is asked for leave out only statements that cannot be unified
(`Model.filterMap_candidates`), and the early return leaves out nothing (`Model.solutions_cons`).
-/

namespace QuadTxn

/-! ## The nested loop -/

namespace Model

variable (m : Model) (d : Dataset)

/-- A statement that a triple can stand for is a candidate of it if the graph is accepted. -/
theorem selects_of_unify {t : TriplePattern} {s : Statement} {b μ : Bindings}
    (h : t.unify s b = some μ) :
    (t.candidates b d).selects s = (Pattern.within d).selects s := by
  obtain ⟨hgrows, hs, hp, ho⟩ := (t.unifies s).eq_some_iff.mp h
  have hadmits : ∀ {p : Position} {u : Term}, p.resolve μ = some u →
      Pattern.admits (p.resolve b) u = true := fun hu =>
    Position.admits_of_extends hgrows.keeps (hu ▸ (Pattern.admits_some _ _).mpr rfl)
  simp only [Pattern.selects, TriplePattern.candidates, Pattern.within, Pattern.admits_none,
    hadmits hs, hadmits hp, hadmits ho]

/-- The source may as well be asked for every statement of the accepted graphs. -/
theorem filterMap_candidates (t : TriplePattern) (b : Bindings) :
    (m.select (t.candidates b d)).filterMap (t.unify · b) =
      (m.select (.within d)).filterMap (t.unify · b) := by
  rw [select, select, List.filterMap_filter, List.filterMap_filter]
  refine List.filterMap_congr fun s _ => ?_
  rcases h : t.unify s b with _ | μ
  · rw [ite_self, ite_self]
  · rw [selects_of_unify d h]

theorem extendAll_run (t : TriplePattern) (bs : List Bindings) :
    (Query.extendAll (m := Id) (fun p => m.select p) d t bs).run =
      bs.flatMap fun b => (m.select (.within d)).filterMap (t.unify · b) := by
  induction bs with
  | nil => rfl
  | cons b bs ih =>
    rw [List.flatMap_cons, ← ih, ← filterMap_candidates]
    rfl

/-- Where nothing is left the loop finds nothing, so its early return makes no difference. -/
theorem join_cons_run (t : TriplePattern) (q : Query) (bs : List Bindings) :
    (Query.join (m := Id) (fun p => m.select p) d (t :: q) bs).run =
      (Query.join (m := Id) (fun p => m.select p) d q
        (Query.extendAll (m := Id) (fun p => m.select p) d t bs).run).run := by
  simp only [Query.join, Id.run_bind]
  split
  · rename_i hnone
    rw [List.isEmpty_iff.mp hnone]
    cases q <;> rfl
  · rfl

/-- The loop takes the solutions so far one by one. -/
theorem join_run (q : Query) (bs : List Bindings) :
    (Query.join (m := Id) (fun p => m.select p) d q bs).run = bs.flatMap (m.solutions q d) := by
  induction q generalizing bs with
  | nil => exact (List.flatMap_singleton' bs).symm
  | cons t q ih =>
    rw [join_cons_run, ih, extendAll_run, List.flatMap_assoc]
    refine List.flatMap_congr fun b _ => ?_
    rw [solutions, Query.evaluate, join_cons_run, ih, extendAll_run, List.flatMap_singleton]

/-- The first triple stands for each accepted statement in turn. -/
theorem solutions_cons (t : TriplePattern) (q : Query) (b : Bindings) :
    m.solutions (t :: q) d b = (m.select (.within d)).flatMap fun s =>
      (t.unify s b).toList.flatMap (m.solutions q d) := by
  rw [solutions, Query.evaluate, join_cons_run, join_run, extendAll_run, List.flatMap_singleton,
    List.filterMap_eq_flatMap_toList, List.flatMap_assoc]

/-! ## One solution for each choice of statements -/

/-- The choices of a statement for each triple of a query, in the order of the loop. -/
def choices : Query → List (List Statement)
  | [] => [[]]
  | _ :: q => (m.select (.within d)).flatMap fun s => (choices q).map (s :: ·)

theorem mem_choices {q : Query} {ss : List Statement} :
    ss ∈ m.choices d q ↔ ss.length = q.length ∧ ∀ s ∈ ss, s ∈ m.select (.within d) := by
  induction q generalizing ss with
  | nil =>
    rw [choices, List.mem_singleton, List.length_nil, List.length_eq_zero_iff]
    exact ⟨fun h => ⟨h, h ▸ List.forall_mem_nil _⟩, And.left⟩
  | cons t q ih =>
    simp only [choices, List.mem_flatMap, List.mem_map, ih]
    constructor
    · rintro ⟨s, hs, ss, ⟨hlength, hss⟩, rfl⟩
      exact ⟨congrArg (· + 1) hlength, List.forall_mem_cons.mpr ⟨hs, hss⟩⟩
    · rintro ⟨hlength, hss⟩
      rcases ss with _ | ⟨s, ss⟩
      · cases hlength
      · obtain ⟨hs, hss⟩ := List.forall_mem_cons.mp hss
        exact ⟨s, hs, ss, ⟨Nat.succ.inj hlength, hss⟩, rfl⟩

/-- No choice is made twice, since no statement is listed twice. -/
theorem nodup_choices (q : Query) : (m.choices d q).Nodup := by
  induction q with
  | nil => exact List.nodup_singleton []
  | cons t q ih =>
    have hlisted : (m.select (.within d)).Nodup :=
      (SortedSet.nodup_of_sorted m.sorted).filter _
    rw [choices, List.nodup_flatMap]
    refine ⟨fun s _ => ih.map fun _ _ h => List.tail_eq_of_cons_eq h, ?_⟩
    refine hlisted.imp fun {s s'} hne => List.disjoint_left.mpr ?_
    intro ss hs hs'
    obtain ⟨_, -, rfl⟩ := List.mem_map.mp hs
    obtain ⟨_, -, heq⟩ := List.mem_map.mp hs'
    exact hne (List.head_eq_of_cons_eq heq).symm

/-- The loop unifies the query with every choice. -/
theorem solutions_eq (q : Query) (b : Bindings) :
    m.solutions q d b = (m.choices d q).filterMap (q.unify · b) := by
  induction q generalizing b with
  | nil => rfl
  | cons t q ih =>
    rw [solutions_cons, choices, List.filterMap_flatMap]
    refine List.flatMap_congr fun s _ => ?_
    rw [List.filterMap_map]
    rcases h : t.unify s b with _ | b'
    · simp [Query.unify, h, Function.comp_def]
    · simp [Query.unify, h, Function.comp_def, ih]

/-- The first two triples stand for each two accepted statements that can be unified in turn. -/
theorem solutions_cons_cons (t u : TriplePattern) (q : Query) (b : Bindings) :
    m.solutions (t :: u :: q) d b = (m.select (.within d)).flatMap fun s =>
      (m.select (.within d)).flatMap fun s' =>
        ((t.unify s b).bind (u.unify s')).toList.flatMap (m.solutions q d) := by
  rw [solutions_cons]
  refine List.flatMap_congr fun s _ => ?_
  rcases t.unify s b with _ | b'
  · simp
  · simp [solutions_cons]

/-- The order of the triples only changes the order of the solutions. -/
theorem solutions_perm {q q' : Query} (h : q.Perm q') (b : Bindings) :
    (m.solutions q d b).Perm (m.solutions q' d b) := by
  induction h generalizing b with
  | nil => exact .rfl
  | cons t _ ih =>
    rw [solutions_cons, solutions_cons]
    exact List.Perm.flatMap_left _ fun s _ => List.Perm.flatMap_left _ fun b' _ => ih b'
  | swap t u q =>
    rw [solutions_cons_cons, solutions_cons_cons]
    -- two triples can be unified in either order, so the two loops over statements can be swapped
    have hcomm : ∀ s s', (u.unify s b).bind (t.unify s') = (t.unify s' b).bind (u.unify s) :=
      fun s s' => (u.unifies s).bind_comm (t.unifies s') b
    simp only [hcomm, ← Multiset.coe_eq_coe, ← Multiset.coe_bind]
    exact Multiset.bind_bind _ _
  | trans _ _ ih ih' => exact (ih b).trans (ih' b)

end Model

namespace Query

/-- A solution of a query for a choice of statements: each triple reads as its statement, a
statement of the set in an accepted graph, and besides the variables of the query nothing is bound
that was not. -/
structure Solves (q : Query) (m : Model) (d : Dataset) (b : Bindings) (ss : List Statement)
    (μ : Bindings) : Prop where
  /-- each triple reads as its statement -/
  reads : List.Forall₂ (fun t s => t.Reads μ s) q ss
  /-- the statements are in the set -/
  present : ∀ s ∈ ss, s ∈ m
  /-- their graphs are accepted; no graphs accept every graph -/
  accepted : ∀ s ∈ ss, d = [] ∨ s.graph ∈ d
  /-- the bindings are kept, and grow by the variables of the query -/
  grows : b.Grows q.vars μ

variable {q : Query} {m : Model} {d : Dataset} {b : Bindings}

/-- A solution is what the loop finds for a choice that it makes. -/
theorem solves_iff {ss : List Statement} {μ : Bindings} :
    q.Solves m d b ss μ ↔ ss ∈ m.choices d q ∧ q.unify ss b = some μ := by
  have haccepted : ∀ s, s ∈ m.select (.within d) ↔ s ∈ m ∧ (d = [] ∨ s.graph ∈ d) := by
    intro s
    rw [Model.mem_select, ← Pattern.accepts_iff]
    rfl
  rw [Model.mem_choices, (q.unifies ss).eq_some_iff]
  constructor
  · intro h
    refine ⟨⟨h.reads.length_eq.symm, fun s hs => ?_⟩, h.grows, h.reads⟩
    exact (haccepted s).mpr ⟨h.present s hs, h.accepted s hs⟩
  · rintro ⟨⟨-, hss⟩, hgrows, hreads⟩
    exact ⟨hreads, fun s hs => ((haccepted s).mp (hss s hs)).1,
      fun s hs => ((haccepted s).mp (hss s hs)).2, hgrows⟩

/-- What a partial function finds in a list goes with the values that it finds it for. -/
theorem forall₂_filterMap {α β : Type} {f : α → Option β} {R : α → β → Prop} {l : List α}
    (h : ∀ a ∈ l, ∀ b, f a = some b → R a b) :
    List.Forall₂ R (l.filter fun a => (f a).isSome) (l.filterMap f) := by
  induction l with
  | nil => exact .nil
  | cons a l ih =>
    obtain ⟨ha, hl⟩ := List.forall_mem_cons.mp h
    rcases hfa : f a with _ | b
    · simpa [hfa] using ih hl
    · simpa [hfa] using ⟨ha b hfa, ih hl⟩

/-- A query over a set of statements succeeds and returns exactly its solutions: one for each choice
of statements that has one, and there is only one that it could be. All of them extend the given
bindings, and the order of the triples only changes the order of the solutions. -/
theorem solutions_match_choices_of_statements (q : Query) (m : Model) (d : Dataset) (b : Bindings) :
    ∃ found, evaluate (m := Except StoreError) (fun p => .ok (m.select p)) q d b = .ok found ∧
      (∃ choices : List (List Statement), choices.Nodup ∧
        (∀ ss, ss ∈ choices ↔ ∃ μ, q.Solves m d b ss μ) ∧
        List.Forall₂ (q.Solves m d b) choices found) ∧
      (∀ ss μ μ', q.Solves m d b ss μ → q.Solves m d b ss μ' → μ = μ') ∧
      (∀ μ ∈ found, b.Extends μ) ∧
      ∀ q', q.Perm q' → ∃ found',
        evaluate (m := Except StoreError) (fun p => .ok (m.select p)) q' d b = .ok found' ∧
          found.Perm found' := by
  have hsucceeds : ∀ q', evaluate (m := Except StoreError) (fun p => .ok (m.select p)) q' d b =
      .ok (m.solutions q' d b) := fun q' => evaluate_pure (fun p => m.select p) q' d b
  have hfinds : List.Forall₂ (q.Solves m d b)
      ((m.choices d q).filter fun ss => (q.unify ss b).isSome) (m.solutions q d b) := by
    rw [m.solutions_eq]
    exact forall₂_filterMap fun ss hss μ hμ => solves_iff.mpr ⟨hss, hμ⟩
  refine ⟨m.solutions q d b, hsucceeds q, ⟨_, (m.nodup_choices d q).filter _, ?_, hfinds⟩,
    ?_, ?_, ?_⟩
  · intro ss
    rw [List.mem_filter, Option.isSome_iff_exists]
    constructor
    · rintro ⟨hss, μ, hμ⟩
      exact ⟨μ, solves_iff.mpr ⟨hss, hμ⟩⟩
    · rintro ⟨μ, hμ⟩
      obtain ⟨hss, hunify⟩ := solves_iff.mp hμ
      exact ⟨hss, μ, hunify⟩
  · intro ss μ μ' hμ hμ'
    obtain ⟨-, hunify⟩ := solves_iff.mp hμ
    obtain ⟨-, hunify'⟩ := solves_iff.mp hμ'
    exact Option.some.inj (hunify.symm.trans hunify')
  · intro μ hμ
    rw [m.solutions_eq, List.mem_filterMap] at hμ
    obtain ⟨ss, hss, hunify⟩ := hμ
    exact (solves_iff.mpr ⟨hss, hunify⟩).grows.keeps
  · intro q' hperm
    exact ⟨m.solutions q' d b, hsucceeds q', m.solutions_perm d hperm b⟩

end Query

/-- A statement that is in two graphs is found once for each of them. -/
example :
    let s : Statement := ⟨.iri "x:a", .iri "x:p", .iri "x:b", none⟩
    let t : TriplePattern := ⟨.var "s", .const (.iri "x:p"), .var "o"⟩
    let μ : Bindings := .ofList [("s", .iri "x:a"), ("o", .iri "x:b")]
    (Model.solutions (.ofList [s, { s with graph := some (.iri "x:g") }]) [t] [] ∅) = [μ, μ] := by
  decide +kernel

end QuadTxn
