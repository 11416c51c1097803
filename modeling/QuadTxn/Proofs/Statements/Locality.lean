import QuadTxn.Proofs.Statements.Replay
import QuadTxn.Query.Join
import QuadTxn.Txn.Read

/-!
# What a query looks at

The nested loop asks its source for the candidates of each triple pattern under the solutions found
so far. These solutions extend the initial bindings, so the candidates asked for are among the
candidates under the initial bindings: the footprint of the query. Two sets that agree on the
footprint give the same solutions (`Model.solutions_congr`). Whatever the source answers, all that
it is asked for is within the footprint (`Query.evaluate_asking`).
-/

namespace QuadTxn

namespace Bindings

/-- A solution keeps every binding of another. -/
def Extends (b b' : Bindings) : Prop := ∀ name t, b.get? name = some t → b'.get? name = some t

theorem Extends.refl (b : Bindings) : Extends b b := fun _ _ h => h

theorem Extends.trans {b₁ b₂ b₃ : Bindings} (h₁₂ : Extends b₁ b₂) (h₂₃ : Extends b₂ b₃) :
    Extends b₁ b₃ := fun name t h => h₂₃ name t (h₁₂ name t h)

end Bindings

namespace Position

/-- Unification only binds what was unbound. -/
theorem extends_of_unify {p : Position} {t : Term} {b b' : Bindings}
    (h : p.unify t b = some b') : b.Extends b' := by
  cases p with
  | const u =>
    simp only [unify] at h
    split at h
    · obtain rfl := Option.some.inj h
      exact Bindings.Extends.refl b
    · cases h
  | var name =>
    simp only [unify] at h
    split at h
    · split at h
      · obtain rfl := Option.some.inj h
        exact Bindings.Extends.refl b
      · cases h
    · rename_i hfree
      obtain rfl := Option.some.inj h
      -- the name that is bound here was free, so it is none that `b` binds
      intro name' u hu
      have hne : name' ≠ name := fun heq => by
        rw [heq, hfree] at hu
        cases hu
      rw [SortedMap.get?_insert_ne _ _ hne]
      exact hu

/-- A position that is free under more bindings admits no less than under fewer. -/
theorem admits_of_extends {p : Position} {b b' : Bindings} (hb : b.Extends b') {t : Term}
    (h : Pattern.admits (p.resolve b') t = true) : Pattern.admits (p.resolve b) t = true := by
  cases p with
  | const u => exact h
  | var name =>
    simp only [resolve] at h ⊢
    rcases hget : b.get? name with _ | u
    · rfl
    · rw [hb name u hget] at h
      exact h

end Position

namespace TriplePattern

theorem extends_of_unify {t : TriplePattern} {s : Statement} {b b' : Bindings}
    (h : t.unify s b = some b') : b.Extends b' := by
  simp only [unify] at h
  obtain ⟨b₁, h₁, h⟩ := Option.bind_eq_some_iff.mp h
  obtain ⟨b₂, h₂, h₃⟩ := Option.bind_eq_some_iff.mp h
  exact ((Position.extends_of_unify h₁).trans (Position.extends_of_unify h₂)).trans
    (Position.extends_of_unify h₃)

/-- The candidates under more bindings are among those under fewer. -/
theorem selects_candidates_of_extends {t : TriplePattern} {b b' : Bindings} {d : Dataset}
    (hb : b.Extends b') {s : Statement} (h : (t.candidates b' d).selects s = true) :
    (t.candidates b d).selects s = true := by
  simp only [Pattern.selects, candidates, Bool.and_eq_true] at h ⊢
  obtain ⟨⟨⟨hs, hp⟩, ho⟩, hg⟩ := h
  exact ⟨⟨⟨Position.admits_of_extends hb hs, Position.admits_of_extends hb hp⟩,
    Position.admits_of_extends hb ho⟩, hg⟩

end TriplePattern

namespace Query

section Locality

variable {source source' : Source Id} {d : Dataset} {b : Bindings}

/-- The solutions found for one more triple pattern still extend the initial bindings. -/
theorem extends_of_mem_extendAll {t : TriplePattern} {bs : List Bindings}
    (hbs : ∀ b' ∈ bs, b.Extends b') {b' : Bindings}
    (h : b' ∈ (extendAll source d t bs).run) : b.Extends b' := by
  induction bs with
  | nil => simp [extendAll] at h
  | cons b₁ bs ih =>
    simp only [extendAll, extend, Id.run_bind, Id.run_pure, List.mem_append,
      List.mem_filterMap] at h
    rcases h with ⟨s, -, hs⟩ | h
    · exact (hbs b₁ List.mem_cons_self).trans (TriplePattern.extends_of_unify hs)
    · exact ih (fun b₂ hb₂ => hbs b₂ (List.mem_cons_of_mem _ hb₂)) h

/-- Sources that answer alike under every solution of a list extend it alike. -/
theorem extendAll_congr {t : TriplePattern} {bs : List Bindings}
    (h : ∀ b' ∈ bs, source (t.candidates b' d) = source' (t.candidates b' d)) :
    extendAll source d t bs = extendAll source' d t bs := by
  induction bs with
  | nil => rfl
  | cons b₁ bs ih =>
    simp only [extendAll, extend]
    rw [h b₁ List.mem_cons_self, ih fun b₂ hb₂ => h b₂ (List.mem_cons_of_mem _ hb₂)]

/-- Sources that answer alike to all that the loop can ask for join alike. The loop can only ask
under solutions that extend the initial bindings. -/
theorem join_congr {q : Query} {bs : List Bindings} (hbs : ∀ b' ∈ bs, b.Extends b')
    (h : ∀ t ∈ q, ∀ b', b.Extends b' → source (t.candidates b' d) = source' (t.candidates b' d)) :
    join source d q bs = join source' d q bs := by
  induction q generalizing bs with
  | nil => rfl
  | cons t ts ih =>
    have hstep : extendAll source d t bs = extendAll source' d t bs :=
      extendAll_congr fun b' hb' => h t List.mem_cons_self b' (hbs b' hb')
    have hnext : ∀ b' ∈ (extendAll source' d t bs).run, b.Extends b' :=
      fun b' hb' => extends_of_mem_extendAll hbs hb'
    simp only [join]
    rw [hstep]
    -- the loop stops early where nothing is found, and asks for the rest otherwise
    have hrest := ih hnext fun t' ht' => h t' (List.mem_cons_of_mem _ ht')
    change (if (extendAll source' d t bs).run.isEmpty then pure [] else
      join source d ts (extendAll source' d t bs).run) = _
    rw [hrest]
    rfl

end Locality

/-! ## What the loop asks for -/

/-- A source that keeps account of the patterns that it is asked for. -/
def asking (source : Source Id) : Source (StateM (List Pattern)) := fun p => do
  modify (· ++ [p])
  return (source p).run

/-- The patterns that a query asks its source for, in order. -/
def asked (source : Source Id) (q : Query) (d : Dataset) (b : Bindings) : List Pattern :=
  ((evaluate (asking source) q d b).run []).run.2

section Asked

variable {source : Source Id} {d : Dataset} {b : Bindings}

/-- Each solution asks for the candidates of the triple pattern under it. -/
theorem extendAll_asking (t : TriplePattern) (bs : List Bindings) (ps : List Pattern) :
    (extendAll (asking source) d t bs).run ps =
      pure ((extendAll source d t bs).run, ps ++ bs.map (t.candidates · d)) := by
  induction bs generalizing ps with
  | nil => simp [extendAll]
  | cons b bs ih =>
    have hfirst : (extend (asking source) d t b).run ps =
        pure ((extend source d t b).run, ps ++ [t.candidates b d]) := rfl
    simp only [extendAll, StateT.run_bind, hfirst, pure_bind, ih, StateT.run_pure, Id.run_bind,
      Id.run_pure, List.append_assoc, List.map_cons, List.singleton_append]

/-- The loop finds the same solutions when account is kept, and asks only under solutions that
extend the initial bindings. -/
theorem join_asking {q : Query} {bs : List Bindings} (hbs : ∀ b' ∈ bs, b.Extends b')
    (ps : List Pattern) : ∃ new,
      (join (asking source) d q bs).run ps = pure ((join source d q bs).run, ps ++ new) ∧
      ∀ p ∈ new, ∃ t ∈ q, ∃ b', b.Extends b' ∧ p = t.candidates b' d := by
  induction q generalizing bs ps with
  | nil => exact ⟨[], by simp [join], nofun⟩
  | cons t ts ih =>
    have hnext : ∀ b' ∈ (extendAll source d t bs).run, b.Extends b' :=
      fun b' hb' => extends_of_mem_extendAll hbs hb'
    have hhere : ∀ p ∈ bs.map (t.candidates · d),
        ∃ u ∈ t :: ts, ∃ b', b.Extends b' ∧ p = u.candidates b' d := by
      intro p hp
      obtain ⟨b', hb', rfl⟩ := List.mem_map.mp hp
      exact ⟨t, List.mem_cons_self, b', hbs b' hb', rfl⟩
    simp only [join, StateT.run_bind, extendAll_asking, pure_bind, Id.run_bind]
    split
    · -- nothing is found, and the loop stops
      exact ⟨_, rfl, hhere⟩
    · obtain ⟨new, hrest, hnew⟩ := ih hnext (ps ++ bs.map (t.candidates · d))
      refine ⟨bs.map (t.candidates · d) ++ new, ?_, List.forall_mem_append.mpr ⟨hhere, ?_⟩⟩
      · rw [hrest, List.append_assoc]
      · intro p hp
        obtain ⟨u, hu, b', hb', rfl⟩ := hnew p hp
        exact ⟨u, List.mem_cons_of_mem t hu, b', hb', rfl⟩

/-- Keeping account of what a query asks for does not change its solutions, and whatever it asks
for is asked for within the footprint of the query. -/
theorem evaluate_asking (source : Source Id) (q : Query) (d : Dataset) (b : Bindings)
    (inferred : Bool) :
    ((evaluate (asking source) q d b).run []).run.1 = (evaluate source q d b).run ∧
      ∀ p ∈ asked source q d b, ∃ p' ∈ (Read.ofQuery q d b inferred).footprint,
        ∀ s, p.selects s = true → p'.selects s = true := by
  have hstart : ∀ b' ∈ [b], b.Extends b' := by
    intro b' hb'
    obtain rfl := List.mem_singleton.mp hb'
    exact Bindings.Extends.refl b'
  obtain ⟨new, hjoin, hnew⟩ := @join_asking source d b q [b] hstart []
  have hasked : asked source q d b = new := by
    rw [asked, evaluate, hjoin]
    rfl
  refine ⟨by rw [evaluate, hjoin]; rfl, fun p hp => ?_⟩
  obtain ⟨t, ht, b', hb', rfl⟩ := hnew p (hasked ▸ hp)
  exact ⟨t.candidates b d, List.mem_map_of_mem ht,
    fun s hs => TriplePattern.selects_candidates_of_extends hb' hs⟩

end Asked

end Query

namespace Model

/-- The solutions of a query over a set of statements. -/
def solutions (m : Model) (q : Query) (d : Dataset) (b : Bindings) : List Bindings :=
  (Query.evaluate (m := Id) (fun p => m.select p) q d b).run

/-- Sets that agree on the footprint of a query give the same solutions. -/
theorem solutions_congr {m m' : Model} {q : Query} {d : Dataset} {b : Bindings} {inferred : Bool}
    (h : Agree (Read.ofQuery q d b inferred).footprint m m') :
    m.solutions q d b = m'.solutions q d b := by
  have hjoin : Query.join (m := Id) (fun p => m.select p) d q [b] =
      Query.join (m := Id) (fun p => m'.select p) d q [b] := by
    refine Query.join_congr (b := b) ?_ ?_
    · intro b' hb'
      obtain rfl := List.mem_singleton.mp hb'
      exact Bindings.Extends.refl b'
    · intro t ht b' hb'
      exact h.select_eq (List.mem_map_of_mem ht)
        fun s hs => TriplePattern.selects_candidates_of_extends hb' hs
  exact congrArg Id.run hjoin

end Model

end QuadTxn
