import QuadTxn.Proofs.Statements.Locality
import Mathlib.Data.List.Forall2

/-!
# What unification finds

To unify a position, a triple or a whole query with terms and statements is to look for the solution
that keeps the bindings so far, binds the variables at hand and nothing else, and under which the
one reads as the other. There is at most one such solution, and unification finds it if there is one
(`Unifies`). This is passed from the parts to the whole: `Position.unifies`, `TriplePattern.unifies`
and `Query.unifies` are one argument, `Unifies.bind`.
-/

namespace QuadTxn

/-! ## The variables of a query -/

/-- The variable at a position, if it is one. -/
def Position.vars : Position → List String
  | .var name => [name]
  | .const _ => []

/-- The variables of a triple. -/
def TriplePattern.vars (t : TriplePattern) : List String :=
  t.subject.vars ++ (t.predicate.vars ++ t.object.vars)

/-- The variables of a query. -/
def Query.vars (q : Query) : List String := q.flatMap TriplePattern.vars

namespace Bindings

/-- A solution keeps every binding of another, and binds the given names and no others besides. -/
structure Grows (b : Bindings) (names : List String) (μ : Bindings) : Prop where
  /-- what was bound stays bound -/
  keeps : b.Extends μ
  /-- what is bound was bound before, or is one of the names -/
  bound : ∀ name, μ.contains name = true ↔ b.contains name = true ∨ name ∈ names

theorem contains_iff {b : Bindings} {name : String} :
    b.contains name = true ↔ ∃ t, b.get? name = some t := Option.isSome_iff_exists

/-- What the smaller of two solutions binds, both bind to the same term. -/
theorem Extends.get?_eq {b b' : Bindings} (h : b.Extends b') {name : String}
    (hname : b.contains name = true) : b'.get? name = b.get? name := by
  obtain ⟨t, ht⟩ := contains_iff.mp hname
  rw [ht, h name t ht]

namespace Grows

theorem trans {b ν μ : Bindings} {names names' : List String} (h : b.Grows names ν)
    (h' : ν.Grows names' μ) : b.Grows (names ++ names') μ :=
  ⟨h.keeps.trans h'.keeps, fun name => by rw [h'.bound, h.bound, List.mem_append, or_assoc]⟩

/-- The names that are bound at the end are the same in any order. -/
theorem congr {b μ : Bindings} {names names' : List String}
    (hnames : ∀ name, name ∈ names ↔ name ∈ names') (h : b.Grows names μ) : b.Grows names' μ :=
  ⟨h.keeps, fun name => by rw [h.bound, hnames]⟩

/-- A variable that was bound to nothing is left so, unless it is one of the names. -/
theorem get?_eq_none {b μ : Bindings} {names : List String} (h : b.Grows names μ) {name : String}
    (hfree : b.get? name = none) (hname : name ∉ names) : μ.get? name = none := by
  refine Option.eq_none_iff_forall_ne_some.mpr fun t ht => ?_
  rcases (h.bound name).mp (contains_iff.mpr ⟨t, ht⟩) with hbound | hmem
  · obtain ⟨u, hu⟩ := contains_iff.mp hbound
    rw [hfree] at hu
    cases hu
  · exact hname hmem

/-- Where the names were all bound, nothing new is. -/
theorem iff_eq_of_bound {b μ : Bindings} {names : List String}
    (hnames : ∀ name ∈ names, b.contains name = true) : b.Grows names μ ↔ b = μ := by
  constructor
  · intro h
    ext1 name
    rcases hget : b.get? name with _ | t
    · refine (h.get?_eq_none hget fun hmem => ?_).symm
      obtain ⟨u, hu⟩ := contains_iff.mp (hnames name hmem)
      rw [hget] at hu
      cases hu
    · exact (h.keeps name t hget).symm
  · rintro rfl
    exact ⟨Extends.refl b, fun name => (or_iff_left_of_imp (hnames name)).symm⟩

/-- A free variable is bound to a term in one way only. -/
theorem insert_iff {b μ : Bindings} {name : String} {t : Term} (hfree : b.get? name = none) :
    b.insert name t = μ ↔ b.Grows [name] μ ∧ μ.get? name = some t := by
  constructor
  · rintro rfl
    refine ⟨⟨fun name' u hu => ?_, fun name' => ?_⟩, SortedMap.get?_insert_self b name t⟩
    · have hne : name' ≠ name := fun heq => by
        rw [heq, hfree] at hu
        cases hu
      rw [SortedMap.get?_insert_ne b t hne, hu]
    · rw [List.mem_singleton, SortedMap.contains, SortedMap.get?_insert]
      by_cases heq : name' = name <;> simp [heq, SortedMap.contains]
  · rintro ⟨hgrows, ht⟩
    ext1 name'
    rw [SortedMap.get?_insert]
    split
    · rename_i heq
      rw [heq, ht]
    · rename_i hne
      rcases hget : b.get? name' with _ | u
      · exact (hgrows.get?_eq_none hget (mt List.mem_singleton.mp hne)).symm
      · exact (hgrows.keeps name' u hget).symm

/-- Growth by two lists of names goes by way of the first: the solution cut down to what was bound
and to the names of the first. -/
theorem split {b μ : Bindings} {names names' : List String} (h : b.Grows (names ++ names') μ) :
    ∃ ν, b.Grows names ν ∧ ν.Grows names' μ := by
  let chosen : String → Bool := fun name => b.contains name || names.contains name
  have hchosen : ∀ name, chosen name = true ↔ b.contains name = true ∨ name ∈ names :=
    fun name => by rw [Bool.or_eq_true, List.contains_iff_mem]
  have hget : ∀ name, SortedMap.get? (μ.filter fun name _ => chosen name) name =
      if chosen name then μ.get? name else none := SortedMap.get?_filter chosen μ
  have hin : ∀ name, SortedMap.contains (μ.filter fun name _ => chosen name) name = true ↔
      b.contains name = true ∨ name ∈ names := by
    intro name
    rw [← hchosen, SortedMap.contains, hget]
    by_cases hc : chosen name = true
    · have hμ : μ.contains name = true := by
        rw [h.bound, List.mem_append]
        exact ((hchosen name).mp hc).imp_right Or.inl
      rw [if_pos hc]
      exact iff_of_true hμ hc
    · rw [if_neg hc]
      exact iff_of_false (by simp) hc
  refine ⟨μ.filter fun name _ => chosen name, ⟨fun name t ht => ?_, hin⟩,
    ⟨fun name t ht => ?_, fun name => ?_⟩⟩
  · rw [hget, if_pos ((hchosen name).mpr (.inl (contains_iff.mpr ⟨t, ht⟩)))]
    exact h.keeps name t ht
  · rw [hget] at ht
    split at ht
    · exact ht
    · cases ht
  · rw [h.bound, hin, List.mem_append, or_assoc]

end Grows

end Bindings

/-! ## Unification -/

/-- A function finds the one solution that extends another by the given names and meets a condition,
if there is one. What these names are bound to decides whether the condition is met. -/
structure Unifies (f : Bindings → Option Bindings) (names : List String)
    (Meets : Bindings → Prop) : Prop where
  /-- more bindings make no difference to a solution that binds the names -/
  settled : ∀ {ν μ : Bindings}, ν.Extends μ → (∀ name ∈ names, ν.contains name = true) →
    (Meets ν ↔ Meets μ)
  /-- what is found is a solution, and the only one -/
  eq_some_iff : ∀ {b μ : Bindings}, f b = some μ ↔ b.Grows names μ ∧ Meets μ

namespace Unifies

variable {f g : Bindings → Option Bindings} {names names' : List String}
  {Meets Meets' : Bindings → Prop}

/-- One unification after another finds the solution that meets both conditions. -/
theorem bind (hf : Unifies f names Meets) (hg : Unifies g names' Meets') :
    Unifies (fun b => (f b).bind g) (names ++ names') (fun μ => Meets μ ∧ Meets' μ) where
  settled hext hbound :=
    and_congr (hf.settled hext fun name hname => hbound name (List.mem_append_left _ hname))
      (hg.settled hext fun name hname => hbound name (List.mem_append_right _ hname))
  eq_some_iff {b μ} := by
    rw [Option.bind_eq_some_iff]
    constructor
    · rintro ⟨ν, hν, hμ⟩
      obtain ⟨hbν, hmeets⟩ := hf.eq_some_iff.mp hν
      obtain ⟨hνμ, hmeets'⟩ := hg.eq_some_iff.mp hμ
      have hnames : ∀ name ∈ names, ν.contains name = true :=
        fun name hname => (hbν.bound name).mpr (.inr hname)
      exact ⟨hbν.trans hνμ, (hf.settled hνμ.keeps hnames).mp hmeets, hmeets'⟩
    · rintro ⟨hbμ, hmeets, hmeets'⟩
      -- the solution on the way binds the names of the first condition, so it meets it already
      obtain ⟨ν, hbν, hνμ⟩ := hbμ.split
      have hnames : ∀ name ∈ names, ν.contains name = true :=
        fun name hname => (hbν.bound name).mpr (.inr hname)
      exact ⟨ν, hf.eq_some_iff.mpr ⟨hbν, (hf.settled hνμ.keeps hnames).mpr hmeets⟩,
        hg.eq_some_iff.mpr ⟨hνμ, hmeets'⟩⟩

/-- Conditions can be met in either order. -/
theorem bind_comm (hf : Unifies f names Meets) (hg : Unifies g names' Meets') (b : Bindings) :
    (f b).bind g = (g b).bind f := by
  ext μ
  rw [(hf.bind hg).eq_some_iff, (hg.bind hf).eq_some_iff, and_comm]
  have hswap : ∀ {l l' : List String}, b.Grows (l ++ l') μ → b.Grows (l' ++ l) μ := fun h =>
    h.congr fun name => by rw [List.mem_append, List.mem_append, or_comm]
  exact ⟨fun ⟨⟨h, h'⟩, hgrows⟩ => ⟨hswap hgrows, h', h⟩,
    fun ⟨hgrows, h', h⟩ => ⟨⟨h, h'⟩, hswap hgrows⟩⟩

end Unifies

namespace Position

theorem unifies (p : Position) (t : Term) :
    Unifies (p.unify t) p.vars (fun μ => p.resolve μ = some t) where
  settled {ν μ} hext hbound := by
    cases p with
    | const u => exact Iff.rfl
    | var name =>
      simp only [resolve]
      rw [hext.get?_eq (hbound name List.mem_cons_self)]
  eq_some_iff {b μ} := by
    cases p with
    | const u =>
      simp only [unify, resolve, vars]
      rw [Bindings.Grows.iff_eq_of_bound (List.forall_mem_nil _), Option.some.injEq, and_comm]
      split <;> simp [*]
    | var name =>
      simp only [unify, resolve, vars]
      rcases hget : b.get? name with _ | u
      · rw [Option.some.injEq, Bindings.Grows.insert_iff hget]
      · -- a variable that is bound is a constant by now
        have hbound : ∀ name' ∈ [name], b.contains name' = true := fun name' hname' =>
          Bindings.contains_iff.mpr ⟨u, List.mem_singleton.mp hname' ▸ hget⟩
        rw [Bindings.Grows.iff_eq_of_bound hbound, and_comm]
        dsimp only
        split
        · rename_i heq
          rw [Option.some.injEq, iff_and_self]
          rintro rfl
          rw [hget, heq]
        · rename_i hne
          refine iff_of_false (Option.some_ne_none μ).symm ?_
          rintro ⟨ht, rfl⟩
          rw [hget] at ht
          exact hne (Option.some.inj ht)

end Position

namespace TriplePattern

/-- Under a solution, a triple is the subject, predicate and object of a statement. -/
def Reads (t : TriplePattern) (μ : Bindings) (s : Statement) : Prop :=
  t.subject.resolve μ = some s.subject ∧ t.predicate.resolve μ = some s.predicate ∧
    t.object.resolve μ = some s.object

theorem unifies (t : TriplePattern) (s : Statement) :
    Unifies (t.unify s) t.vars (fun μ => t.Reads μ s) :=
  (t.subject.unifies s.subject).bind
    ((t.predicate.unifies s.predicate).bind (t.object.unifies s.object))

end TriplePattern

namespace Query

/-- The solution in which the triples of a query stand for statements, one each and in order. -/
def unify : Query → List Statement → Bindings → Option Bindings
  | [], [], b => some b
  | t :: ts, s :: ss, b => (t.unify s b).bind (unify ts ss)
  | _, _, _ => none

theorem unifies (q : Query) (ss : List Statement) :
    Unifies (q.unify ss) q.vars (fun μ => List.Forall₂ (fun t s => t.Reads μ s) q ss) := by
  induction q generalizing ss with
  | nil =>
    rcases ss with _ | ⟨s, ss⟩
    · refine ⟨fun _ _ => by simp, fun {b μ} => ?_⟩
      simp only [unify, Option.some.injEq, List.forall₂_nil_left_iff, and_true]
      exact (Bindings.Grows.iff_eq_of_bound (List.forall_mem_nil _)).symm
    · exact ⟨fun _ _ => by simp, by simp [unify]⟩
  | cons t ts ih =>
    rcases ss with _ | ⟨s, ss⟩
    · exact ⟨fun _ _ => by simp, by simp [unify]⟩
    · simp only [List.forall₂_cons]
      exact (t.unifies s).bind (ih ss)

end Query

end QuadTxn
