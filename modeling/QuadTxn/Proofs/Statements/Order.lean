import Mathlib.Order.Defs.Unbundled
import Mathlib.Data.String.Basic
import QuadTxn.Rdf.Statement

/-!
# The order of statements

Statements are compared part by part, in the order of their parts, and terms first by their kind.
Here the rules are stated one by one, for literals (`Literal.Before`), terms (`Term.Before`) and
statements (`Statement.Before`). The comparisons follow these rules, and each of them puts the
values of its type into one line (`Ordered`).
-/

namespace QuadTxn

/-- A comparison puts all values of a type into one line, in the order of the given relation. -/
structure Ordered {α : Type} [Ord α] (before : α → α → Prop) : Prop where
  /-- of two different values one comes before the other, no value comes before itself, and what
  comes before a value comes before all that come after it -/
  total : IsStrictTotalOrder α before
  /-- a value is less if it comes before -/
  lt_iff : ∀ a b : α, compare a b = .lt ↔ before a b
  /-- values that compare equal are the same -/
  eq_iff : ∀ a b : α, compare a b = .eq ↔ a = b
  /-- a value is greater if the other one comes before -/
  gt_iff : ∀ a b : α, compare a b = .gt ↔ before b a

/-- The laws of a comparison are those of a strict total order. -/
theorem Ordered.of_lt_iff {α : Type} [Ord α] [Std.TransOrd α] [Std.LawfulEqOrd α]
    {before : α → α → Prop} (h : ∀ a b, compare a b = .lt ↔ before a b) : Ordered before where
  total :=
    { trichotomous a b hab hba := by
        rw [← h] at hab hba
        rcases hcompare : compare a b with _ | _ | _
        · exact absurd hcompare hab
        · exact Std.LawfulEqOrd.eq_of_compare hcompare
        · exact absurd (Std.OrientedCmp.gt_iff_lt.mp hcompare) hba
      irrefl a haa := by
        have hself : compare a a = .eq := Std.ReflCmp.compare_self
        rw [← h, hself] at haa
        cases haa
      trans a b c hab hbc := by
        rw [← h] at hab hbc ⊢
        exact Std.TransCmp.lt_trans hab hbc }
  lt_iff := h
  eq_iff _ _ := Std.LawfulEqOrd.compare_eq_iff_eq
  gt_iff a b := by rw [Std.OrientedCmp.gt_iff_lt, h]

/-- The first part in which two values differ decides. -/
theorem compare_then_eq_lt_iff {α : Type} [Ord α] [Std.LawfulEqOrd α] {a b : α} {o : Ordering} :
    (compare a b).then o = .lt ↔ compare a b = .lt ∨ a = b ∧ o = .lt := by
  rw [Ordering.then_eq_lt, Std.LawfulEqOrd.compare_eq_iff_eq]

/-- A part that may be absent is less if it is absent, or if it is less. -/
theorem compare_option_eq_lt_iff {α : Type} [Ord α] {before : α → α → Prop}
    (h : ∀ a b, compare a b = .lt ↔ before a b) (x y : Option α) :
    compare x y = .lt ↔ Option.lt before x y := by
  rcases x with _ | a <;> rcases y with _ | b
  · exact iff_of_false nofun id
  · exact iff_of_true rfl trivial
  · exact iff_of_false nofun id
  · exact h a b

theorem compare_string_eq_lt_iff (a b : String) : compare a b = .lt ↔ a < b :=
  compare_lt_iff_lt

/-- The order of literals: by lexical form, then datatype, then language. -/
inductive Literal.Before : Literal → Literal → Prop where
  /-- the lexical forms differ -/
  | lexical {l m : Literal} (h : l.lexical < m.lexical) : Before l m
  /-- the datatypes do -/
  | datatype {l m : Literal} (hlexical : l.lexical = m.lexical)
    (h : Option.lt (· < ·) l.datatype m.datatype) : Before l m
  /-- the languages do -/
  | language {l m : Literal} (hlexical : l.lexical = m.lexical)
    (hdatatype : l.datatype = m.datatype) (h : Option.lt (· < ·) l.language m.language) : Before l m

theorem Literal.compare_eq_lt_iff (l m : Literal) : compare l m = .lt ↔ l.Before m := by
  rw [compare_def, compare_then_eq_lt_iff, compare_then_eq_lt_iff, compare_string_eq_lt_iff,
    compare_option_eq_lt_iff compare_string_eq_lt_iff,
    compare_option_eq_lt_iff compare_string_eq_lt_iff]
  constructor
  · rintro (h | ⟨hlexical, h | ⟨hdatatype, h⟩⟩)
    · exact .lexical h
    · exact .datatype hlexical h
    · exact .language hlexical hdatatype h
  · rintro (h | ⟨hlexical, h⟩ | ⟨hlexical, hdatatype, h⟩)
    · exact .inl h
    · exact .inr ⟨hlexical, .inl h⟩
    · exact .inr ⟨hlexical, .inr ⟨hdatatype, h⟩⟩

/-- The order of terms: IRIs, then blank nodes, then literals, and those of one kind by content. -/
inductive Term.Before : Term → Term → Prop where
  /-- two IRIs -/
  | iri {a b : String} (h : a < b) : Before (.iri a) (.iri b)
  /-- two blank nodes -/
  | blank {a b : String} (h : a < b) : Before (.blank a) (.blank b)
  /-- two literals -/
  | literal {l m : Literal} (h : l.Before m) : Before (.literal l) (.literal m)
  /-- an IRI and a blank node -/
  | iri_blank (a b : String) : Before (.iri a) (.blank b)
  /-- an IRI and a literal -/
  | iri_literal (a : String) (l : Literal) : Before (.iri a) (.literal l)
  /-- a blank node and a literal -/
  | blank_literal (a : String) (l : Literal) : Before (.blank a) (.literal l)

namespace Term

/-- Terms of different kinds are ordered by their kind. -/
theorem compare_of_rank_lt {t u : Term} (h : t.rank < u.rank) : compare t u = .lt := by
  rw [compare_def, Nat.compare_eq_lt.mpr h]
  rfl

/-- Terms of one kind are ordered by their content. -/
theorem compare_of_rank_eq (t u : Term) (h : t.rank = u.rank) :
    compare t u = compare t.content u.content := by
  rw [compare_def, Nat.compare_eq_eq.mpr h]
  rfl

/-- The contents of IRIs and blank nodes are ordered by their texts. -/
theorem compare_plain_eq_lt_iff (a b : String) :
    compare (⟨a, none, none⟩ : Literal) ⟨b, none, none⟩ = .lt ↔ a < b := by
  rw [Literal.compare_eq_lt_iff]
  constructor
  · rintro (h | ⟨-, h⟩ | ⟨-, -, h⟩)
    · exact h
    · cases h
    · cases h
  · exact fun h => .lexical h

theorem compare_iri_eq_lt_iff (a b : String) : compare (Term.iri a) (.iri b) = .lt ↔ a < b := by
  rw [compare_of_rank_eq (.iri a) (.iri b) rfl]
  exact compare_plain_eq_lt_iff a b

theorem compare_blank_eq_lt_iff (a b : String) :
    compare (Term.blank a) (.blank b) = .lt ↔ a < b := by
  rw [compare_of_rank_eq (.blank a) (.blank b) rfl]
  exact compare_plain_eq_lt_iff a b

theorem compare_literal_eq_lt_iff (l m : Literal) :
    compare (Term.literal l) (.literal m) = .lt ↔ l.Before m := by
  rw [compare_of_rank_eq (.literal l) (.literal m) rfl]
  exact Literal.compare_eq_lt_iff l m

theorem compare_eq_lt_iff (t u : Term) : compare t u = .lt ↔ t.Before u := by
  constructor
  · intro h
    have hrank : t.rank ≤ u.rank := by
      refine Nat.le_of_not_lt fun hlt => ?_
      have hgt : compare t u = .gt := Std.OrientedCmp.gt_iff_lt.mpr (compare_of_rank_lt hlt)
      rw [hgt] at h
      cases h
    cases t with
    | iri a =>
      cases u with
      | iri b => exact .iri ((compare_iri_eq_lt_iff a b).mp h)
      | blank b => exact .iri_blank a b
      | literal m => exact .iri_literal a m
    | blank a =>
      cases u with
      | iri b => exact absurd hrank (by simp [rank])
      | blank b => exact .blank ((compare_blank_eq_lt_iff a b).mp h)
      | literal m => exact .blank_literal a m
    | literal l =>
      cases u with
      | iri b => exact absurd hrank (by simp [rank])
      | blank b => exact absurd hrank (by simp [rank])
      | literal m => exact .literal ((compare_literal_eq_lt_iff l m).mp h)
  · intro h
    cases h with
    | iri h => exact (compare_iri_eq_lt_iff _ _).mpr h
    | blank h => exact (compare_blank_eq_lt_iff _ _).mpr h
    | literal h => exact (compare_literal_eq_lt_iff _ _).mpr h
    | iri_blank => exact compare_of_rank_lt (Nat.zero_lt_succ 0)
    | iri_literal => exact compare_of_rank_lt (Nat.zero_lt_succ 1)
    | blank_literal => exact compare_of_rank_lt (Nat.lt_succ_self 1)

end Term

/-- The order of graphs: the default graph, then the named ones by their names. -/
def GraphName.Before : GraphName → GraphName → Prop := Option.lt Term.Before

theorem GraphName.compare_eq_lt_iff (g h : GraphName) : compare g h = .lt ↔ Before g h :=
  compare_option_eq_lt_iff Term.compare_eq_lt_iff g h

/-- The order of statements: by subject, then predicate, then object, then graph. -/
inductive Statement.Before : Statement → Statement → Prop where
  /-- the subjects differ -/
  | subject {s t : Statement} (h : s.subject.Before t.subject) : Before s t
  /-- the predicates do -/
  | predicate {s t : Statement} (hsubject : s.subject = t.subject)
    (h : s.predicate.Before t.predicate) : Before s t
  /-- the objects do -/
  | object {s t : Statement} (hsubject : s.subject = t.subject)
    (hpredicate : s.predicate = t.predicate) (h : s.object.Before t.object) : Before s t
  /-- the graphs do -/
  | graph {s t : Statement} (hsubject : s.subject = t.subject)
    (hpredicate : s.predicate = t.predicate) (hobject : s.object = t.object)
    (h : GraphName.Before s.graph t.graph) : Before s t

theorem Statement.compare_eq_lt_iff (s t : Statement) : compare s t = .lt ↔ s.Before t := by
  rw [compare_def, compare_then_eq_lt_iff, compare_then_eq_lt_iff, compare_then_eq_lt_iff,
    Term.compare_eq_lt_iff, Term.compare_eq_lt_iff, Term.compare_eq_lt_iff,
    GraphName.compare_eq_lt_iff]
  constructor
  · rintro (h | ⟨hsubject, h | ⟨hpredicate, h | ⟨hobject, h⟩⟩⟩)
    · exact .subject h
    · exact .predicate hsubject h
    · exact .object hsubject hpredicate h
    · exact .graph hsubject hpredicate hobject h
  · rintro (h | ⟨hsubject, h⟩ | ⟨hsubject, hpredicate, h⟩ | ⟨hsubject, hpredicate, hobject, h⟩)
    · exact .inl h
    · exact .inr ⟨hsubject, .inl h⟩
    · exact .inr ⟨hsubject, .inr ⟨hpredicate, .inl h⟩⟩
    · exact .inr ⟨hsubject, .inr ⟨hpredicate, .inr ⟨hobject, h⟩⟩⟩

theorem Term.ordered : Ordered Term.Before := .of_lt_iff compare_eq_lt_iff

theorem GraphName.ordered : Ordered GraphName.Before := .of_lt_iff compare_eq_lt_iff

theorem Statement.ordered : Ordered Statement.Before := .of_lt_iff compare_eq_lt_iff

end QuadTxn
