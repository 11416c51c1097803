import Mathlib.Data.Set.Insert
import QuadTxn.Proofs.Statements.Order
import QuadTxn.Rdf.Model

/-!
# Models and plain sets

A model is made by additions, removals and what else a caller does to it (`Model.Edit`). The same
can be done to a plain set of statements, which has no order and no listings. However they were
made, two models are equal exactly if the sets are (`Model.canonical_of_edits`), and everything that
a model lists or answers is what the set, and the order of statements, say that it is
(`Model.Canonical`).
-/

namespace QuadTxn

/-- A list holds what satisfies `P`, in order and without repeats. -/
def Enumerates {α : Type} (before : α → α → Prop) (l : List α) (P : α → Prop) : Prop :=
  l.Pairwise before ∧ ∀ a, a ∈ l ↔ P a

/-- A sorted set lists its members in the order that its comparison follows. -/
theorem Ordered.enumerates {α : Type} [Ord α] {before : α → α → Prop} (h : Ordered before)
    (s : SortedSet α) {P : α → Prop} (hmem : ∀ a, a ∈ s ↔ P a) : Enumerates before s.toList P :=
  ⟨s.sorted.imp (h.lt_iff _ _).mp, hmem⟩

/-- A statement has what a pattern requires of each position and of the graph. -/
structure Pattern.Matches (p : Pattern) (s : Statement) : Prop where
  /-- the subject is the required one -/
  subject : ∀ t, p.subject = some t → s.subject = t
  /-- the predicate is -/
  predicate : ∀ t, p.predicate = some t → s.predicate = t
  /-- the object is -/
  object : ∀ t, p.object = some t → s.object = t
  /-- the graph is one of those accepted, if any are named -/
  graph : p.graphs = [] ∨ s.graph ∈ p.graphs

theorem Pattern.admits_iff {required : Option Term} {actual : Term} :
    admits required actual = true ↔ ∀ t, required = some t → actual = t := by
  cases required with
  | none => exact iff_of_true rfl nofun
  | some t =>
    rw [admits_some]
    constructor
    · rintro rfl t' ht
      exact Option.some.inj ht
    · exact fun h => (h t rfl).symm

theorem Pattern.selects_iff {p : Pattern} {s : Statement} : p.selects s = true ↔ p.Matches s := by
  rw [selects, Bool.and_eq_true, Bool.and_eq_true, Bool.and_eq_true, admits_iff, admits_iff,
    admits_iff, accepts_iff]
  constructor
  · rintro ⟨⟨⟨hsubject, hpredicate⟩, hobject⟩, hgraph⟩
    exact ⟨hsubject, hpredicate, hobject, hgraph⟩
  · intro h
    exact ⟨⟨⟨h.subject, h.predicate⟩, h.object⟩, h.graph⟩

namespace Model

/-! ## Edits -/

/-- What a caller does to a model. -/
inductive Edit where
  /-- the model is made anew from a list, which may have repeats -/
  | collect (l : List Statement)
  /-- a statement is put in -/
  | add (s : Statement)
  /-- a statement is taken out -/
  | remove (s : Statement)
  /-- what a pattern selects is taken out -/
  | removeSelected (p : Pattern)
  /-- every statement of a list is put in -/
  | extend (l : List Statement)
  /-- everything is taken out -/
  | clear

/-- The model after an edit. -/
def edit (m : Model) : Edit → Model
  | .collect l => .ofList l
  | .add s => (m.add s).2
  | .remove s => (m.remove s).2
  | .removeSelected p => (m.removeSelected p).2
  | .extend l => m.insertMany l
  | .clear => ∅

/-- The same edit of a plain set. -/
def editSet (S : Set Statement) : Edit → Set Statement
  | .collect l => {s | s ∈ l}
  | .add s => insert s S
  | .remove s => S \ {s}
  | .removeSelected p => {s ∈ S | ¬p.Matches s}
  | .extend l => S ∪ {s | s ∈ l}
  | .clear => ∅

/-- What a sequence of edits makes of the model without statements. -/
def edited (es : List Edit) : Model := es.foldl edit ∅

/-- What it makes of the set without statements. -/
def editedSet (es : List Edit) : Set Statement := es.foldl editSet ∅

/-! ## Answers -/

section Answers

variable {m : Model} {s : Statement} {p : Pattern}

/-- An addition says whether it has changed the model. -/
theorem add_fst_iff : (m.add s).1 = true ↔ (m.add s).2 ≠ m := by
  simp only [add, decide_eq_true_eq]
  constructor
  · intro hs heq
    exact hs (heq ▸ SortedSet.mem_insert.mpr (.inl rfl))
  · intro hne hs
    refine hne (SortedSet.ext fun t => ?_)
    rw [SortedSet.mem_insert, or_iff_right_of_imp (· ▸ hs)]

/-- A removal says whether it has changed the model. -/
theorem remove_fst_iff : (m.remove s).1 = true ↔ (m.remove s).2 ≠ m := by
  simp only [remove, decide_eq_true_eq]
  constructor
  · intro hs heq
    rw [← heq] at hs
    exact (SortedSet.mem_erase.mp hs).2 rfl
  · intro hne
    by_contra hs
    refine hne (SortedSet.ext fun t => ?_)
    rw [SortedSet.mem_erase, and_iff_left_of_imp]
    rintro ht rfl
    exact hs ht

theorem mem_foldl_remove {l : List Statement} :
    s ∈ l.foldl (fun m t => (m.remove t).2) m ↔ s ∈ m ∧ s ∉ l := by
  induction l generalizing m with
  | nil => simp
  | cons t l ih =>
    rw [List.foldl_cons, ih, remove, SortedSet.mem_erase, List.mem_cons, not_or, and_assoc]

theorem mem_removeSelected :
    s ∈ (m.removeSelected p).2 ↔ s ∈ m ∧ ¬p.Matches s := by
  rw [removeSelected, SortedSet.mem_filter, ← Pattern.selects_iff, Bool.not_eq_true,
    Bool.not_eq_true']

/-- What a pattern selects is taken out as if it were listed first and then taken out one by one. -/
theorem removeSelected_snd (m : Model) (p : Pattern) :
    (m.removeSelected p).2 = (m.select p).foldl (fun m s => (m.remove s).2) m := by
  ext s
  rw [mem_removeSelected, mem_foldl_remove, mem_select, Pattern.selects_iff]
  refine and_congr_right fun hs => ?_
  rw [and_iff_right hs]

end Answers

/-! ## Models that hold a set -/

/-- A model is the canonical form of a set: its listings enumerate the set, or the part of it that
is asked for, and its answers are about the set. -/
structure Canonical (m : Model) (S : Set Statement) : Prop where
  /-- all statements are listed -/
  listed : Enumerates Statement.Before m.toList (· ∈ S)
  /-- those are listed that match a pattern -/
  selected : ∀ p : Pattern, Enumerates Statement.Before (m.select p) fun s => s ∈ S ∧ p.Matches s
  /-- the graphs are listed that hold a statement -/
  graphs : Enumerates GraphName.Before m.graphs.toList fun g => ∃ s ∈ S, s.graph = g
  /-- the named ones are -/
  namedGraphs : Enumerates Term.Before m.namedGraphs.toList fun g => ∃ s ∈ S, s.graph = some g
  /-- a pattern selects something if a statement matches it -/
  anySelected : ∀ p : Pattern, m.anySelected p = true ↔ ∃ s ∈ S, p.Matches s
  /-- an addition answers whether the statement was missing, and so whether anything has changed -/
  added : ∀ s, ((m.add s).1 = true ↔ s ∉ S) ∧ ((m.add s).1 = true ↔ (m.add s).2 ≠ m)
  /-- a removal answers whether the statement was there, and so whether anything has changed -/
  removed : ∀ s, ((m.remove s).1 = true ↔ s ∈ S) ∧ ((m.remove s).1 = true ↔ (m.remove s).2 ≠ m)
  /-- what matches a pattern is listed when it is taken out -/
  taken : ∀ p : Pattern,
    Enumerates Statement.Before (m.removeSelected p).1 fun s => s ∈ S ∧ p.Matches s
  /-- what does not match is left -/
  left : ∀ p : Pattern,
    Enumerates Statement.Before (m.removeSelected p).2.toList fun s => s ∈ S ∧ ¬p.Matches s
  /-- so that the pattern selects nothing any more -/
  spent : ∀ p : Pattern, (m.removeSelected p).2.anySelected p = false
  /-- it is as if the statements were taken out one by one -/
  oneByOne : ∀ p : Pattern,
    (m.removeSelected p).2 = (m.select p).foldl (fun m s => (m.remove s).2) m

/-- A model holds a set: their members are the same. -/
def Holds (m : Model) (S : Set Statement) : Prop := ∀ s, s ∈ m ↔ s ∈ S

namespace Holds

variable {m m' : Model} {S S' : Set Statement}

/-- An edit of the model is the edit of the set. -/
theorem edit (h : m.Holds S) (e : Edit) : (m.edit e).Holds (editSet S e) := by
  intro s
  cases e with
  | collect l => exact SortedSet.mem_ofList
  | add t => exact SortedSet.mem_insert.trans (or_congr Iff.rfl (h s))
  | remove t => exact SortedSet.mem_erase.trans (and_congr (h s) Iff.rfl)
  | removeSelected p => exact mem_removeSelected.trans (and_congr (h s) Iff.rfl)
  | extend l => exact SortedSet.mem_insertMany.trans (or_congr (h s) Iff.rfl)
  | clear => exact iff_of_false (SortedSet.not_mem_empty s) id

/-- So is a sequence of edits. -/
theorem foldl (h : m.Holds S) (es : List Edit) :
    (es.foldl Model.edit m).Holds (es.foldl editSet S) := by
  induction es generalizing m S with
  | nil => exact h
  | cons e es ih => exact ih (h.edit e)

/-- Models are equal if the sets that they hold are. -/
theorem eq_iff (h : m.Holds S) (h' : m'.Holds S') : m = m' ↔ S = S' := by
  constructor
  · rintro rfl
    exact Set.ext fun s => (h s).symm.trans (h' s)
  · rintro rfl
    exact SortedSet.ext fun s => (h s).trans (h' s).symm

/-- What is selected are the statements that match. -/
theorem enumerates_select (h : m.Holds S) (p : Pattern) :
    Enumerates Statement.Before (m.select p) fun s => s ∈ S ∧ p.Matches s :=
  Statement.ordered.enumerates (m.filter p.selects) fun s => by
    rw [SortedSet.mem_filter, h, Pattern.selects_iff]

/-- Everything that a model lists or answers follows from what it holds. -/
theorem canonical (h : m.Holds S) : m.Canonical S where
  listed := Statement.ordered.enumerates m h
  selected := h.enumerates_select
  graphs := GraphName.ordered.enumerates m.graphs fun g => by
    simp only [mem_graphs, h _]
  namedGraphs := Term.ordered.enumerates m.namedGraphs fun g => by
    simp only [mem_namedGraphs, h _]
  anySelected p := by
    simp only [anySelected_iff, h _, Pattern.selects_iff]
  added s := ⟨by rw [← h]; exact decide_eq_true_iff, add_fst_iff⟩
  removed s := ⟨by rw [← h]; exact decide_eq_true_iff, remove_fst_iff⟩
  taken := h.enumerates_select
  left p := Statement.ordered.enumerates (m.removeSelected p).2 fun s => by
    rw [mem_removeSelected, h]
  spent p := by
    rw [← Bool.not_eq_true, anySelected_iff]
    rintro ⟨s, hs, hselects⟩
    exact (mem_removeSelected.mp hs).2 (Pattern.selects_iff.mp hselects)
  oneByOne := m.removeSelected_snd

end Holds

/-- The model that edits make holds the set that they make. -/
theorem holds_edited (es : List Edit) : (edited es).Holds (editedSet es) :=
  Holds.foldl (fun s => iff_of_false (SortedSet.not_mem_empty s) id) es

/-! ## The guarantee -/

/-- However two models were made, they are equal, and list the same in every way, exactly if the
same edits make equal sets; the listing of all statements alone tells as much. What a model lists
and answers at any time is determined by the set: listings are in the order of statements, which is
a strict total order of terms and graphs, part by part. -/
theorem canonical_of_edits (es es' : List Edit) :
    let m := edited es
    let m' := edited es'
    ((m = m' ∧ m.toList = m'.toList ∧ (∀ p, m.select p = m'.select p) ∧ m.graphs = m'.graphs ∧
        m.namedGraphs = m'.namedGraphs) ↔ editedSet es = editedSet es') ∧
      (m.toList = m'.toList ↔ editedSet es = editedSet es') ∧
      m.Canonical (editedSet es) ∧
      Ordered Term.Before ∧ Ordered GraphName.Before ∧ Ordered Statement.Before := by
  intro m m'
  have hm : m.Holds (editedSet es) := holds_edited es
  have hm' : m'.Holds (editedSet es') := holds_edited es'
  have heq := hm.eq_iff hm'
  refine ⟨⟨fun h => heq.mp h.1, fun hS => ?_⟩, ⟨fun hlist => ?_, fun hS => ?_⟩, hm.canonical,
    Term.ordered, GraphName.ordered, Statement.ordered⟩
  · rw [heq.mpr hS]
    exact ⟨rfl, rfl, fun _ => rfl, rfl, rfl⟩
  · ext s
    have hmem : s ∈ m ↔ s ∈ m' := by rw [SortedSet.mem_def, SortedSet.mem_def, hlist]
    exact (hm s).symm.trans (hmem.trans (hm' s))
  · rw [heq.mpr hS]

/-- Repeats and the order of the edits leave no trace. -/
example :
    let s : Statement := ⟨.iri "x:a", .iri "x:p", .literal ⟨"v", none, some "en"⟩, none⟩
    let t : Statement := { s with subject := .blank "b", graph := some (.iri "x:g") }
    edited [.collect [t, s, t], .remove s, .extend [s, t]] = edited [.add s, .add t, .add s] ∧
      (edited [.add t, .add s]).toList = [s, t] := by
  decide +kernel

end Model

end QuadTxn
