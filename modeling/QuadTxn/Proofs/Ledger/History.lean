import Mathlib.Data.List.Basic
import Mathlib.Data.List.Induction
import QuadTxn.Txn.Ledger

/-!
# The history of a ledger

A ledger is told of reads and of commits, one after the other. It drops repeated reads, commits that
affect nothing, and of each commit that it keeps all but the reads after it. What it has to say
about its transaction is the same as if nothing had been dropped:

* a commit is recorded exactly if it affects a read before it (`Ledger.recorded_iff`);
* a phantom is found exactly if a commit affects a read before it and a read after it
  (`Ledger.phantom_iff`).
-/

namespace QuadTxn

namespace Ledger

/-- What a ledger is told of. -/
inductive Entry where
  /-- the transaction has read something -/
  | read (r : Read)
  /-- another connection has committed -/
  | commit (change : ChangeSet)

variable (effects : Model → Read → Bool)

/-- The ledger after it has been told of one thing more. -/
def take (l : Ledger) : Entry → Ledger
  | .read r => l.observe r
  | .commit change => (l.changed effects change).2

/-- The ledger of a transaction, from all that it was told of. -/
def follow (es : List Entry) : Ledger := es.foldl (take effects) ∅

/-- One of the sides of a change set affects a read. -/
def Affects (change : ChangeSet) (r : Read) : Prop :=
  effects change.added r = true ∨ effects change.removed r = true

@[simp] theorem reads_empty : (∅ : Ledger).reads = [] := rfl

@[simp] theorem changes_empty : (∅ : Ledger).changes = [] := rfl

@[simp] theorem follow_nil : follow effects [] = ∅ := rfl

theorem follow_snoc (es : List Entry) (e : Entry) :
    follow effects (es ++ [e]) = take effects (follow effects es) e := by
  rw [follow, List.foldl_append]
  rfl

/-! ## One operation -/

section Operations

variable {effects} {l : Ledger} {r r' : Read} {change : ChangeSet}

theorem mem_note {rs : List Read} : r' ∈ note r rs ↔ r' ∈ rs ∨ r' = r := by
  rw [note]
  split
  · rename_i hr
    exact ⟨.inl, fun h => h.elim id fun heq => heq ▸ hr⟩
  · simp

theorem direction?_isSome_iff :
    (direction? effects change r).isSome ↔ Affects effects change r := by
  rw [direction?, Affects]
  rcases effects change.added r <;> rcases effects change.removed r <;> simp

theorem conflict?_isSome_iff :
    (l.conflict? effects change).isSome ↔ ∃ r ∈ l.reads, Affects effects change r := by
  simp only [conflict?, List.findSome?_isSome_iff, Option.isSome_map, direction?_isSome_iff]

/-- A commit is recorded if it affects a read; otherwise nothing changes. -/
theorem changed_cases (effects : Model → Read → Bool) (l : Ledger) (change : ChangeSet) :
    (∃ conflict, (∃ r ∈ l.reads, Affects effects change r) ∧ (l.changed effects change).2 =
      { l with changes := l.changes ++ [⟨change, conflict, []⟩] }) ∨
    (¬(∃ r ∈ l.reads, Affects effects change r) ∧ (l.changed effects change).2 = l) := by
  rw [← conflict?_isSome_iff, changed]
  rcases l.conflict? effects change with _ | conflict
  · exact .inr ⟨nofun, rfl⟩
  · exact .inl ⟨conflict, rfl, rfl⟩

/-- A phantom is found if a recorded commit affects a read registered after it. -/
theorem phantom?_isSome_iff : (l.phantom? effects).isSome ↔
    ∃ c ∈ l.changes, ∃ r ∈ c.later, Affects effects c.change r := by
  simp [phantom?, Affects]

/-- What is found is a phantom. -/
theorem eq_phantom_of_phantom? {e : TxnError} (h : l.phantom? effects = some e) :
    ∃ observed cause, e = .phantom observed cause := by
  obtain ⟨c, -, hfound⟩ := List.exists_of_findSome?_eq_some h
  obtain ⟨r, -, rfl⟩ := Option.map_eq_some_iff.mp hfound
  exact ⟨r, c.conflict, rfl⟩

end Operations

/-! ## The whole history -/

/-- A list that ends in an element is a part of another one that ends in an element. -/
theorem concat_sublist_concat_iff {α : Type} (xs ys : List α) (x y : α) :
    (xs ++ [x]).Sublist (ys ++ [y]) ↔ (xs ++ [x]).Sublist ys ∨ x = y ∧ xs.Sublist ys := by
  have hreverse : ∀ l : List α, (l ++ [x]).Sublist ys ↔ (x :: l.reverse).Sublist ys.reverse :=
    fun l => by rw [← List.reverse_sublist, List.reverse_append]; rfl
  rw [hreverse, ← List.reverse_sublist, List.reverse_append, List.reverse_append]
  exact List.cons_sublist_cons'.trans (or_congr Iff.rfl (and_congr Iff.rfl List.reverse_sublist))

section Follow

variable {effects} {es : List Entry} {r' : Read} {change : ChangeSet}

variable (effects) in
/-- The reads of a ledger are those that it was told of. -/
theorem mem_reads_follow : r' ∈ (follow effects es).reads ↔ .read r' ∈ es := by
  induction es using List.reverseRecOn with
  | nil => simp
  | append_singleton es e ih =>
    rw [follow_snoc, List.mem_append, List.mem_singleton, ← ih]
    cases e with
    | read r =>
      rw [Entry.read.injEq]
      exact mem_note
    | commit c =>
      rw [take]
      rcases changed_cases effects (follow effects es) c with ⟨_, -, heq⟩ | ⟨-, heq⟩
      · simp [heq]
      · simp [heq]

/-- The recorded commits are those that affect a read before them. -/
theorem recorded_iff : (∃ c ∈ (follow effects es).changes, c.change = change) ↔
    ∃ r, Affects effects change r ∧ [.read r, .commit change].Sublist es := by
  induction es using List.reverseRecOn with
  | nil => simp
  | append_singleton es e ih =>
    have hsnoc : ∀ r, [.read r, .commit change].Sublist (es ++ [e]) ↔
        [.read r, .commit change].Sublist es ∨ .commit change = e ∧ .read r ∈ es := by
      intro r
      rw [← List.singleton_sublist]
      exact concat_sublist_concat_iff [Entry.read r] es _ e
    simp only [hsnoc, and_or_left, exists_or, ← ih]
    rw [follow_snoc]
    cases e with
    | read r => simp [take, observe]
    | commit c₀ =>
      rw [take]
      simp only [Entry.commit.injEq, ← mem_reads_follow effects]
      rcases changed_cases effects (follow effects es) c₀ with ⟨_, hread, heq⟩ | ⟨hnone, heq⟩
      · -- the commit is recorded, and is one of those that are asked for if it is the last entry
        rw [heq]
        simp only [List.mem_append, List.mem_singleton, or_and_right, exists_or, exists_eq_left]
        refine or_congr Iff.rfl ⟨?_, fun ⟨_, _, hlast, _⟩ => hlast.symm⟩
        rintro rfl
        obtain ⟨r, hr, haffects⟩ := hread
        exact ⟨r, haffects, rfl, hr⟩
      · rw [heq]
        refine (or_iff_left ?_).symm
        rintro ⟨r, haffects, rfl, hr⟩
        exact hnone ⟨r, hr, haffects⟩

/-- After a recorded commit those reads are registered that come after it. -/
theorem later_iff : (∃ c ∈ (follow effects es).changes, c.change = change ∧ r' ∈ c.later) ↔
    ∃ r, Affects effects change r ∧ [.read r, .commit change, .read r'].Sublist es := by
  induction es using List.reverseRecOn with
  | nil => simp
  | append_singleton es e ih =>
    have hsnoc : ∀ r, [.read r, .commit change, .read r'].Sublist (es ++ [e]) ↔
        [.read r, .commit change, .read r'].Sublist es ∨
          .read r' = e ∧ [.read r, .commit change].Sublist es :=
      fun r => concat_sublist_concat_iff [Entry.read r, Entry.commit change] es _ e
    simp only [hsnoc, and_or_left, exists_or, ← ih]
    rw [follow_snoc]
    cases e with
    | read r₀ =>
      have hlast : (∃ r, Affects effects change r ∧ Entry.read r' = Entry.read r₀ ∧
          [.read r, .commit change].Sublist es) ↔
            r' = r₀ ∧ ∃ c ∈ (follow effects es).changes, c.change = change := by
        rw [recorded_iff]
        simp [and_left_comm]
      rw [hlast]
      simp only [take, observe, List.mem_map, exists_exists_and_eq_and, mem_note, and_or_left,
        exists_or]
      refine or_congr Iff.rfl ⟨?_, ?_⟩
      · rintro ⟨c, hc, hchange, heq⟩
        exact ⟨heq, c, hc, hchange⟩
      · rintro ⟨heq, c, hc, hchange⟩
        exact ⟨c, hc, hchange, heq⟩
    | commit c₀ =>
      rw [take]
      rcases changed_cases effects (follow effects es) c₀ with ⟨_, -, heq⟩ | ⟨-, heq⟩
      · simp [heq, or_and_right, exists_or]
      · simp [heq]

/-- Something is recorded if a commit affects a read before it. -/
theorem changes_ne_nil_iff : (follow effects es).changes ≠ [] ↔
    ∃ r change, Affects effects change r ∧ [.read r, .commit change].Sublist es := by
  rw [exists_comm]
  simp only [← recorded_iff]
  constructor
  · intro hne
    obtain ⟨c, hc⟩ := List.exists_mem_of_ne_nil _ hne
    exact ⟨c.change, c, hc, rfl⟩
  · rintro ⟨_, c, hc, -⟩ hnil
    rw [hnil] at hc
    cases hc

/-- A phantom is found if a commit affects a read before it and a read after it. -/
theorem phantom_iff : ((follow effects es).phantom? effects).isSome ↔
    ∃ r change r', Affects effects change r ∧ Affects effects change r' ∧
      [.read r, .commit change, .read r'].Sublist es := by
  rw [phantom?_isSome_iff]
  constructor
  · rintro ⟨c, hc, r', hr', haffects'⟩
    obtain ⟨r, haffects, hsub⟩ := later_iff.mp ⟨c, hc, rfl, hr'⟩
    exact ⟨r, c.change, r', haffects, haffects', hsub⟩
  · rintro ⟨r, change, r', haffects, haffects', hsub⟩
    obtain ⟨c, hc, rfl, hr'⟩ := later_iff.mpr ⟨r, haffects, hsub⟩
    exact ⟨c, hc, r', hr', haffects'⟩

end Follow

end Ledger

end QuadTxn
