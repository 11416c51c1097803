/-!
# Sorted sets

A finite set is kept as a strictly increasing list, so that

* every listing of a set is in one fixed order and free of repeats, and
* two sets with the same members are equal (`SortedSet.ext`).

The order of the members is the `compare` of their type; it has to be a lawful total order
(`Std.TransOrd`, `Std.LawfulEqOrd`) for insertion to keep the list sorted.
-/

namespace QuadTxn

/-- A finite set of `α`, stored in increasing order. -/
structure SortedSet (α : Type) [Ord α] where
  /-- the members, in increasing order -/
  toList : List α
  /-- every member comes before all later ones -/
  sorted : toList.Pairwise fun a b => compare a b = .lt

namespace SortedSet

section Core

variable {α : Type} [Ord α]

instance [DecidableEq α] : DecidableEq (SortedSet α) := fun s t =>
  decidable_of_iff (s.toList = t.toList) <| by
    cases s; cases t; simp

instance : Membership α (SortedSet α) := ⟨fun s a => a ∈ s.toList⟩

theorem mem_def {s : SortedSet α} {a : α} : a ∈ s ↔ a ∈ s.toList := Iff.rfl

instance [DecidableEq α] (a : α) (s : SortedSet α) : Decidable (a ∈ s) :=
  decidable_of_iff (a ∈ s.toList) Iff.rfl

/-- The set without members. -/
def empty : SortedSet α := ⟨[], .nil⟩

instance : EmptyCollection (SortedSet α) := ⟨empty⟩
instance : Inhabited (SortedSet α) := ⟨empty⟩

@[simp] theorem toList_empty : (∅ : SortedSet α).toList = [] := rfl

@[simp] theorem not_mem_empty (a : α) : a ∉ (∅ : SortedSet α) := List.not_mem_nil

/-- Number of members. -/
def size (s : SortedSet α) : Nat := s.toList.length

/-- Whether the set has no member. -/
def isEmpty (s : SortedSet α) : Bool := s.toList.isEmpty

theorem isEmpty_iff {s : SortedSet α} : s.isEmpty = true ↔ s.toList = [] := by
  simp [isEmpty]

/-- The members that satisfy `p`. -/
def filter (p : α → Bool) (s : SortedSet α) : SortedSet α :=
  ⟨s.toList.filter p, s.sorted.filter p⟩

@[simp] theorem toList_filter (p : α → Bool) (s : SortedSet α) :
    (s.filter p).toList = s.toList.filter p := rfl

@[simp] theorem mem_filter {p : α → Bool} {s : SortedSet α} {a : α} :
    a ∈ s.filter p ↔ a ∈ s ∧ p a = true := List.mem_filter

/-- Whether some member satisfies `p`. -/
def any (p : α → Bool) (s : SortedSet α) : Bool := s.toList.any p

/-- Take a member out; a value that is no member changes nothing. -/
def erase [DecidableEq α] (s : SortedSet α) (a : α) : SortedSet α := s.filter (· ≠ a)

@[simp] theorem mem_erase [DecidableEq α] {s : SortedSet α} {a b : α} :
    b ∈ s.erase a ↔ b ∈ s ∧ b ≠ a := by
  simp [erase]

/-- The members of `s` that are not in `t`. -/
def diff [DecidableEq α] (s t : SortedSet α) : SortedSet α := s.filter (· ∉ t)

@[simp] theorem mem_diff [DecidableEq α] {s t : SortedSet α} {a : α} :
    a ∈ s.diff t ↔ a ∈ s ∧ a ∉ t := by
  simp [diff]

end Core

section Insert

variable {α : Type} [Ord α]

/-- Put `a` at its place in an increasing list, unless it is there already. -/
def place (a : α) : List α → List α
  | [] => [a]
  | b :: l =>
    match compare a b with
    | .lt => a :: b :: l
    | .eq => b :: l
    | .gt => b :: place a l

variable [Std.LawfulEqOrd α]

theorem mem_place {a b : α} {l : List α} : b ∈ place a l ↔ b = a ∨ b ∈ l := by
  induction l with
  | nil => simp [place]
  | cons c l ih =>
    unfold place
    split
    · simp
    · rename_i h
      obtain rfl := Std.LawfulEqOrd.eq_of_compare h
      simp
    · simp [ih, or_left_comm]

variable [Std.TransOrd α]

theorem sorted_place {a : α} {l : List α} (h : l.Pairwise fun a b => compare a b = .lt) :
    (place a l).Pairwise fun a b => compare a b = .lt := by
  induction l with
  | nil => simp [place]
  | cons b l ih =>
    obtain ⟨hb, hl⟩ := List.pairwise_cons.mp h
    unfold place
    split
    · rename_i hab
      refine List.pairwise_cons.mpr ⟨fun c hc => ?_, h⟩
      rcases List.mem_cons.mp hc with rfl | hc
      · exact hab
      · exact Std.TransCmp.lt_trans hab (hb c hc)
    · exact h
    · rename_i hab
      refine List.pairwise_cons.mpr ⟨fun c hc => ?_, ih hl⟩
      rcases mem_place.mp hc with rfl | hc
      · exact Std.OrientedCmp.gt_iff_lt.mp hab
      · exact hb c hc

/-- Put a value in; a member changes nothing. -/
def insert (s : SortedSet α) (a : α) : SortedSet α := ⟨place a s.toList, sorted_place s.sorted⟩

@[simp] theorem mem_insert {s : SortedSet α} {a b : α} : b ∈ s.insert a ↔ b = a ∨ b ∈ s :=
  mem_place

/-- Put every value of a list in. -/
def insertMany (s : SortedSet α) (l : List α) : SortedSet α := l.foldl insert s

@[simp] theorem mem_insertMany {s : SortedSet α} {l : List α} {b : α} :
    b ∈ s.insertMany l ↔ b ∈ s ∨ b ∈ l := by
  induction l generalizing s with
  | nil => simp [insertMany]
  | cons a l ih =>
    have := ih (s := s.insert a)
    simp only [insertMany, List.foldl_cons] at this ⊢
    simp [this, or_left_comm, or_assoc]

/-- The set of the values of a list. -/
def ofList (l : List α) : SortedSet α := insertMany ∅ l

@[simp] theorem mem_ofList {l : List α} {b : α} : b ∈ ofList l ↔ b ∈ l := by
  simp [ofList]

omit [Std.TransOrd α] in
/-- An increasing list has no repeats. -/
theorem nodup_of_sorted {l : List α} (h : l.Pairwise fun a b => compare a b = .lt) : l.Nodup :=
  h.imp fun {a b} hab heq => by subst heq; simp [Std.ReflCmp.compare_self] at hab

/-- An increasing list is determined by its members. -/
theorem eq_of_sorted_of_mem_iff {l l' : List α} (hl : l.Pairwise fun a b => compare a b = .lt)
    (hl' : l'.Pairwise fun a b => compare a b = .lt) (h : ∀ a, a ∈ l ↔ a ∈ l') : l = l' :=
  List.Perm.eq_of_pairwise
    (fun a b _ _ (hab : compare a b = .lt) hba =>
      absurd hab (Std.OrientedCmp.not_lt_of_lt (hba : compare b a = .lt))) hl hl'
    ((List.perm_ext_iff_of_nodup (nodup_of_sorted hl) (nodup_of_sorted hl')).mpr h)

/-- Sets with the same members are equal. -/
@[ext] theorem ext {s t : SortedSet α} (h : ∀ a, a ∈ s ↔ a ∈ t) : s = t := by
  cases s; cases t
  simp only [mk.injEq]
  exact eq_of_sorted_of_mem_iff ‹_› ‹_› h

end Insert

end SortedSet

end QuadTxn
