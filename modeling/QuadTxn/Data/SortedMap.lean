import QuadTxn.Data.SortedSet

/-!
# Sorted maps

A finite map is kept as a list of entries with strictly increasing keys. `get?` is its view:
every operation has one lemma that says what it does to `get?`, and two maps with the same view
are equal (`SortedMap.ext`).
-/

namespace QuadTxn

/-- A finite map from `κ` to `ν`, stored in the order of its keys. -/
structure SortedMap (κ ν : Type) [Ord κ] where
  /-- the entries, in the order of their keys -/
  entries : List (κ × ν)
  /-- every key comes before all later ones -/
  sorted : entries.Pairwise fun e f => compare e.1 f.1 = .lt

namespace SortedMap

section Core

variable {κ ν : Type} [Ord κ]

instance [DecidableEq κ] [DecidableEq ν] : DecidableEq (SortedMap κ ν) := fun m n =>
  decidable_of_iff (m.entries = n.entries) <| by
    cases m; cases n; simp

/-- The map without entries. -/
def empty : SortedMap κ ν := ⟨[], .nil⟩

instance : EmptyCollection (SortedMap κ ν) := ⟨empty⟩
instance : Inhabited (SortedMap κ ν) := ⟨empty⟩

@[simp] theorem entries_empty : (∅ : SortedMap κ ν).entries = [] := rfl

/-- Number of entries. -/
def size (m : SortedMap κ ν) : Nat := m.entries.length

/-- Whether there is no entry. -/
def isEmpty (m : SortedMap κ ν) : Bool := m.entries.isEmpty

/-- The keys, in order. -/
def keys (m : SortedMap κ ν) : List κ := m.entries.map (·.1)

/-- The entries that satisfy `p`. -/
def filter (p : κ → ν → Bool) (m : SortedMap κ ν) : SortedMap κ ν :=
  ⟨m.entries.filter fun e => p e.1 e.2, m.sorted.filter _⟩

/-- The map with every value replaced by `f` of its key and itself. -/
def map {ν' : Type} (f : κ → ν → ν') (m : SortedMap κ ν) : SortedMap κ ν' :=
  ⟨m.entries.map fun e => (e.1, f e.1 e.2), List.pairwise_map.mpr m.sorted⟩

variable [DecidableEq κ]

/-- Replace the value of a key by `f` of it; a key without a value changes nothing. -/
def modify (m : SortedMap κ ν) (k : κ) (f : ν → ν) : SortedMap κ ν :=
  m.map fun k' v => if k' = k then f v else v

/-- The value of a key, if the key has one. -/
def get? (m : SortedMap κ ν) (k : κ) : Option ν := m.entries.lookup k

/-- Whether a key has a value. -/
def contains (m : SortedMap κ ν) (k : κ) : Bool := (m.get? k).isSome

/-- Take the entry of a key out; a key without one changes nothing. -/
def erase (m : SortedMap κ ν) (k : κ) : SortedMap κ ν := m.filter fun k' _ => k' ≠ k

@[simp] theorem get?_empty (k : κ) : (∅ : SortedMap κ ν).get? k = none := rfl

omit [Ord κ] in
private theorem lookup_filter {p : κ → Bool} {k : κ} {l : List (κ × ν)} :
    (l.filter fun e => p e.1).lookup k = if p k then l.lookup k else none := by
  induction l with
  | nil => simp
  | cons e l ih =>
    obtain ⟨k', v⟩ := e
    by_cases hk : k = k'
    · subst hk
      by_cases hp : p k <;> simp [hp, ih]
    · have : (k == k') = false := by simpa using hk
      by_cases hp' : p k' <;> simp [hp', ih, List.lookup_cons, this]

theorem get?_erase (m : SortedMap κ ν) (k k' : κ) :
    (m.erase k).get? k' = if k' = k then none else m.get? k' := by
  have := lookup_filter (p := fun k' => decide (k' ≠ k)) (k := k') (l := m.entries)
  simp only [get?, erase, filter, this]
  by_cases h : k' = k <;> simp [h]

/-- Of entries that are chosen by their keys, those with a chosen key are left. -/
theorem get?_filter (p : κ → Bool) (m : SortedMap κ ν) (k : κ) :
    (m.filter fun k _ => p k).get? k = if p k then m.get? k else none := lookup_filter

theorem get?_map {ν' : Type} (f : κ → ν → ν') (m : SortedMap κ ν) (k : κ) :
    (m.map f).get? k = (m.get? k).map (f k) := by
  obtain ⟨l, hl⟩ := m
  simp only [get?, map]
  clear hl
  induction l with
  | nil => rfl
  | cons e l ih =>
    obtain ⟨k', v⟩ := e
    by_cases hk : k = k'
    · subst hk; simp
    · have : (k == k') = false := by simpa using hk
      simp [List.lookup_cons, this, ih]

theorem get?_modify (m : SortedMap κ ν) (k : κ) (f : ν → ν) (k' : κ) :
    (m.modify k f).get? k' = if k' = k then (m.get? k').map f else m.get? k' := by
  rw [modify, get?_map]
  by_cases h : k' = k <;> simp [h]

/-- A change of the values under some keys leaves the keys as they are. -/
theorem isSome_get?_foldl_modify (m : SortedMap κ ν) (ks : List κ) (f : ν → ν) (k : κ) :
    ((ks.foldl (fun m k => m.modify k f) m).get? k).isSome = (m.get? k).isSome := by
  induction ks generalizing m with
  | nil => rfl
  | cons k' ks ih =>
    rw [List.foldl_cons, ih, get?_modify]
    split
    · exact Option.isSome_map
    · rfl

end Core

section Insert

variable {κ ν : Type} [Ord κ]

/-- Put an entry at its place among entries with increasing keys, in the place of an entry with
the same key. -/
def place (k : κ) (v : ν) : List (κ × ν) → List (κ × ν)
  | [] => [(k, v)]
  | (k', v') :: l =>
    match compare k k' with
    | .lt => (k, v) :: (k', v') :: l
    | .eq => (k, v) :: l
    | .gt => (k', v') :: place k v l

theorem fst_mem_place {k : κ} {v : ν} {l : List (κ × ν)} {e : κ × ν} (h : e ∈ place k v l) :
    e.1 = k ∨ e ∈ l := by
  induction l with
  | nil => simp_all [place]
  | cons f l ih =>
    obtain ⟨k', v'⟩ := f
    unfold place at h
    split at h
    · rcases List.mem_cons.mp h with rfl | h
      · exact .inl rfl
      · exact .inr h
    · rcases List.mem_cons.mp h with rfl | h
      · exact .inl rfl
      · exact .inr (List.mem_cons_of_mem _ h)
    · rcases List.mem_cons.mp h with rfl | h
      · exact .inr List.mem_cons_self
      · exact (ih h).imp_right (List.mem_cons_of_mem _)

variable [Std.TransOrd κ] [Std.LawfulEqOrd κ]

theorem sorted_place {k : κ} {v : ν} {l : List (κ × ν)}
    (h : l.Pairwise fun e f => compare e.1 f.1 = .lt) :
    (place k v l).Pairwise fun e f => compare e.1 f.1 = .lt := by
  induction l with
  | nil => simp [place]
  | cons e l ih =>
    obtain ⟨k', v'⟩ := e
    obtain ⟨he, hl⟩ := List.pairwise_cons.mp h
    unfold place
    split
    · rename_i hk
      refine List.pairwise_cons.mpr ⟨fun f hf => ?_, h⟩
      rcases List.mem_cons.mp hf with rfl | hf
      · exact hk
      · exact Std.TransCmp.lt_trans hk (he f hf)
    · rename_i hk
      obtain rfl := Std.LawfulEqOrd.eq_of_compare hk
      exact List.pairwise_cons.mpr ⟨he, hl⟩
    · rename_i hk
      refine List.pairwise_cons.mpr ⟨fun f hf => ?_, ih hl⟩
      rcases fst_mem_place hf with hf | hf
      · rw [hf]
        exact Std.OrientedCmp.gt_iff_lt.mp hk
      · exact he f hf

/-- Give a key a value, in the place of an earlier one. -/
def insert (m : SortedMap κ ν) (k : κ) (v : ν) : SortedMap κ ν :=
  ⟨place k v m.entries, sorted_place m.sorted⟩

/-- Insert every entry of a list, in order. -/
def insertMany (m : SortedMap κ ν) (l : List (κ × ν)) : SortedMap κ ν :=
  l.foldl (fun m e => m.insert e.1 e.2) m

/-- The map of the entries of a list; of two entries with one key the later counts. -/
def ofList (l : List (κ × ν)) : SortedMap κ ν := insertMany ∅ l

variable [DecidableEq κ]

theorem get?_insert (m : SortedMap κ ν) (k : κ) (v : ν) (k' : κ) :
    (m.insert k v).get? k' = if k' = k then some v else m.get? k' := by
  obtain ⟨l, hl⟩ := m
  simp only [get?, insert]
  clear hl
  induction l with
  | nil =>
    by_cases h : k' = k
    · simp [place, h]
    · have : (k' == k) = false := by simpa using h
      simp [place, List.lookup_cons, h, this]
  | cons e l ih =>
    obtain ⟨c, v'⟩ := e
    unfold place
    split
    · by_cases h : k' = k
      · simp [h]
      · have : (k' == k) = false := by simpa using h
        simp [h, List.lookup_cons, this]
    · rename_i hk
      obtain rfl := Std.LawfulEqOrd.eq_of_compare hk
      by_cases h : k' = k
      · simp [h]
      · have : (k' == k) = false := by simpa using h
        simp [h, List.lookup_cons, this]
    · rename_i hk
      have hne : k ≠ c := fun h => by simp [h, Std.ReflCmp.compare_self] at hk
      by_cases h : k' = c
      · subst h
        simp [Ne.symm hne]
      · have : (k' == c) = false := by simpa using h
        simp [List.lookup_cons, this, ih]

@[simp] theorem get?_insert_self (m : SortedMap κ ν) (k : κ) (v : ν) :
    (m.insert k v).get? k = some v := by simp [get?_insert]

theorem get?_insert_ne (m : SortedMap κ ν) {k k' : κ} (v : ν) (h : k' ≠ k) :
    (m.insert k v).get? k' = m.get? k' := by simp [get?_insert, h]

omit [Std.TransOrd κ] in
private theorem lookup_eq_some_iff {l : List (κ × ν)} {k : κ} {v : ν}
    (hl : l.Pairwise fun e f => compare e.1 f.1 = .lt) :
    l.lookup k = some v ↔ (k, v) ∈ l := by
  induction l with
  | nil => simp
  | cons e l ih =>
    obtain ⟨k', v'⟩ := e
    obtain ⟨he, hl⟩ := List.pairwise_cons.mp hl
    by_cases h : k = k'
    · subst h
      have hnot : (k, v) ∉ l := fun hm => by
        simpa [Std.ReflCmp.compare_self] using he _ hm
      simp [hnot, eq_comm]
    · have : (k == k') = false := by simpa using h
      simp [List.lookup_cons, this, ih hl, h]

omit [Std.TransOrd κ] in
theorem get?_eq_some_iff {m : SortedMap κ ν} {k : κ} {v : ν} :
    m.get? k = some v ↔ (k, v) ∈ m.entries := lookup_eq_some_iff m.sorted

/-- Inserting the entries of another map, the other map comes first. -/
theorem get?_insertMany (m n : SortedMap κ ν) (k : κ) :
    (m.insertMany n.entries).get? k = (n.get? k).or (m.get? k) := by
  have hlist : ∀ (l : List (κ × ν)) (m : SortedMap κ ν),
      (l.Pairwise fun e f => compare e.1 f.1 = .lt) →
      (m.insertMany l).get? k = (l.lookup k).or (m.get? k) := by
    intro l
    induction l with
    | nil => exact fun _ _ => rfl
    | cons e l ih =>
      intro m hl
      obtain ⟨k', v⟩ := e
      obtain ⟨he, hl⟩ := List.pairwise_cons.mp hl
      refine (ih (m.insert k' v) hl).trans ?_
      rw [get?_insert]
      by_cases hk : k = k'
      · -- the entries that follow have later keys
        have hnone : l.lookup k = none := by
          rcases hlookup : l.lookup k with _ | v'
          · rfl
          · have hlt := he _ ((lookup_eq_some_iff hl).mp hlookup)
            simp [hk, Std.ReflCmp.compare_self] at hlt
        rw [hnone, if_pos hk, hk, List.lookup_cons_self]
        rfl
      · have hne : (k == k') = false := by simpa using hk
        rw [if_neg hk, List.lookup_cons, hne]
  exact hlist n.entries m n.sorted

/-- Maps that give every key the same value are equal. -/
@[ext] theorem ext {m n : SortedMap κ ν} (h : ∀ k, m.get? k = n.get? k) : m = n := by
  have nodup : ∀ m : SortedMap κ ν, m.entries.Nodup := fun m =>
    m.sorted.imp fun {e f} hef heq => by subst heq; simp [Std.ReflCmp.compare_self] at hef
  have hmem : ∀ e, e ∈ m.entries ↔ e ∈ n.entries := fun e => by
    rw [← Prod.eta e, ← get?_eq_some_iff, ← get?_eq_some_iff, h]
  have hperm := (List.perm_ext_iff_of_nodup (nodup m) (nodup n)).mpr hmem
  have : m.entries = n.entries := List.Perm.eq_of_pairwise
    (fun e f _ _ (hef : compare e.1 f.1 = .lt) hfe =>
      absurd hef (Std.OrientedCmp.not_lt_of_lt (hfe : compare f.1 e.1 = .lt)))
    m.sorted n.sorted hperm
  cases m; cases n; simp_all

/-! ### Keys -/

omit [Std.TransOrd κ] in
theorem mem_keys_iff {m : SortedMap κ ν} {k : κ} : k ∈ m.keys ↔ ∃ v, m.get? k = some v := by
  rw [keys, List.mem_map]
  constructor
  · rintro ⟨⟨k', v⟩, he, rfl⟩
    exact ⟨v, get?_eq_some_iff.mpr he⟩
  · rintro ⟨v, hv⟩
    exact ⟨(k, v), get?_eq_some_iff.mp hv, rfl⟩

omit [Std.TransOrd κ] [DecidableEq κ] in
theorem nodup_keys (m : SortedMap κ ν) : m.keys.Nodup := by
  refine List.pairwise_map.mpr (m.sorted.imp ?_)
  intro e f hlt heq
  rw [heq] at hlt
  simp [Std.ReflCmp.compare_self] at hlt

/-! ### Number of entries -/

private theorem length_place {k : κ} {v : ν} {l : List (κ × ν)}
    (hl : l.Pairwise fun e f => compare e.1 f.1 = .lt) :
    (place k v l).length = if (l.lookup k).isSome then l.length else l.length + 1 := by
  induction l with
  | nil => rfl
  | cons e l ih =>
    obtain ⟨c, w⟩ := e
    obtain ⟨he, hl⟩ := List.pairwise_cons.mp hl
    unfold place
    split
    · rename_i hk
      -- the key comes before all others, and so it is a new one
      have hnone : ((c, w) :: l).lookup k = none := by
        rcases hlookup : ((c, w) :: l).lookup k with _ | w'
        · rfl
        · have hmem := (lookup_eq_some_iff (List.pairwise_cons.mpr ⟨he, hl⟩)).mp hlookup
          rcases List.mem_cons.mp hmem with heq | hmem
          · rw [(Prod.mk.inj heq).1] at hk
            simp [Std.ReflCmp.compare_self] at hk
          · have hlt : compare c c = .lt := Std.TransCmp.lt_trans (he _ hmem) hk
            simp [Std.ReflCmp.compare_self] at hlt
      simp [hnone]
    · rename_i hk
      obtain rfl := Std.LawfulEqOrd.eq_of_compare hk
      simp
    · rename_i hk
      have hne : (k == c) = false := by
        rw [beq_eq_false_iff_ne]
        rintro rfl
        simp [Std.ReflCmp.compare_self] at hk
      rw [List.length_cons, ih hl, List.lookup_cons, hne]
      split <;> rfl

/-- A key that has no value yet makes one more entry. -/
theorem size_insert_of_none {m : SortedMap κ ν} {k : κ} (h : m.get? k = none) (v : ν) :
    (m.insert k v).size = m.size + 1 := by
  rw [get?] at h
  simp [size, insert, length_place m.sorted, h]

/-- A value that is replaced makes no more entries. -/
theorem size_insert_of_some {m : SortedMap κ ν} {k : κ} {w : ν} (h : m.get? k = some w) (v : ν) :
    (m.insert k v).size = m.size := by
  rw [get?] at h
  simp [size, insert, length_place m.sorted, h]

/-- A map is the map of its entries. -/
theorem ofList_entries (m : SortedMap κ ν) : ofList m.entries = m := by
  ext1 k
  rw [ofList, get?_insertMany, get?_empty, Option.or_none]

theorem erase_of_none {m : SortedMap κ ν} {k : κ} (h : m.get? k = none) : m.erase k = m := by
  ext1 k'
  rw [get?_erase]
  split
  · rename_i hk
    rw [hk, h]
  · rfl

/-- An entry that is taken out is missing. -/
theorem size_erase_of_some {m : SortedMap κ ν} {k : κ} {v : ν} (h : m.get? k = some v) :
    (m.erase k).size + 1 = m.size := by
  have hback : (m.erase k).insert k v = m := by
    ext1 k'
    rw [get?_insert, get?_erase]
    split
    · rename_i hk
      rw [hk, h]
    · rfl
  have hnone : (m.erase k).get? k = none := by rw [get?_erase, if_pos rfl]
  rw [← size_insert_of_none hnone v, hback]

end Insert

end SortedMap

end QuadTxn
