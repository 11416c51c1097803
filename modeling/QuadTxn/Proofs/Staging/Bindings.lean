import QuadTxn.Txn.Overlay.Namespaces

/-!
# What staged namespace bindings make of a table

What a list of writes makes of a table of namespace bindings is `NamespaceTable.replay`. The staged
bindings keep no order of writes, but what they make of a table (`NamespaceOverlay.onto`) is what
the staged writes make of it one after the other, over every table (`NamespaceOverlay.Follows`).
Listing the bindings, looking a label up and writing all that is staged read this same table
(`view_eq`, `lookup_eq`, `replay_writes`).
-/

namespace QuadTxn

namespace NamespaceTable

/-- The table after one write; a write of a statement leaves it alone. -/
def apply (t : NamespaceTable) : Write → NamespaceTable
  | .bind label name => t.insert label name
  | .unbind label => t.erase label
  | .unbindAll => ∅
  | .add _ | .remove _ => t

/-- The table after a list of writes, in order. -/
def replay (t : NamespaceTable) (ws : List Write) : NamespaceTable := ws.foldl apply t

@[simp] theorem replay_nil (t : NamespaceTable) : t.replay [] = t := rfl

theorem replay_append (t : NamespaceTable) (ws ws' : List Write) :
    t.replay (ws ++ ws') = (t.replay ws).replay ws' := List.foldl_append

/-- A list holds the bindings of a table, ordered by label, with one binding for each label. -/
def Lists (t : NamespaceTable) (l : List Namespace) : Prop :=
  (l.Pairwise fun m n => compare m.label n.label = .lt) ∧
    ∀ n : Namespace, n ∈ l ↔ t.get? n.label = some n.name

theorem lists_bindings (t : NamespaceTable) : t.Lists t.bindings := by
  refine ⟨List.pairwise_map.mpr t.sorted, fun n => ?_⟩
  rw [SortedMap.get?_eq_some_iff, bindings, List.mem_map]
  constructor
  · rintro ⟨e, he, rfl⟩
    exact he
  · exact fun he => ⟨_, he, rfl⟩

end NamespaceTable

namespace Contents

theorem apply_namespaces (c : Contents) (w : Write) :
    (c.apply w).namespaces = c.namespaces.apply w := by
  cases w <;> rfl

theorem replay_namespaces (c : Contents) (ws : List Write) :
    (c.replay ws).namespaces = c.namespaces.replay ws := by
  induction ws generalizing c with
  | nil => rfl
  | cons w ws ih =>
    rw [replay_cons, ih, apply_namespaces]
    rfl

end Contents

namespace NamespaceOverlay

/-- What the staged bindings make of a table. -/
def onto (o : NamespaceOverlay) (t : NamespaceTable) : NamespaceTable :=
  (if o.cleared then ∅ else t.filter fun label _ => label ∉ o.unbound).insertMany o.bound.entries

theorem get?_onto (o : NamespaceOverlay) (t : NamespaceTable) (label : String) :
    (o.onto t).get? label =
      (o.bound.get? label).or
        (if o.cleared = true ∨ label ∈ o.unbound then none else t.get? label) := by
  rw [onto, SortedMap.get?_insertMany]
  rcases o.cleared with _ | _
  · rw [if_neg Bool.false_ne_true, SortedMap.get?_filter fun label => decide (label ∉ o.unbound)]
    by_cases hunbound : label ∈ o.unbound <;> simp [hunbound]
  · simp

/-! ## Staging a write -/

@[simp] theorem onto_empty (t : NamespaceTable) : (∅ : NamespaceOverlay).onto t = t := by
  ext1 label
  rw [get?_onto]
  have hunbound : label ∉ (∅ : NamespaceOverlay).unbound := nofun
  have hcleared : (∅ : NamespaceOverlay).cleared = false := rfl
  rw [if_neg (by simp [hcleared, hunbound])]
  rfl

/-- Staging a binding binds in the table. -/
theorem onto_bind (o : NamespaceOverlay) (label name : String) (t : NamespaceTable) :
    (o.bind label name).onto t = (o.onto t).insert label name := by
  ext1 l
  rw [SortedMap.get?_insert, get?_onto, get?_onto, bind]
  by_cases hl : l = label <;> simp [SortedMap.get?_insert, hl]

/-- Staging the removal of a binding removes it from the table. -/
theorem onto_unbind (o : NamespaceOverlay) (label : String) (t : NamespaceTable) :
    (o.unbind label).onto t = (o.onto t).erase label := by
  ext1 l
  rw [SortedMap.get?_erase, get?_onto, get?_onto, unbind]
  by_cases hl : l = label <;> simp [SortedMap.get?_erase, hl]

/-- Whatever was staged before, a staged clearing leaves nothing. -/
theorem onto_clear (o : NamespaceOverlay) (t : NamespaceTable) : o.clear.onto t = ∅ := rfl

/-- The staged bindings have the effect of a list of writes, over every table. -/
def Follows (o : NamespaceOverlay) (ws : List Write) : Prop :=
  ∀ t : NamespaceTable, o.onto t = t.replay ws

theorem Follows.empty : (∅ : NamespaceOverlay).Follows [] := fun t => onto_empty t

/-- One more write is staged. -/
theorem Follows.snoc {o o' : NamespaceOverlay} {ws : List Write} (h : o.Follows ws) {w : Write}
    (hw : ∀ t, o'.onto t = (o.onto t).apply w) : o'.Follows (ws ++ [w]) := by
  intro t
  rw [hw, h t, NamespaceTable.replay_append]
  rfl

/-! ## Reading the table -/

/-- What is staged is in a table already once it has been laid over it. -/
@[simp] theorem onto_onto (o : NamespaceOverlay) (t : NamespaceTable) :
    o.onto (o.onto t) = o.onto t := by
  ext1 label
  rw [get?_onto, get?_onto]
  split
  · rfl
  · rw [← Option.or_assoc, Option.or_self]

/-- Listing the bindings in effect lists the table. -/
theorem view_eq (o : NamespaceOverlay) (t : NamespaceTable) :
    o.view t.bindings = (o.onto t).bindings := by
  have hbase : (.ofList ((if o.cleared then [] else
      t.bindings.filter fun n => n.label ∉ o.unbound).map fun n => (n.label, n.name)) :
        NamespaceTable) = if o.cleared then ∅ else t.filter fun label _ => label ∉ o.unbound := by
    split
    · rfl
    · have hentries : (t.bindings.filter fun n => n.label ∉ o.unbound).map
          (fun n => (n.label, n.name)) =
            (t.filter fun label _ => label ∉ o.unbound).entries := by
        simp [NamespaceTable.bindings, SortedMap.filter, List.filter_map, Function.comp_def]
      rw [hentries, SortedMap.ofList_entries]
  rw [view, hbase]
  rfl

/-- Looking a label up looks it up in the table. -/
theorem lookup_eq (o : NamespaceOverlay) (label : String) (t : NamespaceTable) :
    (o.lookup (m := Id) label fun l => t.get? l).run = (o.onto t).get? label := by
  rw [get?_onto, lookup]
  rcases o.bound.get? label with _ | name
  · by_cases hstored : o.cleared = true ∨ label ∈ o.unbound
    · simp [hstored]
    · simp [hstored]
      rfl
  · rfl

/-! ## Writing all that is staged -/

theorem replay_unbind (t : NamespaceTable) (labels : List String) :
    t.replay (labels.map .unbind) = t.filter fun label _ => label ∉ labels := by
  induction labels generalizing t with
  | nil =>
    ext1 label
    rw [SortedMap.get?_filter fun label => decide (label ∉ ([] : List String))]
    simp
  | cons l labels ih =>
    ext1 label
    change (NamespaceTable.replay (t.erase l) (labels.map .unbind)).get? label = _
    rw [ih, SortedMap.get?_filter fun label => decide (label ∉ labels),
      SortedMap.get?_filter fun label => decide (label ∉ l :: labels), SortedMap.get?_erase]
    by_cases hl : label = l <;> simp [hl]

theorem replay_bind (t : NamespaceTable) (es : List (String × String)) :
    t.replay (es.map fun e => .bind e.1 e.2) = t.insertMany es := by
  rw [NamespaceTable.replay, List.foldl_map]
  rfl

end NamespaceOverlay

end QuadTxn
