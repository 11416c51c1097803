import QuadTxn.Proofs.Ledger.History
import QuadTxn.Proofs.Runs.Passing

/-!
# What the ledger of a transaction is told in a run

A transaction that tracks its reads takes down every read that it makes, and every change set that
another connection publishes in the meantime. So its ledger is the one that follows the history of
the run (`System.Tracks.ledger`), and it can be read off the run whether the ledger holds a change
(`System.Tracks.changes_iff`) or a phantom (`System.Tracks.phantom_iff`).
-/

namespace QuadTxn

/-- A statement of a change set is in the footprint of a read. -/
def ChangeSet.Overlaps (change : ChangeSet) (r : Read) : Prop :=
  ∃ s, (s ∈ change.added ∨ s ∈ change.removed) ∧ ∃ p ∈ r.footprint, p.selects s = true

theorem ChangeSet.affects_iff {change : ChangeSet} {r : Read} :
    Ledger.Affects Read.affectedBy change r ↔ change.Overlaps r := by
  simp only [Ledger.Affects, Read.affectedBy_iff, Overlaps]
  constructor
  · rintro (⟨p, hp, s, hs, hselects⟩ | ⟨p, hp, s, hs, hselects⟩)
    · exact ⟨s, .inl hs, p, hp, hselects⟩
    · exact ⟨s, .inr hs, p, hp, hselects⟩
  · rintro ⟨s, hs | hs, p, hp, hselects⟩
    · exact .inl ⟨p, hp, s, hs, hselects⟩
    · exact .inr ⟨p, hp, s, hs, hselects⟩

/-- What a commit of a connection publishes now, if it succeeds. -/
def System.publication? (id : ConnectionId) (sys : System Session) : Option ChangeSet :=
  match on id Connection.commit sys with
  | .ok change? _ => change?
  | _ => none

namespace Transition

/-- A connection has read something in a step. -/
def Reads (id : ConnectionId) (r : Read) (t : Transition) : Prop :=
  ∃ req a, t.occurrence = .request id req ∧ t.result = .ok a ∧ req.read? = some r

/-- A connection has committed in a step, and published a change set. -/
def Publishes (id : ConnectionId) (change : ChangeSet) (t : Transition) : Prop :=
  t.occurrence = .request id .commit ∧ t.before.publication? id = some change

/-- What the ledger of a connection is told in a step: its own read, or what another one has
published. -/
def noted? (id : ConnectionId) (t : Transition) : Option Ledger.Entry :=
  match t.occurrence with
  | .request j req =>
    if j = id then (req.observed? (t.before.connection id).isolation t.result).map .read
    else
      match req with
      | .commit => (t.before.publication? j).map .commit
      | _ => none
  | _ => none

/-- What the ledger of a connection is told in a run. -/
def history (id : ConnectionId) (ts : List Transition) : List Ledger.Entry :=
  ts.filterMap (noted? id)

theorem history_snoc (id : ConnectionId) (ts : List Transition) (t : Transition) :
    history id (ts ++ [t]) = history id ts ++ (t.noted? id).toList := by
  rw [history, List.filterMap_append, ← history, List.filterMap_cons]
  rcases t.noted? id with _ | e
  · rfl
  · rfl

/-! ## Entries and the steps that they come from -/

section Entry

variable {id : ConnectionId} {t : Transition}

theorem noted?_eq_read_iff (hsnap : (t.before.connection id).isolation.snapshot = true)
    {r : Read} : t.noted? id = some (.read r) ↔ t.Reads id r := by
  obtain ⟨before, o, result, after⟩ := t
  constructor
  · intro h
    cases o with
    | request j req =>
      simp only [noted?] at h
      split at h
      · rename_i hj
        obtain ⟨r', hobserved, heq⟩ := Option.map_eq_some_iff.mp h
        obtain rfl := Ledger.Entry.read.inj heq
        obtain ⟨⟨a, hok⟩, hread⟩ := Request.read?_of_observed hobserved
        exact ⟨req, a, by rw [hj], hok, hread⟩
      · split at h
        · obtain ⟨_, -, heq⟩ := Option.map_eq_some_iff.mp h
          cases heq
        · cases h
    | _ => cases h
  · rintro ⟨req, a, ho, hok, hread⟩
    obtain rfl : o = _ := ho
    obtain rfl : result = _ := hok
    have hobserved : req.observed? (before.connection id).isolation (.ok a) = some r :=
      (if_pos hsnap).trans hread
    simp only [noted?, if_pos, hobserved, Option.map_some]

theorem noted?_eq_commit_iff {change : ChangeSet} :
    t.noted? id = some (.commit change) ↔ ∃ j, j ≠ id ∧ t.Publishes j change := by
  obtain ⟨before, o, result, after⟩ := t
  constructor
  · intro h
    cases o with
    | request j req =>
      simp only [noted?] at h
      split at h
      · obtain ⟨_, -, heq⟩ := Option.map_eq_some_iff.mp h
        cases heq
      · rename_i hj
        split at h
        · obtain ⟨change', hpublished, heq⟩ := Option.map_eq_some_iff.mp h
          obtain rfl := Ledger.Entry.commit.inj heq
          exact ⟨j, hj, rfl, hpublished⟩
        · cases h
    | _ => cases h
  · rintro ⟨j, hj, ho, hpublished⟩
    obtain rfl : o = _ := ho
    have hpublished : before.publication? j = some change := hpublished
    simp only [noted?, if_neg hj, hpublished, Option.map_some]

theorem noted?_own {sys sys' : System Session} {req : Request} {r : Except TxnError Answer} :
    noted? id ⟨sys, .request id req, r, sys'⟩ =
      (req.observed? (sys.connection id).isolation r).map .read :=
  if_pos rfl

/-- A part of a history comes from a part of the run. -/
theorem sublist_history_iff {es : List Ledger.Entry} {ts : List Transition} :
    es.Sublist (history id ts) ↔
      ∃ ts' : List Transition, ts'.Sublist ts ∧ ts'.map (noted? id) = es.map some := by
  constructor
  · intro h
    obtain ⟨ts', hsub, rfl⟩ := List.sublist_filterMap_iff.mp h
    refine ⟨ts'.filter fun t => (t.noted? id).isSome, (List.filter_sublist).trans hsub, ?_⟩
    rw [List.map_filterMap_some_eq_filter_map_isSome, List.filter_map]
    rfl
  · rintro ⟨ts', hsub, hmap⟩
    have hes : (ts'.map (noted? id)).filterMap (fun e => e) = es := by
      rw [hmap]
      simp
    rw [List.filterMap_map] at hes
    rw [← hes]
    exact hsub.filterMap _

end Entry

end Transition

namespace System

/-! ## One step -/

section Step

variable {sys sys' : System Session} (h : sys.Coherent) {id : ConnectionId} {o : Occurrence}
  {r : Except TxnError Answer}

include h

/-- What another connection takes down of a commit. -/
theorem connection_of_commit {j : ConnectionId} (hj : id ≠ j)
    (hs : Step sys (.request j .commit) r sys') :
    sys'.connection id =
      (sys.publication? j).elim (sys.connection id) (sys.connection id).noteCommit := by
  rcases commit_of_done h hs.2 with ⟨e, st, hon, -, -, rfl⟩ | ⟨change?, st, hon, hc, -, rfl⟩
  · rw [publication?, hon, connection_setFrame_ne _ _ hj]
    rfl
  · rw [publication?, hon]
    rcases change? with _ | change
    · exact connection_setFrame_ne _ _ hj
    · rw [Option.elim_some, connection_commit h hc, connection_setFrame_ne _ _ hj]
      rfl

omit h in
/-- A running transaction notices nothing of a step that is neither a request of its own nor a
commit. -/
theorem connection_of_other (he : Effect sys o r sys')
    (hact : (sys'.connection id).isActive = true) (hown : ∀ req, o ≠ .request id req)
    (hcommit : ∀ j, o ≠ .request j .commit) : sys'.connection id = sys.connection id := by
  cases he with
  | @move j =>
    have hj : id ≠ j := fun heq => hown _ (by rw [heq])
    exact connection_setFrame_ne _ _ hj
  | commitFails => exact absurd rfl (hcommit _)
  | commitSkips => exact absurd rfl (hcommit _)
  | commit => exact absurd rfl (hcommit _)
  | @connect j =>
    -- a connection that has just come, or has gone, runs no transaction
    rw [connection_connect] at hact ⊢
    by_cases hj : id = j
    · rw [if_pos hj] at hact
      cases hact
    · exact if_neg hj
  | @disconnect j =>
    rw [connection_disconnect] at hact ⊢
    by_cases hj : id = j
    · rw [if_pos hj] at hact
      cases hact
    · exact if_neg hj
  | _ => rfl

/-- A step takes down in the ledger of a running transaction what it is told. -/
theorem ledger_step (hact : (sys.connection id).isActive = true)
    (hsnap : (sys.connection id).isolation.snapshot = true) (hs : Step sys o r sys')
    (hact' : (sys'.connection id).isActive = true) :
    (sys'.connection id).ledger = (Transition.noted? id ⟨sys, o, r, sys'⟩).elim
      (sys.connection id).ledger (Ledger.take Read.affectedBy (sys.connection id).ledger) := by
  rcases active_step h (effect_of_step h hs) hact' with ⟨req, rfl, hm⟩ | ⟨hown, hpass⟩
  · have hledger : (sys'.connection id).ledger =
        (req.observed? (sys.connection id).isolation r).elim (sys.connection id).ledger
          (sys.connection id).ledger.observe := hm.ledger hact hact'
    rw [hledger, Transition.noted?_own]
    rcases req.observed? (sys.connection id).isolation r with _ | read
    · rfl
    · rfl
  · have htracking : (sys.connection id).tracking = true :=
      (h.frame id).sound.tracking hact hsnap
    -- only a commit of another connection can be told
    by_cases hcommit : ∃ j, o = .request j .commit
    · obtain ⟨j, rfl⟩ := hcommit
      have hj : j ≠ id := fun heq => hown .commit (by rw [heq])
      rw [connection_of_commit h hj.symm hs]
      simp only [Transition.noted?, if_neg hj]
      rcases sys.publication? j with _ | change
      · rfl
      · simp only [Option.elim_some, Option.map_some, Connection.noteCommit, if_pos htracking]
        rfl
    · have hnone : Transition.noted? id ⟨sys, o, r, sys'⟩ = none := by
        cases o with
        | request j req =>
          have hj : j ≠ id := fun heq => hown req (by rw [heq])
          cases req <;> first | exact absurd ⟨j, rfl⟩ hcommit | exact if_neg hj
        | _ => rfl
      rw [hnone]
      exact congrArg Connection.ledger (connection_of_other (effect_of_step h hs) hact' hown
        fun j heq => hcommit ⟨j, heq⟩)

end Step

/-! ## A whole run -/

/-- A transaction that has just begun runs on, and tracks its reads all the time. -/
structure Tracks (id : ConnectionId) (start : System Session) (ts : List Transition)
    (sys : System Session) : Prop where
  /-- the run -/
  run : Run start ts sys
  /-- the system is coherent at first -/
  coherent : start.Coherent
  /-- nothing has been taken down at first -/
  ledger_start : (start.connection id).ledger = ∅
  /-- the transaction runs at first -/
  active_start : (start.connection id).isActive = true
  /-- it tracks its reads at first -/
  snapshot_start : (start.connection id).isolation.snapshot = true
  /-- the transaction runs after each step -/
  active : ∀ t ∈ ts, (t.after.connection id).isActive = true
  /-- it tracks its reads after each step -/
  snapshot : ∀ t ∈ ts, (t.after.connection id).isolation.snapshot = true

namespace Tracks

variable {id : ConnectionId} {start sys : System Session} {ts : List Transition}
  (h : Tracks id start ts sys)

include h

theorem active_last : (sys.connection id).isActive = true :=
  (h.run.forall_before (P := fun sys => (sys.connection id).isActive = true) h.active_start
    h.active).2

theorem snapshot_last : (sys.connection id).isolation.snapshot = true :=
  (h.run.forall_before (P := fun sys => (sys.connection id).isolation.snapshot = true)
    h.snapshot_start h.snapshot).2

theorem snapshot_before : ∀ t ∈ ts, (t.before.connection id).isolation.snapshot = true :=
  (h.run.forall_before (P := fun sys => (sys.connection id).isolation.snapshot = true)
    h.snapshot_start h.snapshot).1

theorem coherent_last : sys.Coherent := h.coherent.run h.run

/-- The transaction has run up to each point of the run. -/
theorem upTo {ts₁ ts₂ : List Transition} (hts : ts = ts₁ ++ ts₂) {mid : System Session}
    (hr : Run start ts₁ mid) : Tracks id start ts₁ mid := by
  have hmem : ∀ t ∈ ts₁, t ∈ ts := fun t ht => hts ▸ List.mem_append_left ts₂ ht
  exact ⟨hr, h.coherent, h.ledger_start, h.active_start, h.snapshot_start,
    fun t ht => h.active t (hmem t ht), fun t ht => h.snapshot t (hmem t ht)⟩

/-- The ledger follows the history of the run. -/
theorem ledger : (sys.connection id).ledger =
    Ledger.follow Read.affectedBy (Transition.history id ts) := by
  have hr := h.run
  induction hr with
  | nil => exact h.ledger_start
  | @snoc ts sys sys' o r hr hs ih =>
    have hmid := h.upTo rfl hr
    rw [Transition.history_snoc, ledger_step hmid.coherent_last hmid.active_last
      hmid.snapshot_last hs h.active_last, ih hmid]
    rcases Transition.noted? id ⟨sys, o, r, sys'⟩ with _ | e
    · exact congrArg _ (List.append_nil _).symm
    · exact (Ledger.follow_snoc _ _ e).symm

/-- The history has a read and a commit after it if the run has them. -/
theorem read_commit_iff {r : Read} {change : ChangeSet} :
    [.read r, .commit change].Sublist (Transition.history id ts) ↔
      ∃ j t₁ t₂, j ≠ id ∧ [t₁, t₂].Sublist ts ∧ t₁.Reads id r ∧ t₂.Publishes j change := by
  rw [Transition.sublist_history_iff]
  constructor
  · rintro ⟨ts', hsub, hmap⟩
    obtain ⟨t₁, _, rfl, hread, hmap⟩ := List.map_eq_cons_iff.mp hmap
    obtain ⟨t₂, _, rfl, hcommit, hmap⟩ := List.map_eq_cons_iff.mp hmap
    obtain rfl := List.map_eq_nil_iff.mp hmap
    obtain ⟨j, hj, hpublishes⟩ := Transition.noted?_eq_commit_iff.mp hcommit
    have hsnap := h.snapshot_before t₁ (hsub.subset List.mem_cons_self)
    exact ⟨j, t₁, t₂, hj, hsub, (Transition.noted?_eq_read_iff hsnap).mp hread, hpublishes⟩
  · rintro ⟨j, t₁, t₂, hj, hsub, hreads, hpublishes⟩
    have hsnap := h.snapshot_before t₁ (hsub.subset List.mem_cons_self)
    have hread := (Transition.noted?_eq_read_iff hsnap).mpr hreads
    have hcommit := Transition.noted?_eq_commit_iff.mpr ⟨j, hj, hpublishes⟩
    exact ⟨[t₁, t₂], hsub, by simp [hread, hcommit]⟩

/-- The history has a read before and after a commit if the run has them. -/
theorem read_commit_read_iff {r r' : Read} {change : ChangeSet} :
    [.read r, .commit change, .read r'].Sublist (Transition.history id ts) ↔
      ∃ j t₁ t₂ t₃, j ≠ id ∧ [t₁, t₂, t₃].Sublist ts ∧ t₁.Reads id r ∧ t₂.Publishes j change ∧
        t₃.Reads id r' := by
  rw [Transition.sublist_history_iff]
  constructor
  · rintro ⟨ts', hsub, hmap⟩
    obtain ⟨t₁, _, rfl, hread, hmap⟩ := List.map_eq_cons_iff.mp hmap
    obtain ⟨t₂, _, rfl, hcommit, hmap⟩ := List.map_eq_cons_iff.mp hmap
    obtain ⟨t₃, _, rfl, hread', hmap⟩ := List.map_eq_cons_iff.mp hmap
    obtain rfl := List.map_eq_nil_iff.mp hmap
    obtain ⟨j, hj, hpublishes⟩ := Transition.noted?_eq_commit_iff.mp hcommit
    have hsnap := fun t ht => h.snapshot_before t (hsub.subset ht)
    exact ⟨j, t₁, t₂, t₃, hj, hsub,
      (Transition.noted?_eq_read_iff (hsnap t₁ (by simp))).mp hread, hpublishes,
      (Transition.noted?_eq_read_iff (hsnap t₃ (by simp))).mp hread'⟩
  · rintro ⟨j, t₁, t₂, t₃, hj, hsub, hreads, hpublishes, hreads'⟩
    have hsnap := fun t ht => h.snapshot_before t (hsub.subset ht)
    have hread := (Transition.noted?_eq_read_iff (hsnap t₁ (by simp))).mpr hreads
    have hcommit := Transition.noted?_eq_commit_iff.mpr ⟨j, hj, hpublishes⟩
    have hread' := (Transition.noted?_eq_read_iff (hsnap t₃ (by simp))).mpr hreads'
    exact ⟨[t₁, t₂, t₃], hsub, by simp [hread, hcommit, hread']⟩

/-- The ledger holds a change if another connection has published one that overlaps an earlier read
of the transaction. -/
theorem changes_iff : (sys.connection id).ledger.changes ≠ [] ↔
    ∃ r change j t₁ t₂, change.Overlaps r ∧ j ≠ id ∧ [t₁, t₂].Sublist ts ∧
      t₁.Reads id r ∧ t₂.Publishes j change := by
  rw [h.ledger, Ledger.changes_ne_nil_iff]
  simp only [h.read_commit_iff, ChangeSet.affects_iff, ← exists_and_left]

/-- The ledger holds a phantom if another connection has published a change that overlaps an earlier
and a later read of the transaction. -/
theorem phantom_iff : ((sys.connection id).ledger.phantom? Read.affectedBy).isSome ↔
    ∃ r change r' j t₁ t₂ t₃, change.Overlaps r ∧ change.Overlaps r' ∧ j ≠ id ∧
      [t₁, t₂, t₃].Sublist ts ∧ t₁.Reads id r ∧ t₂.Publishes j change ∧ t₃.Reads id r' := by
  rw [h.ledger, Ledger.phantom_iff]
  simp only [h.read_commit_read_iff, ChangeSet.affects_iff, ← exists_and_left]

end Tracks

end System

end QuadTxn
