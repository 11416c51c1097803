import QuadTxn.Proofs.Runs.Publication

/-!
# Published change sets

Every commit publishes the difference between the committed statements after it and before it, to
every commit listener and to every other connection that runs a transaction
(`System.published_changes_are_exact`). Where nobody would be reached, an empty change set is
published to nobody. So a commit listener can keep up with the committed statements by the change
sets that it is told of.
-/

namespace QuadTxn

namespace ChangeSet

/-- The statements after a change, from those before it. -/
def apply (m : Model) (c : ChangeSet) : Model := (m.diff c.removed).insertMany c.added.toList

/-- The change from one set to another leads from the one to the other. -/
theorem apply_between (source : ConnectionId) (before after : Model) :
    apply before (between source before after) = after := by
  ext s
  rw [apply, SortedSet.mem_insertMany, ← SortedSet.mem_def, between]
  simp only [SortedSet.mem_diff]
  by_cases hb : s ∈ before <;> by_cases ha : s ∈ after <;> simp [hb, ha]

end ChangeSet

namespace Transition

/-- The change sets that a step is to publish: the difference that a commit of a running transaction
makes, and nothing for any other step. -/
def changes (t : Transition) : List ChangeSet :=
  match t.occurrence, t.result with
  | .request id .commit, .ok _ =>
    if (t.before.connection id).isActive then
      [.between id t.before.store.contents.statements t.after.store.contents.statements]
    else []
  | _, _ => []

end Transition

namespace System

/-! ## What the commit listeners are told -/

/-- An announcement tells every commit listener once. -/
theorem toldTo_announce (change : ChangeSet) (sys : System Session) (l : Nat) :
    (announce change sys).coordinator.toldTo l = sys.coordinator.toldTo l ++
      if l < sys.coordinator.listeners then [change] else [] := by
  have hrange : ∀ n : Nat, ((List.range n).map fun i => (i, change)).filterMap
      (fun e => if e.1 = l then some e.2 else none) = if l < n then [change] else [] := by
    intro n
    induction n with
    | zero => rfl
    | succ n ih =>
      rw [List.range_succ, List.map_append, List.filterMap_append, ih]
      by_cases hl : n = l
      · subst hl
        simp
      · have hiff : l < n + 1 ↔ l < n := by omega
        simp [hl, hiff]
  exact List.filterMap_append.trans (congrArg (sys.coordinator.toldTo l ++ ·) (hrange _))

section Told

variable {ts : List Transition} {sys sys' : System Session} {o : Occurrence}
  {r : Except TxnError Answer}

/-- A step commits a transaction, or tells nobody of anything and leaves the committed statements as
they are, unless it puts one in. -/
theorem commits_or_quiet (h : sys.Coherent) (he : Effect sys o r sys') :
    (∃ id change st, (sys.connection id).isActive = true ∧
      (sys.frame id).Commits (.ok (some change)) st ∧
      sys' = announce change (sys.setFrame id st) ∧
      Transition.changes ⟨sys, o, r, sys'⟩ =
        [.between id sys.store.contents.statements sys'.store.contents.statements]) ∨
    (Transition.changes ⟨sys, o, r, sys'⟩ = [] ∧
      sys'.coordinator.told = sys.coordinator.told ∧
      sys.coordinator.listeners ≤ sys'.coordinator.listeners ∧
      ((∀ s, o ≠ .insert s) → sys'.store.contents = sys.store.contents)) := by
  cases he with
  | @move id req _ st hreq hm =>
    have hkeeps := hm.keeps (h.frame id)
    refine .inr ⟨?_, hkeeps.told, Nat.le_of_eq hkeeps.watchers.symm, fun _ => hm.contents⟩
    rw [Transition.changes]
    split
    · rename_i hcommit _
      cases hcommit
      exact absurd rfl hreq
    · rfl
  | @commitFails id e st hc =>
    have hkeeps := hc.keeps (h.frame id)
    exact .inr ⟨rfl, hkeeps.told, Nat.le_of_eq hkeeps.watchers.symm, fun _ => hc.error_contents⟩
  | @commitSkips id hinactive =>
    exact .inr ⟨if_neg (by simp [hinactive]), rfl, Nat.le_refl _, fun _ => rfl⟩
  | @commit id change st hact hc => exact .inl ⟨id, change, st, hact, hc, rfl, if_pos hact⟩
  | connect => exact .inr ⟨rfl, rfl, Nat.le_refl _, fun _ => rfl⟩
  | @disconnect id st hm =>
    have hkeeps := hm.keeps (h.frame id)
    exact .inr ⟨rfl, hkeeps.told, Nat.le_of_eq hkeeps.watchers.symm, fun _ => hm.contents⟩
  | @insert s => exact .inr ⟨rfl, rfl, Nat.le_refl _, fun hinsert => absurd rfl (hinsert s)⟩
  | failPrepare => exact .inr ⟨rfl, rfl, Nat.le_refl _, fun _ => rfl⟩
  | failCommit => exact .inr ⟨rfl, rfl, Nat.le_refl _, fun _ => rfl⟩
  | watch => exact .inr ⟨rfl, rfl, Nat.le_succ _, fun _ => rfl⟩

/-- A step tells every commit listener that is there of the changes that it is to publish, and
takes no listener out. -/
theorem toldTo_effect (h : Settled ts sys) (he : Effect sys o r sys') (l : Nat) :
    sys'.coordinator.toldTo l = sys.coordinator.toldTo l ++
        (if l < sys.coordinator.listeners then Transition.changes ⟨sys, o, r, sys'⟩ else []) ∧
      sys.coordinator.listeners ≤ sys'.coordinator.listeners := by
  rcases commits_or_quiet h.coherent he with
    ⟨id, change, st, hact, hc, rfl, hchanges⟩ | ⟨hchanges, htold, hlisteners, -⟩
  · have hkeeps := hc.keeps (h.coherent.frame id)
    have hwatchers : st.coordinator.listeners = sys.coordinator.listeners := hkeeps.watchers
    have htold : (sys.setFrame id st).coordinator.toldTo l = sys.coordinator.toldTo l := by
      rw [Coordinator.toldTo, Coordinator.toldTo, show (sys.setFrame id st).coordinator.told =
        sys.coordinator.told from hkeeps.told]
    refine ⟨?_, Nat.le_of_eq hwatchers.symm⟩
    rw [toldTo_announce, htold, hchanges,
      show (sys.setFrame id st).coordinator.listeners = sys.coordinator.listeners from hwatchers]
    by_cases hl : l < sys.coordinator.listeners
    · have hwatched := (isWatched_iff h.coherent hact).mpr (.inl (Nat.zero_lt_of_lt hl))
      rw [if_pos hl, if_pos hl, (change_of_commits h.coherent hc (h.inStep id)).2 hwatched]
      rfl
    · rw [if_neg hl, if_neg hl]
  · refine ⟨?_, hlisteners⟩
    rw [hchanges, ite_self, List.append_nil, Coordinator.toldTo, htold, Coordinator.toldTo]

/-- The changes that a step is to publish lead from the committed statements before it to those
after it, unless it puts a statement in. -/
theorem statements_effect (h : sys.Coherent) (he : Effect sys o r sys')
    (hinsert : ∀ s, o ≠ .insert s) :
    (Transition.changes ⟨sys, o, r, sys'⟩).foldl ChangeSet.apply sys.store.contents.statements =
      sys'.store.contents.statements := by
  rcases commits_or_quiet h he with
    ⟨id, change, st, hact, hc, -, hchanges⟩ | ⟨hchanges, -, -, hkept⟩
  · rw [hchanges]
    exact ChangeSet.apply_between id _ _
  · rw [hchanges, hkept hinsert]
    rfl

end Told

section Listening

variable {earlier later : List Transition} {start sys : System Session}

/-- A listener that is there is told of all changes from then on. -/
theorem toldTo_run (h : Settled earlier start) (hr : Run start later sys)
    (hcalm : ∀ t ∈ later, t.Calm) {l : Nat} (hl : l < start.coordinator.listeners) :
    sys.coordinator.toldTo l =
        start.coordinator.toldTo l ++ later.flatMap Transition.changes ∧
      l < sys.coordinator.listeners := by
  induction hr with
  | nil => exact ⟨(List.append_nil _).symm, hl⟩
  | @snoc later sys sys' o r hr hs ih =>
    obtain ⟨hearly, -⟩ := Transition.forall_snoc hcalm
    obtain ⟨htold, hlt⟩ := ih hearly
    have hbefore := h.run hr hearly
    obtain ⟨hstep, hle⟩ := toldTo_effect hbefore (effect_of_step hbefore.coherent hs) l
    refine ⟨?_, Nat.lt_of_lt_of_le hlt hle⟩
    rw [hstep, if_pos hlt, htold, List.append_assoc, List.flatMap_append, List.flatMap_singleton]

/-- A listener that is not there yet was told of nothing. -/
theorem toldTo_unregistered (hr : Run .new earlier sys) (hcalm : ∀ t ∈ earlier, t.Calm) {l : Nat}
    (hl : sys.coordinator.listeners ≤ l) : sys.coordinator.toldTo l = [] := by
  induction hr with
  | nil => rfl
  | @snoc earlier sys sys' o r hr hs ih =>
    obtain ⟨hearly, -⟩ := Transition.forall_snoc hcalm
    have hbefore := settled_of_run hr hearly
    obtain ⟨hstep, hle⟩ := toldTo_effect hbefore (effect_of_step hbefore.coherent hs) l
    have hl' : sys.coordinator.listeners ≤ l := Nat.le_trans hle hl
    rw [hstep, if_neg (Nat.not_lt.mpr hl'), ih hearly hl', List.append_nil]

/-- The changes of a run lead from the committed statements at its start to those at its end. -/
theorem statements_run (h : start.Coherent) (hr : Run start later sys)
    (hinsert : ∀ t ∈ later, ∀ s, t.occurrence ≠ .insert s) :
    (later.flatMap Transition.changes).foldl ChangeSet.apply start.store.contents.statements =
      sys.store.contents.statements := by
  induction hr with
  | nil => rfl
  | @snoc later sys sys' o r hr hs ih =>
    obtain ⟨hearly, hlast⟩ := Transition.forall_snoc hinsert
    have hsys := h.run hr
    rw [List.flatMap_append, List.foldl_append, ih hearly, List.flatMap_singleton]
    exact statements_effect hsys (effect_of_step hsys hs) hlast

end Listening

/-! ## The guarantee -/

/-- A commit of a running transaction takes the committed statements from one set to another. If
there is a commit listener or another connection runs a transaction, it publishes exactly the
difference; whatever it publishes, each other connection is as if it had been told of exactly the
difference. A commit listener has been told, since it was added, of exactly the difference that
each successful commit made, in order. So these differences lead from the committed statements when
it was added to the present ones, if none was put in directly. -/
theorem published_changes_are_exact {ts : List Transition} {sys : System Session}
    (hr : Run .new ts sys) (hcalm : ∀ t ∈ ts, t.Calm) :
    (∀ id a sys', (sys.connection id).isActive = true →
      Step sys (.request id .commit) (.ok a) sys' →
      let exact : ChangeSet :=
        .between id sys.store.contents.statements sys'.store.contents.statements
      ∃ change mid, on id Connection.commit sys = .ok (some change) mid ∧
        publish change mid = .ok ⟨⟩ sys' ∧
        (0 < sys.coordinator.listeners ∨ (∃ j, j ≠ id ∧ (sys.connection j).isActive = true) →
          change = exact) ∧
        ∀ j, j ≠ id → sys'.connection j = (sys.connection j).noteCommit exact) ∧
    ∀ earlier start later, ts = earlier ++ start :: later → start.occurrence = .watch →
      let told := sys.coordinator.toldTo start.before.coordinator.listeners
      told = later.flatMap Transition.changes ∧
        ((∀ t ∈ later, ∀ s, t.occurrence ≠ .insert s) →
          told.foldl ChangeSet.apply start.after.store.contents.statements =
            sys.store.contents.statements) := by
  have h := settled_of_run hr hcalm
  refine ⟨fun id a sys' hact hs => ?_, ?_⟩
  · rcases commit_of_done h.coherent hs.2 with ⟨e, st, -, -, herror, -⟩ |
      ⟨change?, st, hon, hc, -, rfl⟩
    · cases herror
    · rcases change? with _ | change
      · cases hc with
        | skip hinactive =>
          rw [show (sys.frame id).self.isActive = true from hact] at hinactive
          cases hinactive
      · refine ⟨change, sys.setFrame id st, hon, rfl, fun hreached => ?_, fun j hj => ?_⟩
        · exact (change_of_commits h.coherent hc (h.inStep id)).2
            ((isWatched_iff h.coherent hact).mpr hreached)
        · rw [Option.elim_some, connection_commit h.coherent hc, connection_setFrame_ne _ _ hj]
          exact noteCommit_of_commits h.coherent hc (h.inStep id) hj
  · rintro earlier ⟨before, o, r, after⟩ later rfl rfl
    obtain ⟨mid, hearly, hrest⟩ := hr.split rfl
    obtain ⟨hbefore, hwatch, hlater⟩ := hrest.uncons
    obtain rfl : before = mid := hbefore
    rw [← List.singleton_append, ← List.append_assoc] at hcalm
    obtain ⟨hcalm₁, hcalm₂⟩ := List.forall_mem_append.mp hcalm
    have hbegun := settled_of_run (hearly.snoc hwatch) hcalm₁
    have hfresh := toldTo_unregistered hearly (Transition.forall_snoc hcalm₁).1
      (Nat.le_refl before.coordinator.listeners)
    have hafter : after.coordinator = before.coordinator.watch :=
      congrArg System.coordinator (Prod.mk.inj (Option.some.inj hwatch.2)).2.symm
    -- the listener that is added is the next one in number, and has been told of nothing so far
    have hthere : before.coordinator.listeners < after.coordinator.listeners := by
      rw [hafter]
      exact Nat.lt_succ_self _
    have htold : sys.coordinator.toldTo before.coordinator.listeners =
        later.flatMap Transition.changes := by
      rw [(toldTo_run hbegun hlater hcalm₂ hthere).1, hafter]
      exact congrArg (· ++ _) hfresh
    refine ⟨htold, fun hinsert => ?_⟩
    exact (congrArg (List.foldl _ _) htold).trans
      (statements_run hbegun.coherent hlater hinsert)

/-- A listener that was added first follows a connection that adds a statement and commits it. -/
theorem listener_follows_one_addition : ∃ ts sys,
    Step .new .watch (.ok .none) ⟨.new, Coordinator.new.watch, ∅⟩ ∧
    requests ⟨.new, Coordinator.new.watch, ∅⟩ [("c", .begin),
      ("c", .addStatement ⟨.iri "s", .iri "p", .iri "o", none⟩), ("c", .commit)] = some (ts, sys) ∧
    (sys.coordinator.toldTo 0).foldl ChangeSet.apply ∅ = sys.store.contents.statements ∧
    ⟨.iri "s", .iri "p", .iri "o", none⟩ ∈ sys.store.contents.statements := by
  have hwatch : Step .new .watch (.ok .none) ⟨.new, Coordinator.new.watch, ∅⟩ := ⟨trivial, rfl⟩
  have hplay := (rfl : requests ⟨.new, Coordinator.new.watch, ∅⟩ [("c", .begin),
    ("c", .addStatement ⟨.iri "s", .iri "p", .iri "o", none⟩), ("c", .commit)] = some (_, _))
  obtain ⟨hr, hreqs⟩ := run_of_requests hplay
  have hfirst : Calm .new .watch := fun ⟨_, hinsert⟩ => nomatch hinsert
  have hfollows := (published_changes_are_exact (hr.cons hwatch) fun t ht =>
    (List.mem_cons.mp ht).elim (fun heq => heq ▸ hfirst)
      fun ht => Transition.calm_of_request (hreqs t ht)).2 [] _ _ rfl rfl
  refine ⟨_, _, hwatch, hplay, hfollows.2 fun t ht s heq => ?_, by decide⟩
  obtain ⟨id, req, hreq⟩ := hreqs t ht
  rw [hreq] at heq
  cases heq

end System

end QuadTxn
