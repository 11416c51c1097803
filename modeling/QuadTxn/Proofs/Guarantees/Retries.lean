import QuadTxn.Proofs.Retries.Venues

/-!
# Running a transaction again

A transaction that has ended in a conflict is run again as often as the policy allows. Each time
that it is run is an attempt that is in order (`Attempt.Sound`). All attempts but the last have
ended in a conflict, and the last one decides what all of them come to (`System.Retried`). So at
most one of them commits, and then just what was asked for in it
(`System.retry_commits_at_most_once`).
-/

namespace QuadTxn.System

/-- A transaction was run again and again in a venue, first as the run with the given number, and
then no more often than the given number of retries. -/
structure Retried {α : Type} (id : ConnectionId) (script : Nat → Script α) (run retries : Nat)
    (early : List (Attempt α)) (last : Attempt α) (r : Except TxnError α)
    (v v' : Venue α) : Prop where
  /-- every attempt is in order -/
  sound : ∀ (n : Nat) (a : Attempt α), (early ++ [last])[n]? = some a →
    a.Sound id (script (run + n))
  /-- all attempts but the last have ended in a conflict -/
  conflicts : ∀ a ∈ early, a.Conflicts
  /-- the last attempt has come to the result -/
  result : last.result = r
  /-- there are no more attempts than are allowed -/
  bounded : early.length ≤ retries
  /-- after a conflict there are no less -/
  exhausted : last.Conflicts → early.length = retries
  /-- the steps of the attempts are those of the connection -/
  leads : v.Leads id ((early ++ [last]).flatMap Attempt.steps) v'
  /-- no transaction runs any more -/
  inactive : (v'.system.connection id).isActive = false
  /-- what the work has come to in the attempts was taken down -/
  returned : v'.returned = v.returned ++ (early ++ [last]).flatMap Attempt.returned

section Retries

variable {α : Type} {id : ConnectionId} {script : Nat → Script α} {run retries : Nat}
  {early : List (Attempt α)} {a last : Attempt α} {r : Except TxnError α} {v mid v' : Venue α}

/-- A single attempt. -/
theorem Attempted.retried (h : Attempted id (script run) a r v v')
    (hexhausted : a.Conflicts → retries = 0) : Retried id script run retries [] a r v v' where
  sound n a' ha := by
    obtain ⟨rfl, rfl⟩ : n = 0 ∧ a = a' := by simpa [List.getElem?_singleton] using ha
    exact h.sound
  conflicts _ ha := nomatch ha
  result := h.result
  bounded := Nat.zero_le retries
  exhausted hconflicts := (hexhausted hconflicts).symm
  leads := by simpa using h.leads
  inactive := h.inactive
  returned := by simpa using h.returned

/-- An attempt that has ended in a conflict, and those after it. -/
theorem Retried.cons (h : Attempted id (script run) a (.error e) v mid) (ha : a.Conflicts)
    (hrest : Retried id script (run + 1) retries early last r mid v') :
    Retried id script run (retries + 1) (a :: early) last r v v' where
  sound n a' ha' := by
    cases n with
    | zero =>
      obtain rfl := Option.some.inj ha'
      exact h.sound
    | succ n =>
      have hsound := hrest.sound n a' ha'
      rwa [Nat.add_right_comm] at hsound
  conflicts := List.forall_mem_cons.mpr ⟨ha, hrest.conflicts⟩
  result := hrest.result
  bounded := Nat.succ_le_succ hrest.bounded
  exhausted hconflicts := congrArg Nat.succ (hrest.exhausted hconflicts)
  leads := h.leads.trans hrest.leads
  inactive := hrest.inactive
  returned := by
    rw [hrest.returned, h.returned, List.append_assoc]
    rfl

/-- What a transaction that is run again comes to. -/
theorem retrying_retried (hplain : ∀ n, (script n).Plain) (hspares : v.Spares id)
    (h : Standing id [] [] v.system) (hidle : (v.system.connection id).isActive = false)
    (hd : (retrying id (fun n => (script n).run id) run retries v).done? = some (r, v')) :
    ∃ early last, Retried id script run retries early last r v v' := by
  induction retries generalizing run v with
  | zero =>
    obtain ⟨a, ha⟩ := transaction_attempted (hplain run) hspares h hidle hd
    exact ⟨[], a, ha.retried fun _ => rfl⟩
  | succ retries ih =>
    obtain ⟨q, mid, hfirst, hrest⟩ := Outcome.done?_attempt_bind hd
    obtain ⟨a, ha⟩ := transaction_attempted (hplain run) hspares h hidle hfirst
    cases q with
    | ok x =>
      obtain ⟨rfl, rfl⟩ := Prod.mk.inj (Option.some.inj hrest)
      refine ⟨[], a, ha.retried fun hconflicts => ?_⟩
      obtain ⟨e, he, -⟩ := hconflicts.result
      cases ha.result.symm.trans he
    | error e =>
      dsimp only at hrest
      split at hrest
      · rename_i hconflict
        have hconflicts := ha.sound.conflicts ha.result hconflict
        obtain ⟨early, last, hretried⟩ :=
          ih (ha.leads.spares hspares) ha.standing ha.inactive hrest
        exact ⟨a :: early, last, hretried.cons ha hconflicts⟩
      · rename_i hother
        obtain ⟨rfl, rfl⟩ := Prod.mk.inj (Option.some.inj hrest)
        refine ⟨[], a, ha.retried fun hconflicts => ?_⟩
        obtain ⟨e', he', hconflict⟩ := hconflicts.result
        obtain rfl := Except.error.inj (ha.result.symm.trans he')
        exact absurd hconflict hother

/-- The work was done in each attempt at most once. -/
theorem length_returned_flatMap_le (as : List (Attempt α)) :
    (as.flatMap Attempt.returned).length ≤ as.length := by
  induction as with
  | nil => exact Nat.le_refl 0
  | cons a as ih =>
    have ha := a.length_returned_le
    rw [List.flatMap_cons, List.length_append, List.length_cons]
    omega

theorem Retried.length_returned_le (h : Retried id script run retries early last r v v') :
    v'.returned.length ≤ v.returned.length + (retries + 1) := by
  have hle := length_returned_flatMap_le (early ++ [last])
  have hbounded := h.bounded
  rw [List.length_append, List.length_singleton] at hle
  rw [h.returned, List.length_append]
  omega

/-- No attempt but the last has committed anything. -/
theorem Retried.early_keeps (h : Retried id script run retries early last r v v') :
    ∀ t ∈ early.flatMap Attempt.steps, t.Keeps := by
  intro t ht
  obtain ⟨a, ha, hta⟩ := List.mem_flatMap.mp ht
  obtain ⟨n, hn⟩ := List.getElem?_of_mem (List.mem_append_left [last] ha)
  obtain ⟨e, he, -⟩ := (h.conflicts a ha).result
  exact (h.sound n a hn).keeps he t hta

theorem Retried.last_sound (h : Retried id script run retries early last r v v') :
    last.Sound id (script (run + early.length)) :=
  h.sound early.length last List.getElem?_concat_length

end Retries

/-- Work is done in a transaction of a connection that runs none, while others make any number of
steps before each of its calls, and it is done again after conflicts.

The work is done at most once more than there are retries. It comes to an answer only if it has come
to this answer in the last attempt, which was committed, and then what is committed has changed by
just the writes that were asked for in this attempt, and by no other step of the connection. It
comes to an error only if nothing was committed. The error is a conflict only if all attempts that
the policy allows were made, and each has ended in one; otherwise it is the error of the first
attempt that has ended in something else. Every attempt was counted as started, and once as
committed or aborted, and no transaction is left running. -/
theorem retry_commits_at_most_once {α : Type} {id : ConnectionId} {policy : RetryPolicy}
    {script : Nat → Script α} {start fin : Venue α} {r : Except TxnError α}
    (hreachable : ∃ earlier, Run .new earlier start.system ∧ ∀ t ∈ earlier, t.Calm)
    (hidle : (start.system.connection id).isActive = false) (hspares : start.Spares id)
    (hplain : ∀ n, (script n).Plain)
    (hd : (transactionWithRetry id policy (fun n => (script n).run id) start).done? =
      some (r, fin)) :
    ∃ early last, Retried id script 0 policy.maxRetries.toNat early last r start fin ∧
      fin.returned.length ≤ start.returned.length + (policy.maxRetries.toNat + 1) ∧
      (∀ a, r = .ok a → ∃ b asked c, last = .committed b asked a c ∧
        fin.returned.getLast? = some (.ok a) ∧
        c.after.store.contents =
          ⟨c.before.store.contents.statements.replay (Transition.log id asked),
            c.before.store.contents.namespaces.replay (Transition.bindings id asked)⟩ ∧
        ∀ t ∈ early.flatMap Attempt.steps ++ b :: asked, t.Keeps) ∧
      (∀ e, r = .error e → ∀ t ∈ (early ++ [last]).flatMap Attempt.steps, t.Keeps) ∧
      ∀ e, r = .error e → e.isConflict = true →
        (early ++ [last]).length = policy.maxRetries.toNat + 1 ∧
          ∀ a ∈ early ++ [last], a.Conflicts := by
  obtain ⟨earlier, hr, hcalm⟩ := hreachable
  have hsettled := settled_of_run hr hcalm
  have hstanding : Standing id (Transition.log id earlier) (Transition.bindings id earlier)
      start.system :=
    ⟨hsettled.coherent, hsettled.inStep, hsettled.logged id, binds_run hr id⟩
  obtain ⟨early, last, h⟩ := retrying_retried hplain hspares (hstanding.ended hidle) hidle hd
  have hlast := h.last_sound
  refine ⟨early, last, h, h.length_returned_le, fun a ha => ?_, fun e he => ?_,
    fun e he hconflict => ?_⟩
  · -- only a committed attempt comes to an answer
    have hresult := h.result.trans ha
    cases last with
    | unbegun | failed | uncommitted => cases hresult
    | committed b asked a' c =>
      obtain rfl := Except.ok.inj hresult
      obtain ⟨hbegun, -, -, hcontents⟩ := hlast
      refine ⟨b, asked, c, rfl, ?_, hcontents,
        List.forall_mem_append.mpr ⟨h.early_keeps, hbegun.forall_keeps⟩⟩
      rw [h.returned, List.flatMap_append, ← List.append_assoc]
      exact List.getLast?_concat
  · rw [List.flatMap_append]
    have hkeeps := hlast.keeps (h.result.trans he)
    exact List.forall_mem_append.mpr ⟨h.early_keeps, by simpa using hkeeps⟩
  · have hconflicts := hlast.conflicts (h.result.trans he) hconflict
    refine ⟨?_, List.forall_mem_append.mpr ⟨h.conflicts, List.forall_mem_singleton.mpr hconflicts⟩⟩
    rw [List.length_append, h.exhausted hconflicts]
    rfl

/-! ## Two connections that work on the same statements -/

/-- What requests make of a system, if none of them has to wait. -/
def afterRequests (sys : System Session) (reqs : List (ConnectionId × Request)) :
    System Session :=
  ((requests sys reqs).map Prod.snd).getD sys

theorem run_afterRequests (sys : System Session) (reqs : List (ConnectionId × Request)) :
    ∃ ts, Run sys ts (sys.afterRequests reqs) ∧
      ∀ t ∈ ts, t.Calm ∧ ∃ e ∈ reqs, t.occurrence = .request e.1 e.2 := by
  rw [afterRequests]
  rcases hplay : requests sys reqs with _ | ⟨ts, sys'⟩
  · exact ⟨[], .nil, fun _ ht => nomatch ht⟩
  · refine ⟨ts, (run_of_requests hplay).1, fun t ht => ?_⟩
    obtain ⟨e, he, hocc⟩ := exists_request_of_mem hplay ht
    refine ⟨?_, e, he, hocc⟩
    rw [Transition.Calm, hocc]
    exact calm_request t.before e.1 e.2

/-- All statements are counted, and one is added. -/
def countAndAdd : Script Nat :=
  .ask (.getStatements .any false) fun
    | .ok (.statements l) =>
      .ask (.addStatement ⟨.iri "s", .iri "p", .iri "o", none⟩) fun r =>
        .done (r.map fun _ => l.length)
    | .ok _ => .done (.ok 0)
    | .error e => .done (.error e)

theorem countAndAdd_plain : countAndAdd.Plain := by
  refine ⟨rfl, fun r => ?_⟩
  dsimp only
  split
  · exact ⟨rfl, fun _ => trivial⟩
  · trivial
  · trivial

/-- The connection `a` is serializable. Before its third call, the connection `b` commits a
statement. -/
def rivalVenue : Venue Nat where
  system := System.new.afterRequests [("a", .setIsolation .serializable)]
  others n sys :=
    if n = 2 then sys.afterRequests [("b", .begin),
      ("b", .addStatement ⟨.iri "s", .iri "p", .iri "other", none⟩), ("b", .commit)]
    else sys
  time := 0
  returned := []

theorem rivalVenue_spares : rivalVenue.Spares "a" := by
  intro n sys
  by_cases hn : n = 2
  · subst hn
    obtain ⟨ts, hr, hts⟩ := run_afterRequests sys [("b", .begin),
      ("b", .addStatement ⟨.iri "s", .iri "p", .iri "other", none⟩), ("b", .commit)]
    refine ⟨ts, hr, fun t ht => ?_⟩
    obtain ⟨hcalm, e, he, hocc⟩ := hts t ht
    refine ⟨hcalm, ?_⟩
    rw [hocc]
    have hname : ∀ e ∈ [("b", Request.begin),
        ("b", .addStatement ⟨.iri "s", .iri "p", .iri "other", none⟩), ("b", .commit)],
        e.1 ≠ "a" := by simp
    exact hname e he
  · have hsame : rivalVenue.others n sys = sys := if_neg hn
    rw [hsame]
    exact ⟨[], .nil, fun _ ht => nomatch ht⟩

/-- The first attempt has found no statement and ends in a conflict, the second one has found the
statement of the other connection and is committed. -/
theorem rivalVenue_second_attempt_commits : ∃ fin early last,
    Retried "a" (fun _ => countAndAdd) 0 RetryPolicy.standard.maxRetries.toNat early last (.ok 1)
      rivalVenue fin ∧
    fin.returned = [.ok 0, .ok 1] ∧ fin.system.store.contents.statements.toList.length = 2 ∧
    ∃ b asked c, last = .committed b asked 1 c := by
  have hcheck : ((transactionWithRetry "a" RetryPolicy.standard
      (fun _ => countAndAdd.run "a") rivalVenue).done?.any fun d =>
        decide (d.1 = .ok 1 ∧ d.2.returned = [.ok 0, .ok 1] ∧
          d.2.system.store.contents.statements.toList.length = 2)) = true := by
    decide +kernel
  obtain ⟨⟨r, fin⟩, hd, hend⟩ := (Option.any_eq_true _ _).mp hcheck
  obtain ⟨rfl, hreturned, hlength⟩ := of_decide_eq_true hend
  have hreachable : ∃ earlier, Run .new earlier rivalVenue.system ∧ ∀ t ∈ earlier, t.Calm := by
    obtain ⟨ts, hr, hts⟩ := run_afterRequests .new [("a", .setIsolation .serializable)]
    exact ⟨ts, hr, fun t ht => (hts t ht).1⟩
  obtain ⟨early, last, hretried, -, hok, -⟩ := retry_commits_at_most_once hreachable
    (by decide +kernel) rivalVenue_spares (fun _ => countAndAdd_plain) hd
  obtain ⟨b, asked, c, hlast, -⟩ := hok 1 rfl
  exact ⟨fin, early, last, hretried, hreturned, hlength, b, asked, c, hlast⟩

end QuadTxn.System
