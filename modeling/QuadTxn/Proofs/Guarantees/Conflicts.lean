import QuadTxn.Proofs.Calls.Verdicts
import QuadTxn.Proofs.Runs.Histories

/-!
# Aborts by conflict

When a transaction is prepared or committed and can have the gate, it fails with a conflict or with
a phantom exactly if the run gives cause for it (`System.aborted_iff_overlapped`). What gives cause
is the order of its own reads and of the commits of others since it began, whatever the ledger has
left out of it.
-/

namespace QuadTxn

namespace System

/-! ## Preparing with the gate -/

section Granted

variable {sys : System Session} (h : sys.Coherent) {id : ConnectionId}
  (hw : (sys.frame id).unwritable? = none) (ha : (sys.frame id).Available)

include h hw ha

theorem prepare_step : ∃ r sys', Step sys (.request id .prepare) r sys' := by
  obtain ⟨r, st, hd⟩ := Frame.prepare_done hw ha (h.frame id)
  have hreq : Request.prepare ≠ .commit := nofun
  rcases hprepare : Connection.prepare (sys.frame id) with ⟨a, st'⟩ | ⟨e, st'⟩ | _
  · refine ⟨.ok .none, sys.setFrame id st', trivial, ?_⟩
    rw [Occurrence.act, handle_eq hreq, done?_on, Request.call, Action.bind_apply, hprepare]
    rfl
  · refine ⟨.error e, sys.setFrame id st', trivial, ?_⟩
    rw [Occurrence.act, handle_eq hreq, done?_on, Request.call, Action.bind_apply, hprepare]
    rfl
  · rw [hprepare] at hd
    cases hd

theorem commit_step : ∃ r sys', Step sys (.request id .commit) r sys' := by
  obtain ⟨r, st, hd⟩ := Frame.commit_done hw ha (h.frame id)
  have hon := done?_on id Connection.commit sys
  rw [hd] at hon
  rcases hcommit : on id Connection.commit sys with ⟨change?, mid⟩ | ⟨e, mid⟩ | _
  · have hact : (Occurrence.request id .commit).act sys =
        (match change? with
          | some change => System.publish change mid
          | none => .ok ⟨⟩ mid).bind fun _ => pure .none := by
      rw [Occurrence.act, handle, Action.bind_apply, System.commit, Action.bind_apply, hcommit]
      cases change? <;> rfl
    rcases change? with _ | change
    · exact ⟨_, _, trivial, by rw [hact]; rfl⟩
    · exact ⟨_, _, trivial, by rw [hact]; rfl⟩
  · refine ⟨.error e, mid, trivial, ?_⟩
    rw [Occurrence.act, handle, Action.bind_apply, System.commit, Action.bind_apply, hcommit]
    rfl
  · rw [hcommit] at hon
    cases hon

/-- A transaction that can have the gate is prepared or committed without waiting, and fails with a
conflict if that is the verdict on its ledger. -/
theorem judged {req : Request} (hreq : req = .prepare ∨ req = .commit) :
    ∃ r sys', Step sys (.request id req) r sys' ∧
      ∀ e, e.isConflict = true → (r = .error e ↔ (sys.frame id).verdict? = some e) := by
  rcases hreq with rfl | rfl
  · obtain ⟨r, sys', hs⟩ := prepare_step h hw ha
    refine ⟨r, sys', hs, fun e he => ?_⟩
    cases effect_of_step h hs with
    | move _ hm =>
      obtain ⟨r₀, hp, rfl⟩ := hm.of_prepare
      rw [← hp.conflict_iff hw ha he]
      cases r₀ with
      | ok => exact iff_of_false (fun heq => nomatch heq) (fun heq => nomatch heq)
      | error => rw [Except.map, Except.error.injEq, Except.error.injEq]
  · obtain ⟨r, sys', hs⟩ := commit_step h hw ha
    refine ⟨r, sys', hs, fun e he => ?_⟩
    have hjudge : ∀ {r st}, (sys.frame id).Commits r st →
        (r = .error e ↔ (sys.frame id).verdict? = some e) :=
      fun hc => hc.conflict_iff hw ha he
    cases effect_of_step h hs with
    | move hne => exact absurd rfl hne
    | commitFails hc => rw [← hjudge hc, Except.error.injEq, Except.error.injEq]
    | commitSkips hact =>
      have hact' : (sys.connection id).isActive = true := Frame.isActive_of_writable hw
      rw [hact] at hact'
      cases hact'
    | commit _ hc => exact (iff_of_false nofun nofun).trans (hjudge hc)

end Granted

/-! ## The guarantee -/

/-- A transaction whose tracking flags stay as they were at its beginning is prepared or committed
with the gate granted to it. If it is serializable, it fails with a conflict exactly if another
connection has published, since it began, a change that overlaps an earlier read of it. If it only
tracks its reads, it fails with a phantom exactly if another connection has published a change that
overlaps both an earlier and a later read of it. If it does not track its reads, it fails with
neither. Steps from before its beginning do not count. -/
theorem aborted_iff_overlapped {before start last : System Session} (hreach : Reachable before)
    {id : ConnectionId} {a : Answer} (hbegin : Step before (.request id .begin) (.ok a) start)
    {ts : List Transition} (hr : Run start ts last)
    (hact : ∀ t ∈ ts, (t.after.connection id).isActive = true)
    (hsnapshot : ∀ t ∈ ts, (t.after.connection id).isolation.snapshot =
      (start.connection id).isolation.snapshot)
    (hserializable : ∀ t ∈ ts, (t.after.connection id).isolation.serializable =
      (start.connection id).isolation.serializable)
    (hunprepared : (last.connection id).phase ≠ .prepared)
    (hgranted : last.coordinator.gate.admits .exclusive = true ∨
      last.coordinator.gate.writer = some id)
    {req : Request} (hreq : req = .prepare ∨ req = .commit) :
    let flags := (start.connection id).isolation
    ∃ r after, Step last (.request id req) r after ∧
      ((∃ c, r = .error (.conflict c)) ↔ flags.serializable = true ∧
        ∃ read change j t₁ t₂, change.Overlaps read ∧ j ≠ id ∧ [t₁, t₂].Sublist ts ∧
          t₁.Reads id read ∧ t₂.Publishes j change) ∧
      ((∃ observed cause, r = .error (.phantom observed cause)) ↔
        flags.snapshot = true ∧ flags.serializable = false ∧
          ∃ read change read' j t₁ t₂ t₃, change.Overlaps read ∧ change.Overlaps read' ∧ j ≠ id ∧
            [t₁, t₂, t₃].Sublist ts ∧ t₁.Reads id read ∧ t₂.Publishes j change ∧
            t₃.Reads id read') ∧
      (flags.snapshot = false → ∀ e, r = .error e → e.isConflict = false) := by
  intro flags
  have h := hreach.coherent
  obtain ⟨-, hstart, -, hledger, -⟩ := begun_of_step h hbegin
  have hfirst := h.step hbegin
  have hlast := hfirst.run hr
  have hrunning : (last.connection id).isActive = true := (hr.forall_before
    (P := fun sys => (sys.connection id).isActive = true) hstart hact).2
  have hsnap : (last.connection id).isolation.snapshot = flags.snapshot := (hr.forall_before
    (P := fun sys => (sys.connection id).isolation.snapshot = flags.snapshot) rfl hsnapshot).2
  have hser : (last.connection id).isolation.serializable = flags.serializable :=
    (hr.forall_before (P := fun sys => (sys.connection id).isolation.serializable =
      flags.serializable) rfl hserializable).2
  have himplied : flags.serializable = true → flags.snapshot = true :=
    (hfirst.frame id).sound.snapshot
  have htracks : flags.snapshot = true → Tracks id start ts last := fun hflag =>
    { run := hr
      coherent := hfirst
      ledger_start := hledger
      active_start := hstart
      snapshot_start := hflag
      active := hact
      snapshot := fun t ht => (hsnapshot t ht).trans hflag }
  have hw : (last.frame id).unwritable? = none :=
    Classical.not_not.mp fun hw => hunprepared (Frame.prepared_of_unwritable hrunning hw)
  have ha : (last.frame id).Available := by
    rcases hgranted with hfree | hwriter
    · exact .inr hfree
    · exact .inl (((writer_iff hlast id).mp hwriter).resolve_right hunprepared)
  obtain ⟨r, after, hs, hjudge⟩ := judged hlast hw ha hreq
  have hconflict : (∃ c, r = .error (.conflict c)) ↔
      flags.serializable = true ∧ (last.connection id).ledger.changes ≠ [] := by
    rw [← hser]
    exact (exists_congr fun c => hjudge _ rfl).trans Frame.verdict?_eq_conflict_iff
  have hphantom : (∃ observed cause, r = .error (.phantom observed cause)) ↔
      flags.snapshot = true ∧ flags.serializable = false ∧
        ((last.connection id).ledger.phantom? Read.affectedBy).isSome := by
    rw [← hser, ← hsnap]
    exact (exists_congr fun observed => exists_congr fun cause => hjudge _ rfl).trans
      Frame.verdict?_eq_phantom_iff
  refine ⟨r, after, hs, ?_, ?_, fun hflag e he => ?_⟩
  · rw [hconflict]
    exact and_congr_right fun hflag => (htracks (himplied hflag)).changes_iff
  · rw [hphantom]
    exact and_congr_right fun hflag => and_congr_right fun _ => (htracks hflag).phantom_iff
  · cases e with
    | conflict c =>
      have hserial := (hconflict.mp ⟨c, he⟩).1
      rw [himplied hserial] at hflag
      cases hflag
    | phantom observed cause =>
      rw [(hphantom.mp ⟨observed, cause, he⟩).1] at hflag
      cases hflag
    | _ => rfl

/-- A connection that tracks its reads looks for all statements, another one commits a statement,
and the first one looks again. When it is prepared, it fails with a phantom, and the run gives cause
for it. -/
theorem rereader_is_aborted : ∃ answer start ts last observed cause after,
    Step .new (.request "a" .begin) (.ok answer) start ∧
    requests start [("a", .getStatements ⟨none, none, none, []⟩ false), ("b", .begin),
      ("b", .addStatement ⟨.iri "s", .iri "p", .iri "o", none⟩), ("b", .commit),
      ("a", .getStatements ⟨none, none, none, []⟩ false)] = some (ts, last) ∧
    Step last (.request "a" .prepare) (.error (.phantom observed cause)) after ∧
    ∃ read change read' j t₁ t₂ t₃, change.Overlaps read ∧ change.Overlaps read' ∧ j ≠ "a" ∧
      [t₁, t₂, t₃].Sublist ts ∧ t₁.Reads "a" read ∧ t₂.Publishes j change ∧
      t₃.Reads "a" read' := by
  obtain ⟨r, start, ts, last, r', after, hbegin, hplay, hprepare, hcheck⟩ :=
    requests_of_check_ends
      (fun first ts last => first.result.isOk &&
        (ts.all fun t => (t.after.connection "a").isActive &&
          (t.after.connection "a").isolation = ⟨true, true, false⟩) &&
        (first.after.connection "a").isolation = ⟨true, true, false⟩ &&
        (last.before.connection "a").phase = .staging &&
        last.before.coordinator.gate.admits .exclusive &&
        match last.result with
        | .error (.phantom ..) => true
        | _ => false)
      (by decide +kernel : ((requests .new ([("a", .begin)] ++
        ([("a", .getStatements ⟨none, none, none, []⟩ false), ("b", .begin),
          ("b", .addStatement ⟨.iri "s", .iri "p", .iri "o", none⟩), ("b", .commit),
          ("a", .getStatements ⟨none, none, none, []⟩ false)] ++ [("a", .prepare)]))).any _) = true)
  simp only [Bool.and_eq_true, List.all_eq_true, decide_eq_true_eq] at hcheck
  obtain ⟨⟨⟨⟨⟨hok, hlife⟩, hflags⟩, hstaging⟩, hfree⟩, hphantom⟩ := hcheck
  obtain ⟨answer, rfl⟩ := answered_of_isOk hok
  obtain ⟨_, _, hs, -, hiff, -⟩ := aborted_iff_overlapped ⟨[], .nil⟩ hbegin
    (run_of_requests hplay).1 (fun t ht => (hlife t ht).1)
    (fun t ht => by rw [(hlife t ht).2, hflags]) (fun t ht => by rw [(hlife t ht).2, hflags])
    (fun hp => by simp [hstaging] at hp) (.inl hfree) (.inl rfl)
  obtain ⟨rfl, -⟩ := Prod.mk.inj (Option.some.inj (hs.2.symm.trans hprepare.2))
  split at hphantom
  · rename_i observed cause
    exact ⟨answer, start, ts, last, observed, cause, after, hbegin, hplay, hprepare,
      (hiff.mp ⟨observed, cause, rfl⟩).2.2⟩
  · cases hphantom

end System

end QuadTxn
