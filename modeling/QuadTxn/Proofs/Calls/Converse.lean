import QuadTxn.Proofs.Calls.Preservation

/-!
# The listed ends are come to

What a call is said to come to, it comes to: from a coherent frame every listed move is made by its
request (`Frame.Moves.made`), and every listed end of a commit is come to (`Frame.Commits.made`).
-/

namespace QuadTxn

namespace Outcome

variable {s α : Type} {o : Outcome s α} {st : s}

theorem eq_ok_of_done {a : α} (h : o.done? = some (.ok a, st)) : o = .ok a st := by
  cases o with
  | ok a st => cases h; rfl
  | error => cases h
  | waits => cases h

theorem eq_error_of_done {e : TxnError} (h : o.done? = some (.error e, st)) : o = .error e st := by
  cases o with
  | ok => cases h
  | error e st => cases h; rfl
  | waits => cases h

end Outcome

namespace Frame

variable {st : Frame Session} (h : st.Coherent)

include h

theorem Prepares.made {r : Except TxnError Unit} {st' : Frame Session} (hp : Prepares st r st') :
    (Connection.prepare st).done? = some (r, st') := by
  cases hp with
  | skip hw => rw [prepare_skip hw]; rfl
  | timeout hstaging hf ht => rw [prepare_timeout h hstaging hf ht]; rfl
  | conflict hw ha hv =>
    rw [prepare_eq h hw ha, hv]
    rfl
  | failed hw ha hv hfail =>
    rw [prepare_eq h hw ha, hv, hfail]
    rfl
  | done hw ha hv hfail =>
    rw [prepare_eq h hw ha, hv, hfail]
    rfl

/-- Every listed move is made. -/
theorem Moves.made {req : Request} {r : Except TxnError Answer} {st' : Frame Session}
    (hm : Moves st req r st') : (req.call st).done? = some (r, st') := by
  cases hm with
  | refused hr => rw [call_refused hr]; rfl
  | statements hon hr hread => rw [statements_eq h hon hr hread]; rfl
  | binding hb hr => rw [binding_eq h hb hr]; rfl
  | bindings => rw [Request.call, Action.map_apply, getNamespaces_eq]; rfl
  | lookup => rw [Request.call, Action.map_apply, namespaceOf_eq]; rfl
  | beginStaged hidle hr => rw [Request.call, Action.bind_apply, begin_staged hidle hr]; rfl
  | beginDirect hidle hr hf => rw [Request.call, Action.bind_apply, begin_direct h hidle hr hf]; rfl
  | beginTimeout hidle hr hf ht =>
    rw [Request.call, Action.bind_apply, begin_timeout hidle hr hf ht]
    rfl
  | @prepare r st' hp =>
    rw [Request.call, Action.bind_apply]
    rcases r with e | ⟨⟩
    · rw [Outcome.eq_error_of_done (hp.made h)]
      rfl
    · rw [Outcome.eq_ok_of_done (hp.made h)]
      rfl
  | rollback => rw [Request.call, Action.bind_apply, rollback_eq]; rfl
  | flags hi hr hs => rw [flags_eq hi hr hs]; rfl
  | switch hs hp hf => rw [call_switch hs, switch_eq h hp hf]; rfl
  | switchTimeout hs hp hf ht => rw [call_switch hs, switch_timeout hp hf ht]; rfl
  | listen => rfl
  | unlisten => rfl

/-- Every listed end of a commit is come to. -/
theorem Commits.made {r : Except TxnError (Option ChangeSet)} {st' : Frame Session}
    (hc : Commits st r st') : (Connection.commit st).done? = some (r, st') := by
  have hprepared : ∀ {mid : Frame Session}, st.self.isActive = true → Prepares st (.ok ()) mid →
      Connection.commit st = if mid.store.failCommit then
        .error (.storage (.injected "commit")) mid.abandoned.commitFailed
      else .ok (some mid.published) mid.committed := by
    intro mid hact hp
    obtain ⟨t, ht, -⟩ := prepared_txn h hp hact
    rw [commit_eq_bind hact, Outcome.eq_ok_of_done (hp.made h)]
    exact native_commit_eq ht
  cases hc with
  | skip hact => simp [Connection.commit, hact]
  | refused hact hp =>
    rw [commit_eq_bind hact, Outcome.eq_error_of_done (hp.made h)]
    rfl
  | failed hact hp hf =>
    rw [hprepared hact hp, if_pos hf]
    rfl
  | done hact hp hf =>
    rw [hprepared hact hp, if_neg (by simp [hf])]
    rfl

end Frame

end QuadTxn
