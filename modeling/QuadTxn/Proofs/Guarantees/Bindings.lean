import QuadTxn.Proofs.Calls.Bindings
import QuadTxn.Proofs.Runs.Passing

/-!
# Namespace bindings follow a plain replay

What the running transaction of a connection has written to the namespace bindings is read off the
run (`Transition.bindings`). In every state the connection finds the committed bindings with this
list of writes replayed, its commit makes them the committed ones, and nothing else changes those
(`System.namespaces_replay_bindings`). Statements may be put into the store directly at any time.
-/

namespace QuadTxn

namespace Transition

/-- What a step makes of the namespace bindings that a connection's transaction has written. -/
def rebind (id : ConnectionId) (ws : List Write) (t : Transition) : List Write :=
  if (t.after.connection id).isActive then
    match t.occurrence with
    | .request j req => if j = id then ws ++ req.bound t.result else ws
    | _ => ws
  else []

/-- The writes of namespace bindings that were answered in the transaction that a connection runs at
the end of a run, in order; none if no transaction runs. -/
def bindings (id : ConnectionId) (ts : List Transition) : List Write := ts.foldl (rebind id) []

theorem bindings_snoc (id : ConnectionId) (ts : List Transition) (t : Transition) :
    bindings id (ts ++ [t]) = rebind id (bindings id ts) t := by
  simp [bindings]

section Rebind

variable {id : ConnectionId} {ws : List Write} {sys sys' : System Session} {o : Occurrence}
  {r : Except TxnError Answer}

theorem rebind_inactive (hact : (sys'.connection id).isActive = false) :
    rebind id ws ⟨sys, o, r, sys'⟩ = [] := by
  rw [rebind, if_neg]
  simpa using hact

theorem rebind_own {req : Request} (hact : (sys'.connection id).isActive = true) :
    rebind id ws ⟨sys, .request id req, r, sys'⟩ = ws ++ req.bound r := by
  rw [rebind, if_pos hact]
  exact if_pos rfl

theorem rebind_other (hact : (sys'.connection id).isActive = true)
    (hown : ∀ req, o ≠ .request id req) : rebind id ws ⟨sys, o, r, sys'⟩ = ws := by
  rw [rebind, if_pos hact]
  cases o with
  | request j req =>
    have hj : j ≠ id := fun heq => hown req (by rw [heq])
    exact if_neg hj
  | _ => rfl

end Rebind

end Transition

namespace System

section Step

variable {sys sys' : System Session} (h : sys.Coherent) {o : Occurrence}
  {r : Except TxnError Answer} {id : ConnectionId}

include h

/-- Nobody else changes the committed bindings while a connection runs a native transaction. -/
theorem Passes.namespaces (he : Effect sys o r sys') (hpass : Passes sys id o sys')
    (hengaged : (sys.connection id).Engaged) :
    sys'.store.contents.namespaces = sys.store.contents.namespaces := by
  cases hpass with
  | quiet _ hcontents => rw [hcontents]
  | insert ho =>
    subst ho
    cases he with
    | insert => rfl
  | commit hj hc => exact absurd hengaged (not_engaged_of_commits h hc (Ne.symm hj))

/-- A step makes of the bindings written by the transaction of each connection those that are then
written. -/
theorem binds_step (he : Effect sys o r sys') {ws : List Write} (hb : (sys.frame id).Binds ws) :
    (sys'.frame id).Binds (Transition.rebind id ws ⟨sys, o, r, sys'⟩) := by
  rcases hact : (sys'.connection id).isActive with _ | _
  · rw [Transition.rebind_inactive hact]
    exact (Frame.binds_idle (Connection.phase_of_inactive hact)).mpr rfl
  · rcases active_step h he hact with ⟨req, rfl, hm⟩ | ⟨hown, hpass⟩
    · rw [Transition.rebind_own hact]
      exact hm.binds (h.frame id) hact hb
    · rw [Transition.rebind_other hact hown]
      obtain ⟨ledger, hself⟩ := hpass.self
      have hself' : (sys'.frame id).self = { (sys.frame id).self with ledger := ledger } := hself
      by_cases hengaged : (sys.connection id).Engaged
      · exact hb.congr (by rw [hself']) (by rw [hself']) (by rw [hself'])
          (hpass.namespaces h he hengaged)
      · -- what is staged stands for the same writes over every committed table
        rw [Frame.Binds] at hb ⊢
        rw [hself']
        rcases hp : (sys.frame id).self.phase with _ | _ | _ | _
        · simpa only [hp] using hb
        · simpa only [hp] using hb
        · exact absurd (.inl hp) hengaged
        · exact absurd (.inr hp) hengaged

omit h in
theorem binds_run {ts : List Transition} (hr : Run .new ts sys) (id : ConnectionId) :
    (sys.frame id).Binds (Transition.bindings id ts) := by
  induction hr with
  | nil => rfl
  | snoc hr hs ih =>
    have hmid := Coherent.new.run hr
    rw [Transition.bindings_snoc]
    exact binds_step hmid (effect_of_step hmid hs) ih

/-- Only a commit changes the committed bindings. -/
theorem namespaces_of_other (hs : Step sys o r sys')
    (hcommit : ∀ j a, o = .request j .commit → r ≠ .ok a) :
    sys'.store.contents.namespaces = sys.store.contents.namespaces := by
  cases effect_of_step h hs with
  | move _ hm => exact congrArg Contents.namespaces hm.contents
  | commitFails hc => exact congrArg Contents.namespaces hc.error_contents
  | commit => exact absurd rfl (hcommit _ _ rfl)
  | disconnect hm => exact congrArg Contents.namespaces hm.contents
  | _ => rfl

theorem namespaces_of_commit {ws : List Write} (hb : (sys.frame id).Binds ws) {a : Answer}
    (hs : Step sys (.request id .commit) (.ok a) sys') :
    sys'.store.contents.namespaces = sys.store.contents.namespaces.replay ws := by
  cases effect_of_step h hs with
  | move hreq => exact absurd rfl hreq
  | commitSkips hinactive =>
    obtain rfl := (Frame.binds_idle (Connection.phase_of_inactive hinactive)).mp hb
    rfl
  | commit _ hc => exact hc.namespaces_eq hb

end Step

/-- In every state that a run leads to, what a connection finds bound is the committed bindings with
the writes of its running transaction replayed. It can always list the bindings, ordered by label,
and look every label up; its commit makes the bindings that it finds the committed ones; and no
step but a commit changes the committed bindings. -/
theorem namespaces_replay_bindings {ts : List Transition} {sys : System Session}
    (hr : Run .new ts sys) (id : ConnectionId) :
    let table := sys.store.contents.namespaces.replay (Transition.bindings id ts)
    (∃ l, table.Lists l ∧ ∀ r sys', Step sys (.request id .getNamespaces) r sys' ↔
      r = .ok (.namespaces l) ∧ sys' = sys.setFrame id (sys.frame id)) ∧
    (∀ label r sys', Step sys (.request id (.namespaceOf label)) r sys' ↔
      r = .ok (.namespaceName (table.get? label)) ∧ sys' = sys.setFrame id (sys.frame id)) ∧
    (∀ a sys', Step sys (.request id .commit) (.ok a) sys' →
      sys'.store.contents.namespaces = table) ∧
    ∀ o r sys', Step sys o r sys' → (∀ j a, o = .request j .commit → r ≠ .ok a) →
      sys'.store.contents.namespaces = sys.store.contents.namespaces := by
  intro table
  have h : sys.Coherent := Coherent.new.run hr
  have hbinds := binds_run hr id
  have htable : (sys.frame id).table = table := hbinds.table_eq (h.frame id)
  refine ⟨⟨table.bindings, table.lists_bindings, fun r sys' => ?_⟩, fun label r sys' => ?_,
    fun a sys' hs => namespaces_of_commit h hbinds hs, fun o r sys' hs => namespaces_of_other h hs⟩
  · refine step_iff_of_done (by simp) ?_
    rw [← htable, Frame.table, ← NamespaceOverlay.view_eq, Request.call, Action.map_apply,
      Frame.getNamespaces_eq]
    rfl
  · refine step_iff_of_done (by simp) ?_
    rw [← htable, Frame.table, ← NamespaceOverlay.lookup_eq, Request.call, Action.map_apply,
      Frame.namespaceOf_eq]
    rfl

/-- One connection has committed two bindings. Another one unbinds a label, clears all, binds the
label anew and is prepared: what it has written is kept in order, and makes the label stand for the
new name and the other one for nothing. -/
theorem rebound_label_is_found : ∃ ts sys,
    requests .new [("a", .begin), ("a", .bindLabel "ex" "first"), ("a", .bindLabel "old" "o"),
      ("a", .commit), ("b", .begin), ("b", .unbindLabel "ex"), ("b", .unbindAll),
      ("b", .bindLabel "ex" "second"), ("b", .prepare)] = some (ts, sys) ∧
    Transition.bindings "b" ts = [.unbind "ex", .unbindAll, .bind "ex" "second"] ∧
    sys.store.contents.namespaces.bindings = [⟨"ex", "first"⟩, ⟨"old", "o"⟩] ∧
    (∀ r sys', Step sys (.request "b" (.namespaceOf "ex")) r sys' →
      r = .ok (.namespaceName (some "second"))) ∧
    ∀ r sys', Step sys (.request "b" (.namespaceOf "old")) r sys' →
      r = .ok (.namespaceName none) := by
  obtain ⟨ts, sys, hplay, hcheck⟩ := requests_of_check
    (fun ts sys => decide (
      Transition.bindings "b" ts = [.unbind "ex", .unbindAll, .bind "ex" "second"] ∧
      sys.store.contents.namespaces.bindings = [⟨"ex", "first"⟩, ⟨"old", "o"⟩] ∧
      (sys.store.contents.namespaces.replay (Transition.bindings "b" ts)).get? "ex" =
        some "second" ∧
      (sys.store.contents.namespaces.replay (Transition.bindings "b" ts)).get? "old" = none))
    (by decide +kernel : (requests .new [("a", .begin), ("a", .bindLabel "ex" "first"),
      ("a", .bindLabel "old" "o"), ("a", .commit), ("b", .begin), ("b", .unbindLabel "ex"),
      ("b", .unbindAll), ("b", .bindLabel "ex" "second"), ("b", .prepare)]).any _ = true)
  obtain ⟨hbindings, hcommitted, hex, hold⟩ := of_decide_eq_true hcheck
  obtain ⟨-, hlookup, -, -⟩ := namespaces_replay_bindings (run_of_requests hplay).1 "b"
  refine ⟨ts, sys, hplay, hbindings, hcommitted, fun r sys' hs => ?_, fun r sys' hs => ?_⟩
  · rw [((hlookup "ex" r sys').mp hs).1, hex]
  · rw [((hlookup "old" r sys').mp hs).1, hold]

end System

end QuadTxn
