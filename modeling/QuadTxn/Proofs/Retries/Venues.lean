import QuadTxn.Proofs.Retries.Attempts
import QuadTxn.Txn.Transaction

/-!
# Attempts in a venue

A venue is a system that others use as well (`Venue`). Before each call that is made on it they make
any number of their own; a call that would have to wait for them is made when they have given the
gate back. It also keeps account of what the work has come to each time that it was run.

A transaction that is run in a venue is an attempt, which is in order
(`System.transaction_attempted`).
-/

namespace QuadTxn

/-- A system that others use as well. -/
structure Venue (α : Type) where
  /-- the system -/
  system : System Session
  /-- what others make of the system before the call with the given number -/
  others : Nat → System Session → System Session
  /-- the number of the next call -/
  time : Nat
  /-- what the work has come to, each time that it was run -/
  returned : List (Except TxnError α)

namespace Venue

variable {α : Type}

/-- The system that a call finds. -/
def now (v : Venue α) : System Session := v.others v.time v.system

instance : HasSystem (Venue α) Session where
  system := now
  withSystem sys v := { v with system := sys, time := v.time + 1 }

/-- The others make steps of their own, whatever they find, and leave a connection alone. -/
def Spares (id : ConnectionId) (v : Venue α) : Prop :=
  ∀ n sys, ∃ ts, System.Run sys ts (v.others n sys) ∧ ∀ t ∈ ts, t.Calm ∧ t.occurrence.Spares id

/-- The connection has made the given steps; all other steps were made by others. -/
structure Leads (id : ConnectionId) (v : Venue α) (own : List Transition) (v' : Venue α) :
    Prop where
  /-- the others are the same -/
  others : v'.others = v.others
  /-- the steps -/
  run : ∃ ts, System.Run v.system ts v'.system ∧ ts.filter (Transition.isOf id) = own

section Leads

variable {id : ConnectionId} {v v₁ v₂ v₃ : Venue α}

theorem Leads.trans {own own' : List Transition} (h₁₂ : Leads id v₁ own v₂)
    (h₂₃ : Leads id v₂ own' v₃) : Leads id v₁ (own ++ own') v₃ := by
  obtain ⟨ts, hr, hts⟩ := h₁₂.run
  obtain ⟨ts', hr', hts'⟩ := h₂₃.run
  refine ⟨h₂₃.others.trans h₁₂.others, ts ++ ts', hr.append hr', ?_⟩
  rw [List.filter_append, hts, hts']

theorem Leads.spares {own : List Transition} (h : Leads id v₁ own v₂) (hspares : v₁.Spares id) :
    v₂.Spares id := by
  rw [Spares, h.others]
  exact hspares

end Leads

end Venue

/-- Do the work in a venue, and take down what it comes to. -/
def Script.run {α : Type} (id : ConnectionId) : Script α → Action (Venue α) α
  | .done r => do
    modify fun v => { v with returned := v.returned ++ [r] }
    Action.ofExcept r
  | .ask req next => do
    let r ← (System.inside (System.handle id req) : Action (Venue α) Answer).attempt
    (next r).run id

/-! ## What a call has come to -/

namespace Outcome

variable {s α β : Type} {st' : s}

/-- Two calls, one after the other: the second is made if the first answers. -/
theorem done?_bind_cases {o : Outcome s α} {f : α → Action s β} {r : Except TxnError β}
    (hd : (o.bind f).done? = some (r, st')) :
    (∃ a mid, o.done? = some (.ok a, mid) ∧ (f a mid).done? = some (r, st')) ∨
      ∃ e, o.done? = some (.error e, st') ∧ r = .error e := by
  cases o with
  | ok a mid => exact .inl ⟨a, mid, rfl, hd⟩
  | error e mid =>
    obtain ⟨rfl, rfl⟩ := Prod.mk.inj (Option.some.inj hd)
    exact .inr ⟨e, rfl, rfl⟩
  | waits => cases hd

/-- Two calls, where the second is made whatever becomes of the first. -/
theorem done?_attempt_bind {o : Outcome s α} {f : Except TxnError α → Action s β}
    {d : Except TxnError β × s} (hd : (o.attempt.bind f).done? = some d) :
    ∃ r mid, o.done? = some (r, mid) ∧ (f r mid).done? = some d := by
  cases o with
  | ok a mid => exact ⟨.ok a, mid, rfl, hd⟩
  | error e mid => exact ⟨.error e, mid, rfl, hd⟩
  | waits => cases hd

/-- A call that answers nothing, made as a request. -/
theorem done?_unanswered {o : Outcome s Unit} {r : Except TxnError Unit}
    (hd : o.done? = some (r, st')) :
    (o.bind fun _ => pure Answer.none).done? = some (r.map fun _ => .none, st') := by
  cases o with
  | ok a mid =>
    obtain ⟨rfl, rfl⟩ := Prod.mk.inj (Option.some.inj hd)
    rfl
  | error e mid =>
    obtain ⟨rfl, rfl⟩ := Prod.mk.inj (Option.some.inj hd)
    rfl
  | waits => cases hd

end Outcome

namespace System

/-! ## Calls in a venue -/

section Calls

variable {α β : Type} {id : ConnectionId} {log ws : List Write} {v v' : Venue α}

theorem done?_inside {m : Action (System Session) β} {r : Except TxnError β}
    (hd : (inside m v).done? = some (r, v')) :
    ∃ sys', (m v.now).done? = some (r, sys') ∧
      v' = { v with system := sys', time := v.time + 1 } := by
  have hzoom : (inside m v).done? = (m v.now).done?.map fun d =>
      (d.1, { v with system := d.2, time := v.time + 1 }) := done?_zoom _ _ v _
  rw [hzoom, Option.map_eq_some_iff] at hd
  obtain ⟨⟨r', sys'⟩, hd', heq⟩ := hd
  obtain ⟨rfl, rfl⟩ := Prod.mk.inj heq
  exact ⟨sys', hd', rfl⟩

/-- What the others do before a call. -/
theorem Standing.now (h : Standing id log ws v.system) (hspares : v.Spares id) :
    Standing id log ws v.now ∧
      (v.now.connection id).isActive = (v.system.connection id).isActive := by
  obtain ⟨ts, hr, hts⟩ := hspares v.time v.system
  exact h.others hr hts

/-- A request in a venue is one step of the connection. -/
theorem leads_of_step (hspares : v.Spares id) {req : Request} {r : Except TxnError Answer}
    {sys' : System Session} (hs : Step v.now (.request id req) r sys') :
    v.Leads id [⟨v.now, .request id req, r, sys'⟩]
      { v with system := sys', time := v.time + 1 } := by
  obtain ⟨ts, hr, hts⟩ := hspares v.time v.system
  refine ⟨rfl, ts ++ [⟨v.now, .request id req, r, sys'⟩], hr.snoc hs, ?_⟩
  have hothers : ts.filter (Transition.isOf id) = [] := by
    rw [List.filter_eq_nil_iff]
    intro t ht
    simp [Transition.isOf_of_spares (hts t ht).2]
  have hown : Transition.isOf id ⟨v.now, .request id req, r, sys'⟩ = true := decide_eq_true rfl
  rw [List.filter_append, hothers, List.nil_append, List.filter_singleton, hown]
  rfl

end Calls

/-- Work that is done in a running transaction is made of steps of the connection, and the
transaction goes on. -/
theorem script_made {α : Type} {id : ConnectionId} {script : Script α} (hplain : script.Plain)
    {v v' : Venue α} (hspares : v.Spares id) {log ws : List Write}
    (h : Standing id log ws v.system) (hact : (v.system.connection id).isActive = true)
    {r : Except TxnError α} (hd : (script.run id v).done? = some (r, v')) :
    ∃ asked, script.Made id asked r ∧ v.Leads id asked v' ∧
      Standing id (asked.foldl (Transition.extend id) log)
        (asked.foldl (Transition.rebind id) ws) v'.system ∧
      (v'.system.connection id).isActive = true ∧ v'.returned = v.returned ++ [r] := by
  induction script generalizing v log ws with
  | done r' =>
    have hended : r' = r ∧ v' = { v with returned := v.returned ++ [r'] } := by
      cases r' with
      | ok a =>
        obtain ⟨rfl, rfl⟩ := Prod.mk.inj (Option.some.inj hd)
        exact ⟨rfl, rfl⟩
      | error e =>
        obtain ⟨rfl, rfl⟩ := Prod.mk.inj (Option.some.inj hd)
        exact ⟨rfl, rfl⟩
    obtain ⟨rfl, rfl⟩ := hended
    exact ⟨[], .done r', ⟨rfl, [], .nil, rfl⟩, h, hact, rfl⟩
  | ask req next ih =>
    obtain ⟨hreq, hnext⟩ := hplain
    have hcommit : req ≠ .commit := by
      rintro rfl
      cases hreq
    rw [Script.run] at hd
    obtain ⟨a, mid, hcall, hrest⟩ := Outcome.done?_attempt_bind hd
    obtain ⟨sys', hstep, rfl⟩ := done?_inside hcall
    have hs : Step v.now (.request id req) a sys' := ⟨trivial, hstep⟩
    obtain ⟨hnow, hsame⟩ := h.now hspares
    obtain ⟨hact', hcounts⟩ := ask_counts hnow.coherent (hsame.trans hact) hreq hs
    have hleads := leads_of_step hspares hs
    obtain ⟨asked, hmade, hleads', hstanding, hactive, hreturned⟩ :=
      ih a (hnext a) (hleads.spares hspares) (hnow.own hs) hact' hrest
    exact ⟨_ :: asked, .ask hcounts (keeps_of_step hnow.coherent hs hcommit) hmade,
      hleads.trans hleads', hstanding, hactive, hreturned⟩

/-! ## One attempt -/

/-- A transaction was run in a venue as the attempt that is given, and does not run any more. -/
structure Attempted {α : Type} (id : ConnectionId) (script : Script α) (a : Attempt α)
    (r : Except TxnError α) (v v' : Venue α) : Prop where
  /-- the attempt is in order -/
  sound : a.Sound id script
  /-- it has come to the result -/
  result : a.result = r
  /-- its steps are those of the connection -/
  leads : v.Leads id a.steps v'
  /-- nothing is left written -/
  standing : Standing id [] [] v'.system
  /-- the transaction has ended -/
  inactive : (v'.system.connection id).isActive = false
  /-- what the work has come to was taken down -/
  returned : v'.returned = v.returned ++ a.returned

section Attempts

variable {α : Type} {id : ConnectionId} {script : Script α} {start v v' : Venue α}

section Ends

variable {b : Transition} {asked : List Transition} (hleads : start.Leads id (b :: asked) v)
  (hspares : v.Spares id)
  (h : Standing id (Transition.log id asked) (Transition.bindings id asked) v.system)
  (hact : (v.system.connection id).isActive = true)

include hleads hspares h hact

/-- The work has failed. -/
theorem rollback_attempted {e : TxnError} (hbegun : Attempt.Begun id script b asked (.error e))
    (hreturned : v.returned = start.returned ++ [.error e]) {r : Except TxnError Unit}
    (hd : (inside (rollback id) v).done? = some (r, v')) :
    ∃ c, Attempted id script (.failed b asked e c) (.error e) start v' := by
  obtain ⟨sys', hroll, rfl⟩ := done?_inside hd
  have hs : Step v.now (.request id .rollback) (r.map fun _ => .none) sys' :=
    ⟨trivial, Outcome.done?_unanswered hroll⟩
  obtain ⟨hnow, hsame⟩ := h.now hspares
  obtain ⟨hok, hidle, hcounts⟩ := rollback_counts hnow.coherent (hsame.trans hact) hs
  have hkeeps := keeps_of_step hnow.coherent hs nofun
  exact ⟨_, ⟨hbegun, hcounts, hkeeps, hok⟩, rfl, hleads.trans (leads_of_step hspares hs),
    (hnow.own hs).ended hidle, hidle, hreturned⟩

/-- The work was done. -/
theorem commit_attempted {a : α} (hbegun : Attempt.Begun id script b asked (.ok a))
    (hreturned : v.returned = start.returned ++ [.ok a]) {r : Except TxnError Unit}
    (hd : (inside (commit id) v).done? = some (r, v')) :
    ∃ att, Attempted id script att (r.map fun _ => a) start v' := by
  obtain ⟨sys', hcommit, rfl⟩ := done?_inside hd
  have hs : Step v.now (.request id .commit) (r.map fun _ => .none) sys' :=
    ⟨trivial, Outcome.done?_unanswered hcommit⟩
  obtain ⟨hnow, hsame⟩ := h.now hspares
  obtain ⟨hidle, hcases⟩ := commit_counts hnow.coherent (hsame.trans hact) hs
  have hleads' := hleads.trans (leads_of_step hspares hs)
  have hended := (hnow.own hs).ended hidle
  cases r with
  | ok =>
    obtain ⟨-, hcounts⟩ | ⟨e, he, -⟩ := hcases
    · have hcontents : sys'.store.contents =
          ⟨v.now.store.contents.statements.replay (Transition.log id asked),
            v.now.store.contents.namespaces.replay (Transition.bindings id asked)⟩ :=
        congrArg₂ Contents.mk (statements_of_commit hnow.coherent (hnow.inStep id) hnow.logged hs)
          (namespaces_of_commit hnow.coherent hnow.binds hs)
      exact ⟨.committed b asked a _, ⟨hbegun, hcounts, rfl, hcontents⟩, rfl, hleads', hended,
        hidle, hreturned⟩
    · cases he
  | error e =>
    obtain ⟨he, -⟩ | ⟨e', he, hkeeps, hcounts⟩ := hcases
    · cases he
    · exact ⟨.uncommitted b asked a _ e, ⟨hbegun, hcounts, hkeeps, rfl⟩, rfl, hleads', hended,
        hidle, hreturned⟩

/-- What is done after the work ends the transaction. -/
theorem ends_attempted {q r : Except TxnError α}
    (hd : ((match q with
      | .ok a => do inside (commit id); return a
      | .error e => do
        let _ ← (inside (rollback id) : Action (Venue α) Unit).attempt
        throw e : Action (Venue α) α) v).done? = some (r, v'))
    (hbegun : Attempt.Begun id script b asked q)
    (hreturned : v.returned = start.returned ++ [q]) :
    ∃ a, Attempted id script a r start v' := by
  cases q with
  | ok a =>
    rcases Outcome.done?_bind_cases hd with ⟨⟨⟩, last, hcommit, hlast⟩ | ⟨e, hcommit, rfl⟩
    · obtain ⟨rfl, rfl⟩ := Prod.mk.inj (Option.some.inj hlast)
      exact commit_attempted hleads hspares h hact hbegun hreturned hcommit
    · exact commit_attempted hleads hspares h hact hbegun hreturned hcommit
  | error e =>
    obtain ⟨q, last, hroll, hlast⟩ := Outcome.done?_attempt_bind hd
    obtain ⟨rfl, rfl⟩ := Prod.mk.inj (Option.some.inj hlast)
    obtain ⟨c, hc⟩ := rollback_attempted hleads hspares h hact hbegun hreturned hroll
    exact ⟨_, hc⟩

end Ends

/-- A transaction that is run in a venue is an attempt, which is in order. -/
theorem transaction_attempted (hplain : script.Plain) (hspares : start.Spares id)
    (h : Standing id [] [] start.system) (hidle : (start.system.connection id).isActive = false)
    {r : Except TxnError α}
    (hd : (transaction id (script.run id) start).done? = some (r, v')) :
    ∃ a, Attempted id script a r start v' := by
  obtain ⟨hnow, hsame⟩ := h.now hspares
  rcases Outcome.done?_bind_cases hd with ⟨⟨⟩, mid, hcall, hrest⟩ | ⟨e, hcall, rfl⟩
  · obtain ⟨sys, hbegin, rfl⟩ := done?_inside hcall
    have hs : Step start.now (.request id .begin) (.ok .none) sys :=
      ⟨trivial, Outcome.done?_unanswered hbegin⟩
    obtain ⟨-, hact, hcounts⟩ | ⟨ms, he, -⟩ := begin_counts hnow.coherent (hsame.trans hidle) hs
    · have hown := hnow.own hs
      rw [Transition.extend_own hact, Transition.rebind_own hact] at hown
      obtain ⟨q, mid, hwork, hend⟩ := Outcome.done?_attempt_bind hrest
      have hleads := leads_of_step hspares hs
      have hspares := hleads.spares hspares
      obtain ⟨asked, hmade, hleads', hstanding, hactive, hreturned⟩ :=
        script_made hplain hspares hown hact hwork
      have hbegun : Attempt.Begun id script _ asked q :=
        ⟨hcounts, keeps_of_step hnow.coherent hs nofun, rfl, hmade⟩
      exact ends_attempted (hleads.trans hleads') (hleads'.spares hspares) hstanding hactive hend
        hbegun hreturned
    · cases he
  · obtain ⟨sys, hbegin, rfl⟩ := done?_inside hcall
    have hs : Step start.now (.request id .begin) (.error e) sys :=
      ⟨trivial, Outcome.done?_unanswered hbegin⟩
    obtain ⟨hok, -⟩ | ⟨ms, he, hended, hcounts⟩ :=
      begin_counts hnow.coherent (hsame.trans hidle) hs
    · cases hok
    · obtain rfl := Except.error.inj he
      have hkeeps := keeps_of_step hnow.coherent hs nofun
      exact ⟨.unbegun _ _, ⟨hcounts, hkeeps, rfl, rfl⟩, rfl, leads_of_step hspares hs,
        (hnow.own hs).ended hended, hended, (List.append_nil _).symm⟩

end Attempts

end System

end QuadTxn
