import QuadTxn.Proofs.Runs.Invariants

/-!
# What a transaction sees and commits

The log of a transaction is read off the run: the single writes that its requests stood for, in
order (`Transition.log`). What the transaction reads, what its removals count, what its commit
makes of the committed statements and what its listeners hear is all determined by the log
(`System.reads_and_commit_replay_log`).
-/

namespace QuadTxn

/-- A list holds the statements of a set that a pattern selects, in order and without repeats. -/
def Model.Lists (m : Model) (p : Pattern) (l : List Statement) : Prop :=
  (l.Pairwise fun s t => compare s t = .lt) ∧ ∀ s, s ∈ l ↔ s ∈ m ∧ p.selects s = true

theorem Model.lists_select (m : Model) (p : Pattern) : m.Lists p (m.select p) :=
  ⟨m.sorted.filter _, fun _ => mem_select⟩

namespace System

/-! ## Listeners -/

/-- Along the life of a transaction a listener hears the log, each write as often as the listener is
registered. -/
theorem heard_of_run {start sys : System Session} {ts : List Transition} (hr : Run start ts sys)
    (h : start.Coherent) (hcalm : ∀ t ∈ ts, t.Calm) {id : ConnectionId}
    (hstart : (start.frame id).Logged [])
    (hact : ∀ t ∈ ts, (t.after.connection id).isActive = true) {listener : String}
    (hquiet : ∀ t ∈ ts, t.occurrence ≠ .request id (.listen listener) ∧
      t.occurrence ≠ .request id (.unlisten listener)) :
    (sys.frame id).Logged (Transition.log id ts) ∧
      Frame.heardBy listener (sys.connection id).events =
        Frame.heardBy listener (start.connection id).events ++ (Transition.log id ts).flatMap
          (List.replicate ((start.connection id).listeners.count listener)) ∧
      (sys.connection id).listeners.count listener =
        (start.connection id).listeners.count listener := by
  induction hr with
  | nil => exact ⟨hstart, (List.append_nil _).symm, rfl⟩
  | @snoc ts sys sys' o r hr hs ih =>
    obtain ⟨hcalm, hcalm'⟩ := Transition.forall_snoc hcalm
    obtain ⟨hact, hafter⟩ := Transition.forall_snoc hact
    obtain ⟨hquiet, hquiet'⟩ := Transition.forall_snoc hquiet
    obtain ⟨hl, hheard, hcount⟩ := ih hcalm hact hquiet
    have hsys := h.run hr
    have he := effect_of_step hsys hs
    rw [Transition.log_snoc]
    refine ⟨logged_step hsys he hcalm' hl, ?_⟩
    rcases active_step hsys he hafter with ⟨req, rfl, hm⟩ | ⟨hown, hpass⟩
    · obtain ⟨hlisten, hunlisten⟩ := hquiet'
      have hreq : req ≠ .listen listener := fun heq => hlisten (by rw [heq])
      obtain ⟨hheard', hcount'⟩ := hm.heard hreq fun heq => hunlisten (by rw [heq])
      have hseen : (sys.frame id).seen = sys.store.contents.statements.replay _ :=
        hl.seen_eq (hsys.frame id)
      refine ⟨?_, hcount'.trans hcount⟩
      rw [Transition.extend_own hafter, ← hseen, List.flatMap_append, ← List.append_assoc,
        ← hheard, ← hcount]
      exact hheard'
    · obtain ⟨ledger, hconn⟩ := hpass.self
      rw [Transition.extend_other hafter hown, hconn]
      exact ⟨hheard, hcount⟩

/-! ## The guarantee -/

/-- In every state that a run leads to, the view of a connection is the committed statements with
the log of its transaction replayed. Its reads list the view, whenever the gate admits a read; its
removals count what they find in the view; its commit makes the view the committed statements; and
a listener that was registered when the transaction began has heard the log since. -/
theorem reads_and_commit_replay_log {ts : List Transition} {sys : System Session}
    (hr : Run .new ts sys) (hcalm : ∀ t ∈ ts, t.Calm) (id : ConnectionId) :
    let log := Transition.log id ts
    let view := sys.store.contents.statements.replay log
    (∀ p inferred,
      (sys.CanRead id → ∃ r sys', Step sys (.request id (.getStatements p inferred)) r sys') ∧
      ∀ r sys', Step sys (.request id (.getStatements p inferred)) r sys' →
        ∃ l, r = .ok (.statements l) ∧ view.Lists p l) ∧
    (∀ req p a sys', req.removal? = some p → Step sys (.request id req) (.ok a) sys' →
      ∃ l, view.Lists p l ∧ a = .count l.length) ∧
    (∀ a sys', Step sys (.request id .commit) (.ok a) sys' →
      sys'.store.contents.statements = view) ∧
    ∀ earlier start later a listener, ts = earlier ++ start :: later →
      start.occurrence = .request id .begin → start.result = .ok a →
      (∀ t ∈ later, (t.after.connection id).isActive = true) →
      (∀ t ∈ later, t.occurrence ≠ .request id (.listen listener) ∧
        t.occurrence ≠ .request id (.unlisten listener)) →
      Frame.heardBy listener (sys.connection id).events =
        Frame.heardBy listener (start.after.connection id).events ++ log.flatMap
          (List.replicate ((start.after.connection id).listeners.count listener)) := by
  intro log view
  obtain ⟨h, hstep, hlogged⟩ := settled_of_run hr hcalm
  have hseen : (sys.frame id).seen = view := (hlogged id).seen_eq (h.frame id)
  refine ⟨fun p inferred => ⟨fun hread => ?_, fun r sys' hs => ?_⟩, fun req p a sys' hp hs => ?_,
    fun a sys' hs => ?_, ?_⟩
  · exact ⟨_, _, step_of_onStatements h rfl rfl fun _ => hread⟩
  · obtain ⟨a, rfl⟩ := ok_of_read h rfl rfl hs
    rw [answer_of_step h rfl hs, hseen]
    exact ⟨_, rfl, Model.lists_select view p⟩
  · have hon : req.onStatements = true := by
      cases req <;> first | rfl | cases hp
    rw [answer_of_step h hon hs, hseen]
    refine ⟨view.select p, Model.lists_select view p, ?_⟩
    cases req <;> first | (cases hp; rfl) | cases hp
  · exact statements_of_commit h (hstep id) (hlogged id) hs
  · rintro earlier ⟨before, o, r, after⟩ later a listener rfl rfl rfl hact hquiet
    obtain ⟨mid, hearly, hrest⟩ := hr.split rfl
    obtain ⟨rfl, hbegin, hlater⟩ := hrest.uncons
    obtain ⟨hcalm₁, hcalm₂⟩ := List.forall_mem_append.mp hcalm
    have hbefore := settled_of_run hearly hcalm₁
    obtain ⟨hlog, hfresh⟩ := logged_of_begin hbefore.coherent hbegin
    have hnil := hfresh (hbefore.logged id)
    have hsplit : log = Transition.log id later := by
      change Transition.log id (earlier ++ _ :: later) = _
      rw [Transition.log, List.foldl_append, List.foldl_cons]
      exact congrArg (later.foldl (Transition.extend id)) hnil
    rw [hsplit]
    exact (heard_of_run hlater (hbefore.coherent.step hbegin)
      (fun t ht => hcalm₂ t (List.mem_cons_of_mem _ ht)) hlog hact
      hquiet).2.1

/-- A connection begins and adds a statement, and from then on its reads list what that makes of the
empty store. -/
theorem reads_replay_one_addition : ∃ ts sys,
    requests .new [("c", .begin), ("c", .addStatement ⟨.iri "s", .iri "p", .iri "o", none⟩)] =
      some (ts, sys) ∧
    ∀ p inferred r sys', Step sys (.request "c" (.getStatements p inferred)) r sys' →
      ∃ l, r = .ok (.statements l) ∧
        (Model.replay ∅ [.add ⟨.iri "s", .iri "p", .iri "o", none⟩]).Lists p l := by
  have hplay := (rfl : requests .new [("c", .begin),
    ("c", .addStatement ⟨.iri "s", .iri "p", .iri "o", none⟩)] = some (_, _))
  obtain ⟨hr, hreqs⟩ := run_of_requests hplay
  have hcalm := fun t ht => Transition.calm_of_request (hreqs t ht)
  exact ⟨_, _, hplay, fun p inferred =>
    ((reads_and_commit_replay_log hr hcalm "c").1 p inferred).2⟩

end System

end QuadTxn
