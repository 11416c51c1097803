import QuadTxn.Proofs.Calls.Verdicts
import QuadTxn.Proofs.Guarantees.Isolation
import QuadTxn.Proofs.Runs.Publication

/-!
# Reading twice

A committed transaction that tracked its reads never saw a statement in two states, unless it wrote
the statement itself in between (`System.committed_rereads_agree`). If it is serializable, this
holds of all of its reads. If it only tracks its reads, the ledger is checked for phantoms when the
transaction is prepared and not again, so a read in the prepared transaction may differ from one
made before it took the gate (`System.prepared_transaction_rereads_differently`); all other pairs of
reads agree.

A statement that differs between two reads has been changed by a commit of another connection
between them, and that commit is in the ledger, with the second read after it.
-/

namespace QuadTxn

namespace Transition

/-- The statements that a connection sees when a step is taken. -/
def view (id : ConnectionId) (t : Transition) : Model := (t.before.frame id).seen

/-- What a connection writes in a step. -/
def written (id : ConnectionId) (t : Transition) : List Write :=
  match t.occurrence with
  | .request j req => if j = id then req.logged (t.view id) t.result else []
  | _ => []

theorem written_own {id : ConnectionId} {req : Request} {sys sys' : System Session}
    {r : Except TxnError Answer} :
    (⟨sys, .request id req, r, sys'⟩ : Transition).written id =
      req.logged (sys.frame id).seen r :=
  if_pos rfl

/-- A connection adds or removes a statement in a step. -/
def Writes (id : ConnectionId) (s : Statement) (t : Transition) : Prop :=
  .add s ∈ t.written id ∨ .remove s ∈ t.written id

end Transition

namespace System

/-! ## What is seen of a statement -/

section Seen

variable {start sys : System Session} (h : start.Coherent) {ts : List Transition}
  (hr : Run start ts sys) (hcalm : ∀ t ∈ ts, t.Calm) {id : ConnectionId} {log : List Write}
  (hl : (start.frame id).Logged log)
  (hact : ∀ t ∈ ts, (t.after.connection id).isActive = true) {s : Statement}
  (hunwritten : ∀ t ∈ ts, ¬t.Writes id s)

include h hr hcalm hl hact hunwritten

/-- While a transaction does not write a statement, no write of it comes into the log. -/
theorem logged_unwritten :
    ∃ ws, (sys.frame id).Logged (log ++ ws) ∧ .add s ∉ ws ∧ .remove s ∉ ws := by
  induction hr with
  | nil => exact ⟨[], by rwa [List.append_nil], List.not_mem_nil, List.not_mem_nil⟩
  | @snoc ts sys sys' o r hr hs ih =>
    obtain ⟨hcalm, hcalm'⟩ := Transition.forall_snoc hcalm
    obtain ⟨hact, hact'⟩ := Transition.forall_snoc hact
    obtain ⟨hunwritten, hunwritten'⟩ := Transition.forall_snoc hunwritten
    obtain ⟨ws, hws, hadd, hremove⟩ := ih hcalm hact hunwritten
    have hmid := h.run hr
    have he := effect_of_step hmid hs
    have hnext := logged_step hmid he hcalm' hws
    rcases active_step hmid he hact' with ⟨req, rfl, -⟩ | ⟨hown, -⟩
    · have hseen : (sys.frame id).seen = sys.store.contents.statements.replay (log ++ ws) :=
        hws.seen_eq (hmid.frame id)
      rw [Transition.extend_own hact', ← hseen, List.append_assoc] at hnext
      rw [Transition.Writes, Transition.written_own, not_or] at hunwritten'
      refine ⟨_, hnext, ?_, ?_⟩
      · rw [List.mem_append, not_or]
        exact ⟨hadd, hunwritten'.1⟩
      · rw [List.mem_append, not_or]
        exact ⟨hremove, hunwritten'.2⟩
    · rw [Transition.extend_other hact' hown] at hnext
      exact ⟨ws, hnext, hadd, hremove⟩

/-- A transaction sees a statement as before that it has not written, if the committed statements
have it as before. -/
theorem mem_seen_iff
    (hcommitted : s ∈ start.store.contents.statements ↔ s ∈ sys.store.contents.statements) :
    s ∈ (start.frame id).seen ↔ s ∈ (sys.frame id).seen := by
  obtain ⟨ws, hws, hadd, hremove⟩ := logged_unwritten h hr hcalm hl hact hunwritten
  have hlast := h.run hr
  rw [hl.seen_eq (h.frame id), hws.seen_eq (hlast.frame id), Model.replay_append,
    Model.mem_replay_of_unwritten hadd hremove]
  exact Model.mem_replay_congr hcommitted log

end Seen

/-! ## Commits of other connections between two reads -/

/-- A statement that changes while a transaction runs is published by another connection, at a point
at which the transaction has no native one. -/
theorem publishes_between {start sys : System Session} (h : start.Coherent) (hstep : start.InStep)
    {ts : List Transition} (hr : Run start ts sys)
    (hinsert : ∀ t ∈ ts, ∀ s, t.occurrence ≠ .insert s) {id : ConnectionId}
    (hstart : (start.connection id).isActive = true)
    (hact : ∀ t ∈ ts, (t.after.connection id).isActive = true) {s : Statement}
    (hne : ¬(s ∈ start.store.contents.statements ↔ s ∈ sys.store.contents.statements)) :
    ∃ t ∈ ts, ∃ j change, j ≠ id ∧ t.Publishes j change ∧
      (s ∈ change.added ∨ s ∈ change.removed) ∧ ¬(t.before.connection id).Engaged := by
  obtain ⟨t, ht, hchange⟩ :=
    hr.exists_change (P := fun sys => s ∈ sys.store.contents.statements) hne
  obtain ⟨ts₁, ts₂, rfl, h₁, hs, -⟩ := hr.of_mem ht
  have hcalm : ∀ t ∈ ts₁, Calm t.before t.occurrence := fun t ht ⟨s, heq⟩ =>
    absurd heq (hinsert t (List.mem_append_left _ ht) s)
  have hbefore := (hr.forall_before (P := fun sys => (sys.connection id).isActive = true) hstart
    hact).1 t ht
  exact ⟨t, ht, publishes_of_changed (h.run h₁) hs (hstep.run h h₁ hcalm) (hinsert t ht) hbefore
    (hact t ht) hchange⟩

/-- A transaction that is not prepared and is committed later passes the check of its ledger in
between. -/
theorem checked_of_commit {start last after : System Session} (h : start.Coherent)
    {ts : List Transition} (hr : Run start ts last) {id : ConnectionId}
    (hstart : (start.connection id).isActive = true)
    (hact : ∀ t ∈ ts, (t.after.connection id).isActive = true)
    (hunprepared : (start.connection id).phase ≠ .prepared) {b : Answer}
    (hcommit : Step last (.request id .commit) (.ok b) after) :
    ∃ ts₁ ts₂ sys, ts = ts₁ ++ ts₂ ∧ Run start ts₁ sys ∧ (sys.frame id).verdict? = none := by
  have hchecked : (last.connection id).phase ≠ .prepared ∨
      ∃ ts₁ ts₂ sys, ts = ts₁ ++ ts₂ ∧ Run start ts₁ sys ∧ (sys.frame id).verdict? = none := by
    clear hcommit
    induction hr with
    | nil => exact .inl hunprepared
    | @snoc ts sys sys' o r hr hs ih =>
      obtain ⟨hearly, hlast⟩ := Transition.forall_snoc hact
      rcases ih hearly with hp | ⟨ts₁, ts₂, mid, rfl, hmid, hv⟩
      · have hsys := h.run hr
        rcases active_step hsys (effect_of_step hsys hs) hlast with ⟨req, -, hm⟩ | ⟨-, hpass⟩
        · by_cases hp' : (sys'.connection id).phase = .prepared
          · rcases hm.prepared_cases hp' with hp₀ | ⟨hv, -⟩
            · exact absurd hp₀ hp
            · exact .inr ⟨ts, _, sys, rfl, hr, hv⟩
          · exact .inl hp'
        · obtain ⟨ledger, hconn⟩ := hpass.self
          rw [hconn]
          exact .inl hp
      · exact .inr ⟨ts₁, ts₂ ++ _, mid, List.append_assoc _ _ _, hmid, hv⟩
  rcases hchecked with hp | hchecked
  · have hlast := h.run hr
    have hrunning := (hr.forall_before (P := fun sys => (sys.connection id).isActive = true) hstart
      hact).2
    refine ⟨ts, [], last, (List.append_nil ts).symm, hr, ?_⟩
    cases effect_of_step hlast hcommit with
    | move hne => exact absurd rfl hne
    | commitSkips hinactive =>
      rw [hinactive] at hrunning
      cases hrunning
    | commit _ hc =>
      cases hc with
      | done hact hprepares =>
        cases hprepares with
        | skip hw => exact absurd (Frame.prepared_of_unwritable hact hw) hp
        | done _ _ hv => exact hv
  · exact hchecked

/-- A read is admitted by the gate, and leaves the transaction in its phase. -/
theorem of_read {sys sys' : System Session} (h : sys.Coherent) {id : ConnectionId} {req : Request}
    {a : Answer} {r : Read} (hread : req.read? = some r)
    (hs : Step sys (.request id req) (.ok a) sys') :
    req.onStatements = true ∧ (sys.frame id).CanRead ∧
      (sys'.connection id).phase = (sys.connection id).phase := by
  have hon : req.onStatements = true := by
    rcases hon : req.onStatements with _ | _
    · rw [Request.read?_of_not_onStatements hon] at hread
      cases hread
    · rfl
  cases effect_of_step h hs with
  | move _ hm =>
    rcases hm.of_onStatements hon with ⟨e, -, herror, -⟩ | ⟨-, hcan, -, rfl⟩
    · cases herror
    · refine ⟨hon, hcan (by rw [hread]; rfl), ?_⟩
      rw [connection_setFrame_self]
      exact (Frame.perform_continues _ req).phase
  | commitSkips => cases hread
  | commit => cases hread

/-! ## The guarantee -/

section Tracks

variable {start last after : System Session} {id : ConnectionId} {ts : List Transition}
  (h : Tracks id start ts last) {b : Answer}
  (hcommit : Step last (.request id .commit) (.ok b) after)
  {ts₁ ts₂ ts₃ : List Transition} {t₁ t₂ : Transition} (hts : ts = ts₁ ++ t₁ :: ts₂ ++ t₂ :: ts₃)
  {r₁ r₂ : Read} (h₁ : t₁.Reads id r₁) (h₂ : t₂.Reads id r₂)

include h hcommit hts h₁ h₂

/-- A transaction that is not prepared when it reads again does not commit if another connection has
changed what it reads since it read it first. -/
theorem not_overlapped_of_unprepared (hunprepared : (t₂.before.connection id).phase ≠ .prepared)
    {t : Transition} (ht : t ∈ ts₂) {j : ConnectionId} (hj : j ≠ id) {change : ChangeSet}
    (hpublishes : t.Publishes j change) (hover₁ : change.Overlaps r₁) :
    ¬change.Overlaps r₂ := by
  intro hover₂
  obtain ⟨mid, hmid, hrest⟩ := h.run.split hts
  obtain ⟨rfl, hs₂, hlater⟩ := hrest.uncons
  have hbefore := h.upTo hts hmid
  have hmem : ∀ t' ∈ t₂ :: ts₃, t' ∈ ts := fun t' ht' => hts ▸ List.mem_append_right _ ht'
  have hphase : (t₂.after.connection id).phase = (t₂.before.connection id).phase := by
    obtain ⟨req, a, ho, hok, hread⟩ := h₂
    rw [ho, hok] at hs₂
    exact (of_read hbefore.coherent_last hread hs₂).2.2
  -- the check comes after the second read, and finds the commit between the two reads
  obtain ⟨ts₄, ts₅, sys, rfl, hchecked, hv⟩ := checked_of_commit (hbefore.coherent_last.step hs₂)
    hlater (h.active t₂ (hmem t₂ List.mem_cons_self))
    (fun t' ht' => h.active t' (hmem t' (List.mem_cons_of_mem _ ht'))) (hphase ▸ hunprepared)
    hcommit
  have htracks : Tracks id start (ts₁ ++ t₁ :: ts₂ ++ t₂ :: ts₄) sys :=
    h.upTo (hts.trans (List.append_assoc _ (t₂ :: ts₄) ts₅).symm)
      (hmid.append (hchecked.cons hs₂))
  have hsub : [t₁, t, t₂].Sublist (ts₁ ++ t₁ :: ts₂ ++ t₂ :: ts₄) := by
    have hfront : [t₁, t].Sublist (ts₁ ++ t₁ :: ts₂) :=
      ((List.singleton_sublist.mpr ht).cons_cons t₁).trans (List.sublist_append_right ts₁ _)
    exact hfront.append (List.singleton_sublist.mpr List.mem_cons_self)
  have hphantom := htracks.phantom_iff.mpr
    ⟨r₁, change, r₂, j, t₁, t, t₂, hover₁, hover₂, hj, hsub, h₁, hpublishes, h₂⟩
  have hnone : (sys.connection id).ledger.phantom? Read.affectedBy = none :=
    Frame.phantom?_of_verdict htracks.snapshot_last hv
  rw [hnone] at hphantom
  cases hphantom

omit h₂ in
/-- A serializable transaction does not commit if another connection has changed what it has
read. -/
theorem not_overlapped_of_serializable (hunprepared : (start.connection id).phase ≠ .prepared)
    (hser : (start.connection id).isolation.serializable = true)
    {t : Transition} (ht : t ∈ ts₂) {j : ConnectionId} (hj : j ≠ id) {change : ChangeSet}
    (hpublishes : t.Publishes j change) : ¬change.Overlaps r₁ := by
  intro hover
  obtain ⟨hrunning, hunopposed, hguarded⟩ := guarded_of_run h.run h.coherent h.active_start
    (fun hp => absurd hp hunprepared) h.active
  have hser' : (last.connection id).isolation.serializable = true := by
    rcases hguarded.tracked with ⟨-, -, hsame⟩ | ⟨-, -, hcleared⟩
    · exact hsame.trans hser
    · -- nothing would be tracked any more
      have hsnap := h.snapshot_last
      rw [hcleared] at hsnap
      cases hsnap
  have hsub : [t₁, t].Sublist ts := by
    rw [hts, List.append_assoc]
    refine (List.Sublist.cons_cons t₁ ?_).trans (List.sublist_append_right ts₁ _)
    exact List.singleton_sublist.mpr (List.mem_append_left _ ht)
  refine h.changes_iff.mpr ⟨r₁, change, j, t₁, t, hover, hj, hsub, h₁, hpublishes⟩ ?_
  exact changes_of_prepare h.coherent_last hrunning hunopposed hser' (.inr rfl) hcommit

/-- A statement that two reads of a committed transaction look at is committed at the second one if
it is at the first one. -/
theorem committed_agree (hinsert : ∀ t ∈ ts, ∀ s, t.occurrence ≠ .insert s)
    (hunprepared : (start.connection id).phase ≠ .prepared) (hsynced : (start.frame id).Synced)
    (hsealed : (start.connection id).isolation.serializable = true ∨
      (t₁.before.connection id).Engaged ∨
      (t₂.before.connection id).phase ≠ .prepared)
    {s : Statement} (hs₁ : ∃ p ∈ r₁.footprint, p.selects s = true)
    (hs₂ : ∃ p ∈ r₂.footprint, p.selects s = true) :
    s ∈ t₁.before.store.contents.statements ↔ s ∈ t₂.before.store.contents.statements := by
  obtain ⟨mid, hmid, hrest⟩ := h.run.split hts
  obtain ⟨rfl, -, -⟩ := hrest.uncons
  obtain ⟨mid, hfirst, hbetween⟩ := hmid.split rfl
  obtain ⟨rfl, hstep₁, -⟩ := hbetween.uncons
  have hbefore : Tracks id start ts₁ t₁.before :=
    h.upTo (hts.trans (List.append_assoc _ _ _)) hfirst
  have hmem₁ : ∀ t ∈ ts₁, t ∈ ts := fun t ht =>
    hts ▸ List.mem_append_left _ (List.mem_append_left _ ht)
  have hmem₂ : ∀ t ∈ t₁ :: ts₂, t ∈ ts := fun t ht =>
    hts ▸ List.mem_append_left _ (List.mem_append_right _ ht)
  -- the gate admits the first read, so that native transactions are in step from then on
  have hstep : t₁.before.InStep := by
    obtain ⟨req, a, ho, hok, hread⟩ := h₁
    rw [ho, hok] at hstep₁
    have hadmitted := (of_read hbefore.coherent_last hread hstep₁).2.1 hbefore.active_last
    exact inStep_of_admitted hbefore.coherent_last hadmitted
      (synced_run h.coherent hfirst (fun t ht ⟨s, heq⟩ => absurd heq (hinsert t (hmem₁ t ht) s))
        hsynced)
  by_contra hne
  obtain ⟨t, ht, j, change, hj, hpublishes, hmember, hengaged⟩ :=
    publishes_between hbefore.coherent_last hstep hbetween (fun t ht => hinsert t (hmem₂ t ht))
      hbefore.active_last (fun t ht => h.active t (hmem₂ t ht)) hne
  have ht₂ : t ∈ ts₂ := by
    refine (List.mem_cons.mp ht).resolve_left ?_
    rintro rfl
    obtain ⟨req, a, ho, -⟩ := h₁
    rw [hpublishes.1] at ho
    cases ho
    exact hj rfl
  have hover₁ : change.Overlaps r₁ := ⟨s, hmember, hs₁⟩
  have hover₂ : change.Overlaps r₂ := ⟨s, hmember, hs₂⟩
  rcases hsealed with hser | hengaged₁ | hp₂
  · exact not_overlapped_of_serializable h hcommit hts h₁ hunprepared hser ht₂ hj hpublishes hover₁
  · -- a transaction that has the gate keeps all others from committing
    obtain ⟨ts₄, ts₅, heq, hr₄, -⟩ := hbetween.of_mem ht
    exact hengaged (engaged_run hbefore.coherent_last hr₄ hengaged₁ fun t' ht' =>
      h.active t' (hmem₂ t' (heq ▸ List.mem_append_left _ ht')))
  · exact not_overlapped_of_unprepared h hcommit hts h₁ h₂ hp₂ ht₂ hj hpublishes hover₁ hover₂

end Tracks

/-- Take two reads that a transaction makes one after the other. It tracks its reads from its
beginning to its commit, nothing is put into the store directly in the meantime, and unless it is
serializable, it has the gate at the first read or is not prepared at the second one. A statement in
the footprints of both reads that the transaction does not write between them is in its view at the
second read exactly if it is in its view at the first one. So when the same request is made again,
with no write of the transaction in between, the answer is the same. -/
theorem committed_rereads_agree {before start last after : System Session}
    (hreach : Reachable before) {id : ConnectionId} {a b : Answer}
    (hbegin : Step before (.request id .begin) (.ok a) start) {ts : List Transition}
    (hr : Run start ts last) (hact : ∀ t ∈ ts, (t.after.connection id).isActive = true)
    (hstart : (start.connection id).isolation.snapshot = true)
    (hsnapshot : ∀ t ∈ ts, (t.after.connection id).isolation.snapshot = true)
    (hinsert : ∀ t ∈ ts, ∀ s, t.occurrence ≠ .insert s)
    (hcommit : Step last (.request id .commit) (.ok b) after)
    {ts₁ ts₂ ts₃ : List Transition} {t₁ t₂ : Transition}
    (hts : ts = ts₁ ++ t₁ :: ts₂ ++ t₂ :: ts₃) {r₁ r₂ : Read} (h₁ : t₁.Reads id r₁)
    (h₂ : t₂.Reads id r₂)
    (hsealed : (start.connection id).isolation.serializable = true ∨
      (t₁.before.connection id).Engaged ∨
      (t₂.before.connection id).phase ≠ .prepared) :
    (∀ s, (∃ p ∈ r₁.footprint, p.selects s = true) → (∃ p ∈ r₂.footprint, p.selects s = true) →
      (∀ t ∈ t₁ :: ts₂, ¬t.Writes id s) → (s ∈ t₁.view id ↔ s ∈ t₂.view id)) ∧
    (t₁.occurrence = t₂.occurrence → (∀ t ∈ t₁ :: ts₂, ∀ s, ¬t.Writes id s) →
      t₁.result = t₂.result) := by
  have hcoherent := hreach.coherent
  obtain ⟨hidle, hrunning, hunprepared, hledger, -⟩ := begun_of_step hcoherent hbegin
  have hfirst := hcoherent.step hbegin
  have hsynced : (start.frame id).Synced :=
    synced_step hcoherent (effect_of_step hcoherent hbegin) (calm_request before id _)
      (Frame.synced_of_none ((hcoherent.frame id).idle hidle).1)
  have htracks : Tracks id start ts last :=
    { run := hr
      coherent := hfirst
      ledger_start := hledger
      active_start := hrunning
      snapshot_start := hstart
      active := hact
      snapshot := hsnapshot }
  have hcalm : ∀ t ∈ ts, t.Calm := fun t ht ⟨s, heq⟩ => absurd heq (hinsert t ht s)
  obtain ⟨mid, hmid, hrest⟩ := hr.split hts
  obtain ⟨rfl, hs₂, -⟩ := hrest.uncons
  obtain ⟨mid, hr₁, hbetween⟩ := hmid.split rfl
  obtain ⟨rfl, hs₁, -⟩ := hbetween.uncons
  have hmem₁ : ∀ t ∈ ts₁, t ∈ ts := fun t ht =>
    hts ▸ List.mem_append_left _ (List.mem_append_left _ ht)
  have hmem₂ : ∀ t ∈ t₁ :: ts₂, t ∈ ts := fun t ht =>
    hts ▸ List.mem_append_left _ (List.mem_append_right _ ht)
  have hlogged := logged_run hfirst hr₁ (fun t ht => hcalm t (hmem₁ t ht))
    (logged_of_begin hcoherent hbegin).1
  have hview : ∀ s, (∃ p ∈ r₁.footprint, p.selects s = true) →
      (∃ p ∈ r₂.footprint, p.selects s = true) → (∀ t ∈ t₁ :: ts₂, ¬t.Writes id s) →
      (s ∈ t₁.view id ↔ s ∈ t₂.view id) := fun s hs₁ hs₂ hunwritten =>
    mem_seen_iff (hfirst.run hr₁) hbetween (fun t ht => hcalm t (hmem₂ t ht)) hlogged
      (fun t ht => hact t (hmem₂ t ht)) hunwritten
      (committed_agree htracks hcommit hts h₁ h₂ hinsert hunprepared hsynced hsealed hs₁ hs₂)
  refine ⟨hview, fun hsame hunwritten => ?_⟩
  obtain ⟨req, a₁, ho₁, hok₁, hread₁⟩ := h₁
  obtain ⟨req₂, a₂, ho₂, hok₂, hread₂⟩ := h₂
  obtain ⟨-, rfl⟩ := Occurrence.request.inj ((ho₁.symm.trans hsame).trans ho₂)
  obtain rfl : r₁ = r₂ := Option.some.inj (hread₁.symm.trans hread₂)
  rw [ho₁, hok₁] at hs₁
  rw [ho₂, hok₂] at hs₂
  have hcoherent₁ := hfirst.run hr₁
  have hcoherent₂ := hfirst.run hmid
  have hon := (of_read hcoherent₁ hread₁ hs₁).1
  have hagree : ∀ r, req.read? = some r →
      Model.Agree r.footprint (t₁.before.frame id).seen (t₂.before.frame id).seen := by
    rintro r hr p hp s hs
    obtain rfl : r₁ = r := Option.some.inj (hread₁.symm.trans hr)
    exact hview s ⟨p, hp, hs⟩ ⟨p, hp, hs⟩ fun t ht => hunwritten t ht s
  rw [hok₁, hok₂, answer_of_step hcoherent₁ hon hs₁, answer_of_step hcoherent₂ hon hs₂,
    Request.answerIn_congr hagree]

/-- A transaction adds a statement and looks for all with its subject, before and after another
connection commits a statement with another subject. It is committed, and its answers agree. -/
theorem rereads_of_own_subject_agree : ∃ answer start t₀ t₁ ts₂ t₂ last answer' after,
    Step .new (.request "a" .begin) (.ok answer) start ∧
    requests start [("a", .addStatement ⟨.iri "s", .iri "p", .iri "o", none⟩),
      ("a", .getStatements ⟨some (.iri "s"), none, none, []⟩ false), ("b", .begin),
      ("b", .addStatement ⟨.iri "r", .iri "p", .iri "o", none⟩), ("b", .commit),
      ("a", .getStatements ⟨some (.iri "s"), none, none, []⟩ false)] =
        some (t₀ :: t₁ :: (ts₂ ++ [t₂]), last) ∧
    Step last (.request "a" .commit) (.ok answer') after ∧ t₁.result = t₂.result := by
  obtain ⟨r, start, ts, last, r', after, hbegin, hplay, hcommit, hcheck⟩ :=
    requests_of_check_ends
      (fun first ts last => first.result.isOk && last.result.isOk &&
        (first.after.connection "a").isolation.snapshot &&
        (ts.all fun t => t.result.isOk && (t.after.connection "a").isActive &&
          (t.after.connection "a").isolation.snapshot &&
          (t.before.connection "a").phase = .staging) &&
        ts.tail.all fun t => t.written "a" = [])
      (by decide +kernel : ((requests .new ([("a", .begin)] ++
        ([("a", .addStatement ⟨.iri "s", .iri "p", .iri "o", none⟩),
          ("a", .getStatements ⟨some (.iri "s"), none, none, []⟩ false), ("b", .begin),
          ("b", .addStatement ⟨.iri "r", .iri "p", .iri "o", none⟩), ("b", .commit),
          ("a", .getStatements ⟨some (.iri "s"), none, none, []⟩ false)] ++
            [("a", .commit)]))).any _) = true)
  simp only [Bool.and_eq_true, List.all_eq_true, decide_eq_true_eq] at hcheck
  obtain ⟨⟨⟨⟨hok, hok'⟩, hstart⟩, hlife⟩, hunwritten⟩ := hcheck
  obtain ⟨answer, rfl⟩ := answered_of_isOk hok
  obtain ⟨answer', rfl⟩ := answered_of_isOk hok'
  obtain ⟨hr, hreqs⟩ := run_of_requests hplay
  obtain ⟨r₀, s₀, ts, rfl, -, hrest⟩ := requests_cons hplay
  have hrest : requests s₀ ([_] ++ ([_, _, _] ++ [_])) = some (ts, last) := hrest
  obtain ⟨r₁, s₁, ts₂, mid, r₂, -, -, -, rfl⟩ := requests_ends hrest
  obtain ⟨-, hrest⟩ := List.forall_mem_cons.mp hlife
  obtain ⟨⟨⟨⟨hok₁, -⟩, -⟩, -⟩, hrest⟩ := List.forall_mem_cons.mp hrest
  obtain ⟨-, ⟨⟨hok₂, -⟩, -⟩, hstaging⟩ := Transition.forall_snoc hrest
  obtain ⟨a₁, rfl⟩ := answered_of_isOk hok₁
  obtain ⟨a₂, rfl⟩ := answered_of_isOk hok₂
  refine ⟨answer, start, _, _, ts₂, _, last, answer', after, hbegin, hplay, hcommit, ?_⟩
  refine (committed_rereads_agree ⟨[], .nil⟩ hbegin hr (fun t ht => (hlife t ht).1.1.2) hstart
    (fun t ht => (hlife t ht).1.2) (fun t ht s heq => ?_) hcommit
    (List.append_assoc [_] (_ :: ts₂) [_]).symm ⟨_, a₁, rfl, rfl, rfl⟩ ⟨_, a₂, rfl, rfl, rfl⟩
    (.inr (.inr fun hp => ?_))).2 rfl fun t ht s => ?_
  · obtain ⟨id, req, ho⟩ := hreqs t ht
    cases ho.symm.trans heq
  · cases hstaging.symm.trans hp
  · rw [Transition.Writes, hunwritten t (List.mem_append_left [_] ht)]
    simp

/-- A transaction that tracks its reads looks for all statements before another connection commits
one, and again when it has been prepared. It has written nothing and is committed, and the answers
differ. -/
theorem prepared_transaction_rereads_differently : ∃ ts sys,
    requests .new [("a", .begin), ("a", .getStatements ⟨none, none, none, []⟩ false), ("b", .begin),
      ("b", .addStatement ⟨.iri "s", .iri "p", .iri "o", none⟩), ("b", .commit), ("a", .prepare),
      ("a", .getStatements ⟨none, none, none, []⟩ false), ("a", .commit)] = some (ts, sys) ∧
    ts.map Transition.result = [.ok .none, .ok (.statements []), .ok .none, .ok .none, .ok .none,
      .ok .none, .ok (.statements [⟨.iri "s", .iri "p", .iri "o", none⟩]), .ok .none] ∧
    (∀ t ∈ ts.dropLast, (t.after.connection "a").isActive = true ∧
      (t.after.connection "a").isolation.snapshot = true) ∧
    (∀ t ∈ ts, t.written "a" = []) ∧
    (ts.map fun t => decide (⟨.iri "s", .iri "p", .iri "o", none⟩ ∈ t.view "a")) =
      List.replicate 5 false ++ List.replicate 3 true := by
  obtain ⟨ts, sys, hplay, hcheck⟩ := requests_of_check
    (fun ts _ => decide (ts.map Transition.result = [.ok .none, .ok (.statements []), .ok .none,
        .ok .none, .ok .none, .ok .none,
        .ok (.statements [⟨.iri "s", .iri "p", .iri "o", none⟩]), .ok .none] ∧
      (∀ t ∈ ts.dropLast, (t.after.connection "a").isActive = true ∧
        (t.after.connection "a").isolation.snapshot = true) ∧
      (∀ t ∈ ts, t.written "a" = []) ∧
      (ts.map fun t => decide (⟨.iri "s", .iri "p", .iri "o", none⟩ ∈ t.view "a")) =
        List.replicate 5 false ++ List.replicate 3 true))
    (by decide +kernel : (requests .new [("a", .begin),
      ("a", .getStatements ⟨none, none, none, []⟩ false), ("b", .begin),
      ("b", .addStatement ⟨.iri "s", .iri "p", .iri "o", none⟩), ("b", .commit), ("a", .prepare),
      ("a", .getStatements ⟨none, none, none, []⟩ false), ("a", .commit)]).any _ = true)
  exact ⟨ts, sys, hplay, of_decide_eq_true hcheck⟩

end System

end QuadTxn
