import QuadTxn.Proofs.Calls.Preservation

/-!
# The flags and the ledger of a running transaction

Whether a transaction can be prepared is decided by its flags and its ledger. While a transaction
runs, its own calls add its reads to the ledger (`Frame.Moves.ledger`), and there are two requests
that change flags (`Frame.Moves.isolation`). A transaction that has been prepared as a serializable
one has no commit of others in its ledger (`Connection.Unopposed`).
-/

namespace QuadTxn

/-- The read that a request adds to the ledger of a running transaction, if any. -/
def Request.observed? (i : Isolation) (req : Request) : Except TxnError Answer → Option Read
  | .ok _ => if i.snapshot then req.read? else none
  | .error _ => none

theorem Request.observed?_of_no_read {i : Isolation} {req : Request} (h : req.read? = none)
    (r : Except TxnError Answer) : req.observed? i r = none := by
  cases r with
  | ok => exact (congrArg (if i.snapshot then · else none) h).trans (ite_self none)
  | error => rfl

/-- Only what a request was answered has been read. -/
theorem Request.read?_of_observed {i : Isolation} {req : Request} {r : Except TxnError Answer}
    {read : Read} (h : req.observed? i r = some read) :
    (∃ a, r = .ok a) ∧ req.read? = some read := by
  cases r with
  | ok a =>
    refine ⟨⟨a, rfl⟩, ?_⟩
    rw [Request.observed?] at h
    split at h
    · exact h
    · cases h
  | error => cases h

theorem Request.read?_of_not_onStatements {req : Request} (h : req.onStatements = false) :
    req.read? = none := by
  cases req <;> first | rfl | cases h

/-! ## Commits of others -/

/-- What does not affect a read holds nothing that its footprint selects. -/
theorem Read.unaffected_iff {r : Read} {delta : Model} :
    r.affectedBy delta = false ↔ ∀ p ∈ r.footprint, ∀ s ∈ delta, p.selects s = false := by
  rw [← Bool.not_eq_true, Read.affectedBy_iff]
  constructor
  · intro h p hp s hs
    rw [← Bool.not_eq_true]
    exact fun hselects => h ⟨p, hp, s, hs, hselects⟩
  · rintro h ⟨p, hp, s, hs, hselects⟩
    rw [h p hp s hs] at hselects
    cases hselects

/-- A read that is affected by neither side of the change from one set to another has the same
statements in its footprint in both. -/
theorem Read.agree_of_unaffected {r : Read} {before after : Model}
    (hadded : r.affectedBy (after.diff before) = false)
    (hremoved : r.affectedBy (before.diff after) = false) :
    Model.Agree r.footprint before after :=
  Model.agree_of_diff (Read.unaffected_iff.mp hadded) (Read.unaffected_iff.mp hremoved)

namespace Ledger

variable {l : Ledger} {change : ChangeSet}

theorem changed_reads : (l.changed Read.affectedBy change).2.reads = l.reads := by
  rw [changed]
  split
  · rfl
  · rfl

/-- A commit that is not recorded affects no read. -/
theorem unaffected_of_changed (h : (l.changed Read.affectedBy change).2.changes = []) :
    l.changes = [] ∧ ∀ r ∈ l.reads,
      r.affectedBy change.added = false ∧ r.affectedBy change.removed = false := by
  rw [changed] at h
  split at h
  · simp at h
  · rename_i hnone
    refine ⟨h, fun r hr => ?_⟩
    have hdirection := List.findSome?_eq_none_iff.mp hnone r hr
    rw [Option.map_eq_none_iff, direction?] at hdirection
    split at hdirection
    · cases hdirection
    · rename_i hadded
      split at hdirection
      · cases hdirection
      · rename_i hremoved
        exact ⟨by simpa using hadded, by simpa using hremoved⟩

/-- Nothing is recorded where nothing has been read. -/
theorem changed_of_unread (h : l.reads = []) : (l.changed Read.affectedBy change).2 = l := by
  rw [changed, conflict?, h]
  rfl

end Ledger

/-- No commit of others is in the ledger of a transaction that has been prepared as a serializable
one. -/
def Connection.Unopposed {σ : Type} (c : Connection σ) : Prop :=
  c.phase = .prepared → c.isolation.serializable = true → c.ledger.changes = []

namespace Frame

/-! ## The ledger -/

theorem NativeOnly.ledger {st st' : Frame Session} (h : NativeOnly st st') :
    st'.self.ledger = st.self.ledger := by
  obtain ⟨session, net, rfl⟩ := h
  rfl

theorem write_ledger (st : Frame Session) (kind : BatchKind) (w : Write) :
    (st.write kind w).self.ledger = st.self.ledger := by
  rw [write]
  split
  · exact (writeNative_nativeOnly st w).ledger
  · cases w <;> rfl

theorem foldl_write_ledger (st : Frame Session) (kind : BatchKind) (ws : List Write) :
    (ws.foldl (write kind) st).self.ledger = st.self.ledger := by
  induction ws generalizing st with
  | nil => rfl
  | cons w ws ih => exact (ih _).trans (write_ledger st kind w)

/-- A request on statements that is done adds its read to the ledger, if reads are tracked. -/
theorem perform_ledger {st : Frame Session} (hact : st.self.isActive = true) (req : Request)
    (a : Answer) :
    (st.perform req).self.ledger =
      (req.observed? st.self.isolation (.ok a)).elim st.self.ledger st.self.ledger.observe := by
  obtain ⟨ledger, events, hnoted, -, hledger⟩ := noted_eq st req
  rw [perform, foldl_write_ledger, hnoted, update_self, hledger hact, Request.observed?]

/-- Preparing a transaction leaves its ledger and its flags as they are. -/
theorem prepared_tracking (st : Frame Session) :
    st.engaged.flushed.prepared.self.ledger = st.self.ledger ∧
      st.engaged.flushed.prepared.self.isolation = st.self.isolation := by
  obtain ⟨session, net, gate, heq⟩ := prepared_eq st
  rw [heq]
  exact ⟨rfl, rfl⟩

/-- A running transaction's own requests add their reads to its ledger. -/
theorem Moves.ledger {st : Frame Session} {req : Request} {r : Except TxnError Answer}
    {st' : Frame Session} (hm : Moves st req r st') (hact : st.self.isActive = true)
    (hact' : st'.self.isActive = true) :
    st'.self.ledger =
      (req.observed? st.self.isolation r).elim st.self.ledger st.self.ledger.observe := by
  have hquiet : ∀ {req : Request} {r : Except TxnError Answer}, req.onStatements = false →
      (req.observed? st.self.isolation r).elim st.self.ledger st.self.ledger.observe =
        st.self.ledger := by
    intro req r hon
    rw [Request.observed?_of_no_read (Request.read?_of_not_onStatements hon)]
    rfl
  have hidle : st.self.phase ≠ .idle := Connection.isActive_iff.mp hact
  cases hm with
  | refused => rfl
  | statements => exact perform_ledger hact req _
  | binding hb =>
    exact (write_ledger st _ _).trans (hquiet (Request.onStatements_of_binding hb)).symm
  | bindings => exact (hquiet rfl).symm
  | lookup => exact (hquiet rfl).symm
  | beginStaged hp => exact absurd hp hidle
  | beginDirect hp => exact absurd hp hidle
  | beginTimeout hp => exact absurd hp hidle
  | prepare hp =>
    rw [hquiet rfl]
    cases hp with
    | skip => rfl
    | done => exact (prepared_tracking st).1
    | timeout => cases hact'
    | conflict => cases hact'
    | failed => cases hact'
  | rollback =>
    rw [if_pos hact] at hact'
    cases hact'
  | flags hi => exact (hquiet (Request.onStatements_of_flags hi)).symm
  | switch hs =>
    rw [hquiet (by rw [hs.1]; rfl)]
    exact (flushed_nativeOnly st.locked.opened).ledger
  | switchTimeout => rfl
  | listen => exact (hquiet rfl).symm
  | unlisten => exact (hquiet rfl).symm

/-! ## The flags -/

/-- The request clears all flags of a transaction that tracks its reads and writes through. -/
def Clears (st : Frame Session) (req : Request) : Prop :=
  req = .setIsolation .writeThrough ∧ st.self.isolation.readSnapshot = false ∧
    st.self.isolation.snapshot = true

/-- The flags of a running transaction stay what they are, unless staging is given up or all flags
are cleared. -/
theorem Moves.isolation {st : Frame Session} (h : st.Coherent) (hact : st.self.isActive = true)
    {req : Request} {r : Except TxnError Answer} {st' : Frame Session} (hm : Moves st req r st') :
    st'.self.isolation = st.self.isolation ∨
      (req = .setReadSnapshot false ∧ r = .ok .none ∧ st.self.isolation.readSnapshot = true ∧
        st'.self.isolation = { st.self.isolation with readSnapshot := false }) ∨
      (st.Clears req ∧ r = .ok .none ∧ st'.self.isolation = ⟨false, false, false⟩) := by
  cases hm with
  | statements => exact .inl (perform_continues st req).isolation
  | binding => exact .inl (write_continues st _ _).isolation
  | prepare hp =>
    refine .inl ?_
    cases hp with
    | done => exact (prepared_tracking st).2
    | _ => rfl
  | rollback =>
    rw [if_pos hact]
    exact .inl rfl
  | flags hi hr hs =>
    rcases flags_active h hact hi hr hs with rfl | ⟨hreq, rfl, hread, hsnap⟩
    · exact .inl rfl
    · exact .inr (.inr ⟨⟨hreq, hread, hsnap⟩, rfl, rfl⟩)
  | switch hs =>
    refine .inr (.inl ⟨hs.1, rfl, hs.2.2, ?_⟩)
    exact congrArg (fun i : Isolation => { i with readSnapshot := false })
      (flushed_nativeOnly st.locked.opened).continues.isolation
  | _ => exact .inl rfl

/-- A request that clears the flags is never refused. -/
theorem Clears.moves {st : Frame Session} {req : Request} (hc : st.Clears req)
    {r : Except TxnError Answer} {st' : Frame Session} (hm : Moves st req r st') :
    r = .ok .none ∧ st'.self.isolation = ⟨false, false, false⟩ := by
  obtain ⟨rfl, hread, -⟩ := hc
  cases hm with
  | refused hr =>
    have hlevel : st.self.level = .writeThrough := by
      simp [Connection.level, Isolation.level, hread]
    obtain ⟨⟨-, hne⟩, -⟩ := Option.ite_none_right_eq_some.mp hr
    exact absurd hlevel hne
  | statements hon => cases hon
  | binding hb => cases hb
  | flags hi =>
    obtain rfl := Option.some.inj hi
    exact ⟨rfl, rfl⟩
  | switch hs => cases hs.1
  | switchTimeout hs => cases hs.1

/-- A setter that is refused while a transaction runs says that the isolation is locked. -/
theorem refusal?_of_flags {st : Frame Session} {req : Request} {i : Isolation}
    (hi : req.flags? st.self.isolation = some i) {e : TxnError} (hr : st.refusal? req = some e) :
    ∃ reason, e = .isolationLocked reason := by
  cases req with
  | setReadSnapshot on =>
    simp only [refusal?] at hr
    split at hr
    · split at hr
      · obtain ⟨-, he⟩ := Option.ite_none_right_eq_some.mp hr
        exact ⟨_, (Option.some.inj he).symm⟩
      · exact ⟨_, (Option.some.inj hr).symm⟩
      · cases hr
    · cases hr
  | setSnapshot on => exact ⟨_, (Option.some.inj (Option.ite_none_right_eq_some.mp hr).2).symm⟩
  | setSerializable on => exact ⟨_, (Option.some.inj (Option.ite_none_right_eq_some.mp hr).2).symm⟩
  | setIsolation level => exact ⟨_, (Option.some.inj (Option.ite_none_right_eq_some.mp hr).2).symm⟩
  | _ => cases hi

/-- A setter that would change what a running transaction tracks is refused, unless it clears all
flags. -/
theorem locked_of_flags {st : Frame Session} (h : st.Coherent) (hact : st.self.isActive = true)
    {req : Request} {i : Isolation} (hi : req.flags? st.self.isolation = some i)
    (hne : i.snapshot ≠ st.self.isolation.snapshot ∨
      i.serializable ≠ st.self.isolation.serializable)
    (hc : ¬st.Clears req) : ∃ reason, st.refusal? req = some (.isolationLocked reason) := by
  rcases hr : st.refusal? req with _ | e
  · have hs : ¬st.Switches req := by
      rintro ⟨rfl, -, -⟩
      obtain rfl := Option.some.inj hi
      exact hne.elim (absurd rfl) (absurd rfl)
    rcases flags_active h hact hi hr hs with rfl | ⟨hreq, -, hread, hsnap⟩
    · exact hne.elim (absurd rfl) (absurd rfl)
    · exact absurd ⟨hreq, hread, hsnap⟩ hc
  · obtain ⟨reason, rfl⟩ := refusal?_of_flags hi hr
    exact ⟨reason, rfl⟩

/-! ## Preparing -/

/-- A prepared transaction was prepared before, or has just passed the check of its ledger. -/
theorem Moves.prepared_cases {st : Frame Session} {req : Request} {r : Except TxnError Answer}
    {st' : Frame Session} (hm : Moves st req r st') (hp' : st'.self.phase = .prepared) :
    st.self.phase = .prepared ∨ st.verdict? = none ∧ st'.self.ledger = st.self.ledger ∧
      st'.self.isolation = st.self.isolation := by
  cases hm with
  | statements => exact .inl ((perform_continues st req).phase ▸ hp')
  | binding => exact .inl ((write_continues st _ _).phase ▸ hp')
  | beginStaged => cases hp'
  | beginDirect => cases hp'
  | beginTimeout => cases hp'
  | prepare hp =>
    cases hp with
    | skip => exact .inl hp'
    | done _ _ hv => exact .inr ⟨hv, prepared_tracking st⟩
    | timeout => cases hp'
    | conflict => cases hp'
    | failed => cases hp'
  | rollback =>
    split at hp'
    · cases hp'
    · exact .inl hp'
  | switch => cases hp'
  | _ => exact .inl hp'

/-- A transaction that passes the check of its ledger as a serializable one has no commit of others
in it. -/
theorem changes_of_verdict {st : Frame Session} (hser : st.self.isolation.serializable = true)
    (hv : st.verdict? = none) : st.self.ledger.changes = [] := by
  rw [verdict?, if_pos hser, Option.map_eq_none_iff, Ledger.firstConflict?,
    Option.map_eq_none_iff] at hv
  exact List.head?_eq_none_iff.mp hv

theorem Moves.unopposed {st : Frame Session} (h : st.Coherent) (hu : st.self.Unopposed)
    {req : Request} {r : Except TxnError Answer} {st' : Frame Session} (hm : Moves st req r st') :
    st'.self.Unopposed := by
  intro hp' hser
  rcases hm.prepared_cases hp' with hp | ⟨hv, hledger, hisolation⟩
  · have hact : st.self.isActive = true := by simp [Connection.isActive, hp]
    have hact' : st'.self.isActive = true := by simp [Connection.isActive, hp']
    -- no call makes a transaction serializable that is not
    have hser₀ : st.self.isolation.serializable = true := by
      rcases hm.isolation h hact with heq | ⟨-, -, -, heq⟩ | ⟨-, -, heq⟩
      · rwa [heq] at hser
      · rwa [heq] at hser
      · rw [heq] at hser
        cases hser
    have hchanges := hu hp hser₀
    rw [hm.ledger hact hact']
    rcases req.observed? st.self.isolation r with _ | read
    · exact hchanges
    · exact List.map_eq_nil_iff.mpr hchanges
  · rw [hisolation] at hser
    rw [hledger]
    exact changes_of_verdict hser hv

/-- A serializable transaction that can be prepared has no commit of others in its ledger. -/
theorem Prepares.changes {st : Frame Session} (hu : st.self.Unopposed)
    (hact : st.self.isActive = true) (hser : st.self.isolation.serializable = true)
    {st' : Frame Session} (hp : Prepares st (.ok ()) st') : st.self.ledger.changes = [] := by
  cases hp with
  | skip hw => exact hu (prepared_of_unwritable hact hw) hser
  | done _ _ hv => exact changes_of_verdict hser hv

end Frame

end QuadTxn
