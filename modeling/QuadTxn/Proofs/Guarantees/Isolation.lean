import QuadTxn.Proofs.Runs.Invariants

/-!
# The guarantee that a transaction began with

While a transaction runs, the flags that say what it tracks cannot be changed, with one exception:
`setIsolation` compares levels, and flags which track reads but write through count as the level
write-through. So a transaction that has given up staging can have this level set, and then nothing
is tracked any more. `System.guarantee_lost_iff_cleared` says that this is the only way to lose the
guarantee, and `System.cleared_transaction_is_prepared` is a run in which a serializable
transaction loses it and is prepared in spite of a conflict.
-/

namespace QuadTxn

/-- A step sets a running transaction of a connection to write-through, where it writes through
already and still tracks its reads. -/
def Transition.Clears (id : ConnectionId) (t : Transition) : Prop :=
  t.occurrence = .request id (.setIsolation .writeThrough) ∧
    (t.before.connection id).isolation.readSnapshot = false ∧
    (t.before.connection id).isolation.snapshot = true

namespace System

/-! ## Along the life of a transaction -/

/-- How the present flags of a transaction come from those that it began with. -/
structure Guarded (id : ConnectionId) (ts : List Transition) (first now : Isolation) : Prop where
  /-- what is tracked is what was tracked, or has been cleared -/
  tracked : (∀ t ∈ ts, ¬t.Clears id) ∧ now.snapshot = first.snapshot ∧
      now.serializable = first.serializable ∨
    (∃ t ∈ ts, t.Clears id) ∧ first.snapshot = true ∧ now = ⟨false, false, false⟩
  /-- staging goes on, or has been given up -/
  staged : now.readSnapshot = first.readSnapshot ∨
    first.readSnapshot = true ∧ now.readSnapshot = false ∧
      ∃ t ∈ ts, t.occurrence = .request id (.setReadSnapshot false) ∧ t.result = .ok .none

theorem Guarded.refl (id : ConnectionId) (i : Isolation) : Guarded id [] i i :=
  ⟨.inl ⟨fun _ ht => (nomatch ht), rfl, rfl⟩, .inl rfl⟩

section Guarded

variable {id : ConnectionId} {ts : List Transition} {first now : Isolation} {t : Transition}

/-- A step that leaves the flags as they are. -/
theorem Guarded.keep (hg : Guarded id ts first now) (ht : ¬t.Clears id) :
    Guarded id (ts ++ [t]) first now where
  tracked := by
    rcases hg.tracked with ⟨hnone, hsame⟩ | ⟨⟨t', ht', hclears⟩, hcleared⟩
    · refine .inl ⟨fun t' ht' => ?_, hsame⟩
      rcases List.mem_append.mp ht' with ht' | ht'
      · exact hnone t' ht'
      · rwa [List.mem_singleton.mp ht']
    · exact .inr ⟨⟨t', List.mem_append_left _ ht', hclears⟩, hcleared⟩
  staged := by
    rcases hg.staged with hsame | ⟨hfirst, hnow, t', ht', hgiven⟩
    · exact .inl hsame
    · exact .inr ⟨hfirst, hnow, t', List.mem_append_left _ ht', hgiven⟩

/-- A step that gives up staging. -/
theorem Guarded.unstage (hg : Guarded id ts first now) (ht : ¬t.Clears id)
    (hread : now.readSnapshot = true)
    (ho : t.occurrence = .request id (.setReadSnapshot false)) (hr : t.result = .ok .none) :
    Guarded id (ts ++ [t]) first { now with readSnapshot := false } where
  tracked := by
    rcases (hg.keep ht).tracked with hsame | ⟨-, -, rfl⟩
    · exact .inl hsame
    · cases hread
  staged := by
    have hfirst : first.readSnapshot = true := by
      rcases hg.staged with hsame | ⟨hfirst, -⟩
      · rwa [hsame] at hread
      · exact hfirst
    exact .inr ⟨hfirst, rfl, t, List.mem_append_right _ List.mem_cons_self, ho, hr⟩

/-- A step that clears the flags. -/
theorem Guarded.clear (hg : Guarded id ts first now) (ht : t.Clears id)
    (hread : now.readSnapshot = false) (hsnap : now.snapshot = true) :
    Guarded id (ts ++ [t]) first ⟨false, false, false⟩ where
  tracked := by
    refine .inr ⟨⟨t, List.mem_append_right _ List.mem_cons_self, ht⟩, ?_, rfl⟩
    rcases hg.tracked with ⟨-, hsame, -⟩ | ⟨-, hfirst, -⟩
    · rwa [hsame] at hsnap
    · exact hfirst
  staged := by
    rcases hg.staged with hsame | ⟨hfirst, -, t', ht', hgiven⟩
    · exact .inl (hread.symm.trans hsame)
    · exact .inr ⟨hfirst, rfl, t', List.mem_append_left _ ht', hgiven⟩

end Guarded

/-- Along the life of a transaction its flags stay guarded, and it is not prepared against its
ledger. -/
theorem guarded_of_run {start sys : System Session} {ts : List Transition}
    (hr : Run start ts sys) (h : start.Coherent) {id : ConnectionId}
    (hstart : (start.connection id).isActive = true) (hopposed : (start.connection id).Unopposed)
    (hact : ∀ t ∈ ts, (t.after.connection id).isActive = true) :
    (sys.connection id).isActive = true ∧ (sys.connection id).Unopposed ∧
      Guarded id ts (start.connection id).isolation (sys.connection id).isolation := by
  induction hr with
  | nil => exact ⟨hstart, hopposed, .refl id _⟩
  | @snoc ts sys sys' o r hr hs ih =>
    obtain ⟨hearly, hafter⟩ := Transition.forall_snoc hact
    obtain ⟨hbefore, hu, hg⟩ := ih hearly
    have hsys := h.run hr
    refine ⟨hafter, ?_⟩
    rcases active_step hsys (effect_of_step hsys hs) hafter with
      ⟨req, rfl, hm⟩ | ⟨hown, hpass⟩
    · -- the three ends of a request of the connection's own are the three steps above
      refine ⟨hm.unopposed (hsys.frame id) hu, ?_⟩
      by_cases hc : (sys.frame id).Clears req
      · have hi : (sys'.connection id).isolation = _ := (hc.moves hm).2
        rw [hi]
        exact hg.clear ⟨by rw [hc.1], hc.2⟩ hc.2.1 hc.2.2
      · have hkeep : ¬Transition.Clears id ⟨sys, .request id req, r, sys'⟩ := by
          rintro ⟨hreq, hflags⟩
          cases hreq
          exact hc ⟨rfl, hflags⟩
        rcases hm.isolation (hsys.frame id) hbefore with hi | ⟨rfl, rfl, hread, hi⟩ | ⟨hc', -⟩
        · have hi : (sys'.connection id).isolation = _ := hi
          rw [hi]
          exact hg.keep hkeep
        · have hi : (sys'.connection id).isolation = _ := hi
          rw [hi]
          exact hg.unstage hkeep hread rfl rfl
        · exact absurd hc' hc
    · obtain ⟨ledger, hconn⟩ := hpass.self
      have hkeep : ¬Transition.Clears id ⟨sys, o, r, sys'⟩ := fun ⟨hreq, _⟩ => hown _ hreq
      refine ⟨hpass.unopposed hsys hu, ?_⟩
      rw [hconn]
      exact hg.keep hkeep

/-! ## Setters -/

/-- A setter that would change what a running transaction tracks is answered that the isolation is
locked, unless it clears the flags. -/
theorem locked_iff_not_clears {sys : System Session} (h : sys.Coherent) {id : ConnectionId}
    (hact : (sys.connection id).isActive = true) {req : Request} {i : Isolation}
    (hi : req.flags? (sys.connection id).isolation = some i)
    (hne : i.snapshot ≠ (sys.connection id).isolation.snapshot ∨
      i.serializable ≠ (sys.connection id).isolation.serializable) :
    (∃ reason sys', Step sys (.request id req) (.error (.isolationLocked reason)) sys' ∧
      sys'.connection id = sys.connection id) ↔ ¬(sys.frame id).Clears req := by
  constructor
  · rintro ⟨reason, sys', hs, -⟩ hc
    cases effect_of_step h hs with
    | move _ hm => exact nomatch (hc.moves hm).1
    | commitFails => exact nomatch hi
  · intro hc
    obtain ⟨reason, hr⟩ := Frame.locked_of_flags (h.frame id) hact hi hne hc
    have hreq : req ≠ .commit := by
      rintro rfl
      cases hi
    refine ⟨reason, sys.setFrame id (sys.frame id), ⟨trivial, ?_⟩, ?_⟩
    · rw [Occurrence.act, handle_eq hreq, done?_on, Frame.call_refused hr]
      rfl
    · rw [connection_setFrame_self]
      rfl

/-! ## The guarantee -/

/-- From the beginning of a transaction on, what it tracks stays as it was exactly as long as no
step clears it, and staging can only be given up, on request. A setter that would change what is
tracked is answered that the isolation is locked exactly if it does not clear it. And unless it is
cleared, a transaction that began serializable is neither prepared nor committed once its ledger
has taken down a commit of another connection. -/
theorem guarantee_lost_iff_cleared {sys start last : System Session} (hreach : Reachable sys)
    {id : ConnectionId} {a : Answer} (hbegin : Step sys (.request id .begin) (.ok a) start)
    {ts : List Transition} (hr : Run start ts last)
    (hact : ∀ t ∈ ts, (t.after.connection id).isActive = true) :
    let first := (sys.connection id).isolation
    let now := (last.connection id).isolation
    (¬(now.snapshot = first.snapshot ∧ now.serializable = first.serializable) ↔
      ∃ t ∈ ts, t.Clears id) ∧
    (now.readSnapshot = first.readSnapshot ∨
      first.readSnapshot = true ∧ now.readSnapshot = false ∧
        ∃ t ∈ ts, t.occurrence = .request id (.setReadSnapshot false) ∧ t.result = .ok .none) ∧
    (∀ req i, req.flags? now = some i →
      (i.snapshot ≠ now.snapshot ∨ i.serializable ≠ now.serializable) →
      ((∃ reason sys', Step last (.request id req) (.error (.isolationLocked reason)) sys' ∧
        sys'.connection id = last.connection id) ↔ ¬(last.frame id).Clears req)) ∧
    ((¬∃ t ∈ ts, t.Clears id) → first.serializable = true →
      (last.connection id).ledger.changes ≠ [] →
      ∀ req, req = .prepare ∨ req = .commit →
        ∀ a sys', ¬Step last (.request id req) (.ok a) sys') := by
  intro first now
  have h := hreach.coherent
  obtain ⟨-, hstart, hunprepared, -, hfirst⟩ := begun_of_step h hbegin
  obtain ⟨hlast, hu, hg⟩ := guarded_of_run hr (h.step hbegin) hstart
    (fun hprepared => absurd hprepared hunprepared) hact
  rw [hfirst] at hg
  have hcoherent := (h.step hbegin).run hr
  refine ⟨⟨fun hlost => ?_, fun hclears hsame => ?_⟩, hg.staged,
    fun req i hi hne => locked_iff_not_clears hcoherent hlast hi hne,
    fun hnone hser hchanges req hreq a sys' hs => ?_⟩
  · rcases hg.tracked with ⟨-, hsame⟩ | ⟨hclears, -⟩
    · exact absurd hsame hlost
    · exact hclears
  · rcases hg.tracked with ⟨hnone, -⟩ | ⟨-, hsnap, hcleared⟩
    · obtain ⟨t, ht, hclears⟩ := hclears
      exact hnone t ht hclears
    · have hnow : now.snapshot = false := congrArg Isolation.snapshot hcleared
      rw [hsame.1, hsnap] at hnow
      cases hnow
  · rcases hg.tracked with ⟨-, -, hsame⟩ | ⟨hclears, -⟩
    · exact hchanges (changes_of_prepare hcoherent hlast hu (hsame.trans hser) hreq hs)
    · exact hnone hclears

/-- A serializable transaction that has read everything is neither prepared nor committed after
another connection has committed a statement, even when it gives up staging. -/
theorem serializable_transaction_stays_opposed : ∃ ts sys,
    requests .new [("a", .setIsolation .serializable), ("a", .begin),
      ("a", .getStatements ⟨none, none, none, []⟩ false), ("b", .begin),
      ("b", .addStatement ⟨.iri "s", .iri "p", .iri "o", none⟩), ("b", .commit),
      ("a", .setReadSnapshot false)] = some (ts, sys) ∧
    ∀ req, req = .prepare ∨ req = .commit →
      ∀ a sys', ¬Step sys (.request "a" req) (.ok a) sys' := by
  obtain ⟨ts, sys, hplay, hcheck⟩ := requests_of_check
    (fun ts sys =>
      (ts[1]?.any fun t => t.result.isOk && (t.before.connection "a").isolation.serializable) &&
      ((ts.drop 2).all fun t =>
        (t.after.connection "a").isActive && (t.before.connection "a").isolation.readSnapshot) &&
      !(sys.connection "a").ledger.changes.isEmpty)
    (by decide +kernel : (requests .new [("a", .setIsolation .serializable), ("a", .begin),
      ("a", .getStatements ⟨none, none, none, []⟩ false), ("b", .begin),
      ("b", .addStatement ⟨.iri "s", .iri "p", .iri "o", none⟩), ("b", .commit),
      ("a", .setReadSnapshot false)]).any _ = true)
  refine ⟨ts, sys, hplay, ?_⟩
  obtain ⟨_, ready, _, rfl, hfirst, hplay⟩ := requests_cons hplay
  obtain ⟨r, start, rest, rfl, hbegin, hrest⟩ := requests_cons hplay
  simp only [Bool.and_eq_true, List.all_eq_true] at hcheck
  obtain ⟨⟨hbegun, hlife⟩, hchanges⟩ := hcheck
  cases r with
  | error => cases hbegun
  | ok a =>
    refine (guarantee_lost_iff_cleared ⟨_, Run.nil.snoc hfirst⟩ hbegin (run_of_requests hrest).1
      fun t ht => (hlife t ht).1).2.2.2 ?_ hbegun ?_
    · rintro ⟨t, ht, -, hread, -⟩
      rw [(hlife t ht).2] at hread
      cases hread
    · intro hnil
      rw [hnil] at hchanges
      cases hchanges

/-- A serializable transaction has read everything, and another connection has committed a
statement. It gives up staging, is set to write-through, and then it is prepared. -/
theorem cleared_transaction_is_prepared : ∃ ts sys,
    requests .new [("a", .setIsolation .serializable), ("a", .begin),
      ("a", .getStatements ⟨none, none, none, []⟩ false), ("b", .begin),
      ("b", .addStatement ⟨.iri "s", .iri "p", .iri "o", none⟩), ("b", .commit),
      ("a", .setReadSnapshot false), ("a", .setIsolation .writeThrough), ("a", .prepare)] =
        some (ts, sys) ∧
    (∀ t ∈ ts, t.result.isOk = true) ∧
    (ts.map fun t => (t.after.connection "a").isolation) =
      List.replicate 6 ⟨true, true, true⟩ ++ [⟨false, true, true⟩, ⟨false, false, false⟩,
        ⟨false, false, false⟩] ∧
    (sys.connection "a").ledger.changes ≠ [] ∧ (sys.connection "a").phase = .prepared := by
  obtain ⟨ts, sys, hplay, hcheck⟩ := requests_of_check
    (fun ts sys => decide ((∀ t ∈ ts, t.result.isOk = true) ∧
      (ts.map fun t => (t.after.connection "a").isolation) =
        List.replicate 6 ⟨true, true, true⟩ ++ [⟨false, true, true⟩, ⟨false, false, false⟩,
          ⟨false, false, false⟩] ∧
      (sys.connection "a").ledger.changes ≠ [] ∧ (sys.connection "a").phase = .prepared))
    (by decide +kernel : (requests .new [("a", .setIsolation .serializable), ("a", .begin),
      ("a", .getStatements ⟨none, none, none, []⟩ false), ("b", .begin),
      ("b", .addStatement ⟨.iri "s", .iri "p", .iri "o", none⟩), ("b", .commit),
      ("a", .setReadSnapshot false), ("a", .setIsolation .writeThrough),
      ("a", .prepare)]).any _ = true)
  exact ⟨ts, sys, hplay, of_decide_eq_true hcheck⟩

end System

end QuadTxn
