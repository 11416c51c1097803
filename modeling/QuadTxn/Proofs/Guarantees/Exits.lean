import QuadTxn.Proofs.Runs.Passing

/-!
# Leaving a transaction without a commit

A transaction is left without a commit when it cannot begin, cannot be prepared, cannot be
committed, or is rolled back. How much has been done by then differs: the gate may still be waited
for, or be held; what is staged may have been written natively; the store may fail at two points.
Still each of these exits has the same effect (`System.exit_unwinds`): what is committed is as it
was, the gate and the slot are given back, and the connection has forgotten its transaction.

The reason is that a transaction on its way to a commit has touched nothing of others
(`Frame.Underway`), and that all exits give up such a transaction in the same way.
-/

namespace QuadTxn

namespace Frame

/-! ## Giving a transaction up -/

/-- The transaction of a connection runs, and has touched nothing of others. -/
structure Underway (st now : Frame Session) : Prop where
  /-- of what the connections share, only the connection's own part differs -/
  keeps : Keeps st now
  /-- nobody reads -/
  readers : now.coordinator.gate.readers = []
  /-- the transaction is registered, and not marked as committed -/
  slot : now.coordinator.slots.get? st.self.id = some ⟨st.self.id, false⟩
  /-- no commit is counted -/
  committed : now.coordinator.committed = st.coordinator.committed
  /-- nothing is counted as aborted -/
  aborted : now.coordinator.aborted = st.coordinator.aborted
  /-- nothing has been committed -/
  contents : now.store.contents = st.store.contents
  /-- the store has its version -/
  version : now.store.version = st.store.version
  /-- what remains of the connection after the transaction is what remained of it before -/
  ended : now.self.ended = st.self.ended

/-- The transaction of a connection is given up. -/
structure Unwound (st st' : Frame Session) : Prop where
  /-- of what the connections share, only the connection's own part differs -/
  keeps : Keeps st st'
  /-- nobody reads -/
  readers : st'.coordinator.gate.readers = []
  /-- the gate is given back -/
  writer : st'.coordinator.gate.writer ≠ some st.self.id
  /-- the slot is released -/
  slot : st'.coordinator.slots.get? st.self.id = none
  /-- no commit is counted -/
  committed : st'.coordinator.committed = st.coordinator.committed
  /-- the transaction is counted as aborted -/
  aborted : st'.coordinator.aborted = st.coordinator.aborted + 1
  /-- nothing has been committed -/
  contents : st'.store.contents = st.store.contents
  /-- the store has its version -/
  version : st'.store.version = st.store.version
  /-- the transaction is forgotten -/
  self : st'.self = st.self.ended

section Released

variable {k : Coordinator ConnectionId} {id : ConnectionId}

theorem released_writer_self : (released k id).gate.writer ≠ some id := by
  rw [released_gate, Gate.release]
  by_cases hown : k.gate.writer = some id
  · simp [hown]
  · simp [hown]

/-- A released slot counts once. -/
theorem released_counts (hslot : k.slots.get? id = some ⟨id, false⟩) :
    (released k id).committed = k.committed ∧ (released k id).aborted = k.aborted + 1 := by
  simp [released, Coordinator.finish, hslot]

end Released

theorem Underway.unwound {st now : Frame Session} (h : Underway st now) :
    Unwound st now.abandoned := by
  have hid : now.self.id = st.self.id := h.keeps.id
  have hslot : now.coordinator.slots.get? now.self.id = some ⟨now.self.id, false⟩ := by
    rw [hid]
    exact h.slot
  obtain ⟨hcommitted, haborted⟩ := released_counts hslot
  exact
    { keeps := h.keeps.trans (abandoned_keeps now)
      readers := (congrArg Gate.readers (released_gate _ _)).trans h.readers
      writer := hid ▸ released_writer_self
      slot := (released_slots _ _ _).trans (if_pos hid.symm)
      committed := hcommitted.trans h.committed
      aborted := haborted.trans (congrArg (· + 1) h.aborted)
      contents := h.contents
      version := h.version
      self := h.ended }

/-- That the store has failed makes no difference. -/
theorem Unwound.withStore {st st' : Frame Session} (h : Unwound st st') {store : Store}
    (hcontents : store.contents = st'.store.contents)
    (hversion : store.version = st'.store.version) : Unwound st { st' with store := store } :=
  { h with
    keeps := ⟨h.keeps.id, h.keeps.watchers, h.keeps.told, h.keeps.slots, h.keeps.writer⟩
    contents := hcontents.trans h.contents
    version := hversion.trans h.version }

/-! ## The exits -/

section Exits

variable {st : Frame Session} (h : st.Coherent)

include h

theorem Coherent.underway (hact : st.self.isActive = true) : Underway st st where
  keeps := .refl st
  readers := h.readers
  slot := by rw [h.slot, if_pos hact]
  committed := rfl
  aborted := rfl
  contents := rfl
  version := rfl
  ended := rfl

theorem begun_underway : Underway st st.begun where
  keeps := begun_keeps st
  readers := h.readers
  slot := SortedMap.get?_insert_self _ _ _
  committed := rfl
  aborted := rfl
  contents := rfl
  version := rfl
  ended := rfl

theorem Prepares.underway (hact : st.self.isActive = true) {st' : Frame Session}
    (hp : Prepares st (.ok ()) st') : Underway st st' := by
  have hkeeps := hp.keeps h
  have hreaders := (hp.coherent h).readers
  cases hp with
  | skip => exact h.underway hact
  | done =>
    obtain ⟨session, net, gate, heq⟩ := prepared_eq st
    rw [heq] at hkeeps hreaders ⊢
    exact
      { keeps := hkeeps
        readers := hreaders
        slot := (h.underway hact).slot
        committed := rfl
        aborted := rfl
        contents := rfl
        version := rfl
        ended := rfl }

theorem Prepares.unwound {e : TxnError} {st' : Frame Session} (hp : Prepares st (.error e) st') :
    Unwound st st' := by
  cases hp with
  | timeout hstaging =>
    have hact : st.self.isActive = true := Connection.isActive_iff.mpr (by simp [hstaging])
    exact (h.underway hact).unwound
  | conflict hw => exact (h.underway (isActive_of_writable hw)).unwound
  | failed hw => exact (h.underway (isActive_of_writable hw)).unwound.withStore rfl rfl

theorem Commits.unwound {e : TxnError} {st' : Frame Session} (hc : Commits st (.error e) st') :
    Unwound st st' := by
  cases hc with
  | refused _ hp => exact hp.unwound h
  | failed hact hp => exact (hp.underway h hact).unwound.withStore rfl rfl

theorem Moves.begin_unwound {e : TxnError} (he : e ≠ .alreadyActive) {st' : Frame Session}
    (hm : Moves st .begin (.error e) st') : Unwound st st' := by
  cases hm with
  | refused hr =>
    obtain ⟨-, hsome⟩ := Option.ite_none_right_eq_some.mp hr
    exact absurd (Option.some.inj hsome).symm he
  | beginTimeout => exact (begun_underway h).unwound
  | switchTimeout hs => cases hs.1

theorem Moves.rollback_unwound (hact : st.self.isActive = true) {r : Except TxnError Answer}
    {st' : Frame Session} (hm : Moves st .rollback r st') : r = .ok .none ∧ Unwound st st' := by
  obtain ⟨rfl, rfl⟩ := hm.of_rollback
  rw [if_pos hact]
  exact ⟨rfl, (h.underway hact).unwound⟩

end Exits

/-! ## Beginning again -/

/-- A transaction runs that has done nothing so far, and sees what is committed. -/
structure Fresh (st : Frame Session) : Prop where
  /-- the transaction runs -/
  active : st.self.isActive = true
  /-- nothing has been read, and no commit of others is recorded -/
  ledger : st.self.ledger = ∅
  /-- nothing is staged -/
  unstaged : st.self.Unstaged
  /-- nothing has changed -/
  net : st.self.net = ∅
  /-- what is visible is what is committed -/
  visible : st.visible = st.store.contents

theorem Moves.fresh {st : Frame Session} (h : st.Coherent) {a : Answer} {st' : Frame Session}
    (hm : Moves st .begin (.ok a) st') : st'.Fresh := by
  obtain ⟨hp, rfl | rfl⟩ := hm.of_begin
  · have hnone : st.begun.self.session = ⟨none⟩ := (h.idle hp).1
    refine ⟨rfl, rfl, ⟨rfl, rfl, rfl⟩, rfl, ?_⟩
    rw [visible, hnone]
    rfl
  · exact ⟨rfl, rfl, ⟨rfl, rfl, rfl⟩, rfl, rfl⟩

end Frame

namespace System

/-! ## In a system -/

/-- A request that is answered in this way leaves a transaction without a commit. -/
inductive Exit (sys : System Session) (id : ConnectionId) :
    Request → Except TxnError Answer → Prop where
  /-- the transaction cannot begin -/
  | begin {e : TxnError} : e ≠ .alreadyActive → Exit sys id .begin (.error e)
  /-- the transaction cannot be prepared -/
  | prepare {e : TxnError} : Exit sys id .prepare (.error e)
  /-- the transaction cannot be committed -/
  | commit {e : TxnError} : Exit sys id .commit (.error e)
  /-- the transaction is rolled back -/
  | rollback {r : Except TxnError Answer} : (sys.connection id).isActive = true →
      Exit sys id .rollback r

/-- Of the transaction of a connection nothing is left, and nothing else is different. -/
structure Unwound (id : ConnectionId) (sys sys' : System Session) : Prop where
  /-- the committed statements and namespaces are the same -/
  contents : sys'.store.contents = sys.store.contents
  /-- the store has its version -/
  version : sys'.store.version = sys.store.version
  /-- no commit listener is told of anything -/
  told : sys'.coordinator.told = sys.coordinator.told
  /-- nor is another connection -/
  others : ∀ j, j ≠ id → sys'.connection j = sys.connection j
  /-- the gate is free, unless another connection holds it -/
  gate : sys.coordinator.gate.writer = none ∨ sys.coordinator.gate.writer = some id →
    sys'.coordinator.gate = .free
  /-- another connection that holds the gate goes on to hold it -/
  writer : ∀ j, j ≠ id →
    (sys'.coordinator.gate.writer = some j ↔ sys.coordinator.gate.writer = some j)
  /-- the slot is released, and the slots of others stay -/
  slots : ∀ j, sys'.coordinator.slots.get? j =
    if j = id then none else sys.coordinator.slots.get? j
  /-- no commit is counted -/
  committed : sys'.coordinator.committed = sys.coordinator.committed
  /-- one transaction more is counted as aborted -/
  aborted : sys'.coordinator.aborted = sys.coordinator.aborted + 1
  /-- the connection is like a new one, with its flags and listeners, and the account of what those
  were told -/
  self : sys'.connection id =
    { Connection.new id .snapshot with
      isolation := (sys.connection id).isolation
      listeners := (sys.connection id).listeners
      events := (sys.connection id).events
      lockTimeout := (sys.connection id).lockTimeout }

section Coherent

variable {sys sys' : System Session} (h : sys.Coherent) {id : ConnectionId}

include h

theorem unwound_of_frame {st : Frame Session} (hu : (sys.frame id).Unwound st) :
    Unwound id sys (sys.setFrame id st) := by
  have hname : (sys.frame id).self.id = id := h.name id
  have hown : st.coordinator.gate.writer ≠ some id := hname ▸ hu.writer
  have hother : ∀ j, j ≠ id →
      (st.coordinator.gate.writer = some j ↔ sys.coordinator.gate.writer = some j) :=
    fun j hj => hu.keeps.writer j (hname.symm ▸ hj)
  refine
    { contents := hu.contents
      version := hu.version
      told := hu.keeps.told
      others := fun j hj => connection_setFrame_ne sys st hj
      gate := fun hheld => ?_
      writer := hother
      slots := fun j => ?_
      committed := hu.committed
      aborted := hu.aborted
      self := ?_ }
  · have hnone : st.coordinator.gate.writer = none := by
      rcases hw : st.coordinator.gate.writer with _ | j
      · rfl
      · have hj : j ≠ id := fun heq => hown (heq ▸ hw)
        have hbefore := (hother j hj).mp hw
        rcases hheld with hheld | hheld
        · cases hheld.symm.trans hbefore
        · exact absurd (Option.some.inj (hbefore.symm.trans hheld)) hj
    change st.coordinator.gate = ⟨none, []⟩
    rw [← hnone, ← hu.readers]
  · split
    · rename_i hj
      rw [hj, ← hname]
      exact hu.slot
    · rename_i hj
      exact hu.keeps.slots j (hname.symm ▸ hj)
  · rw [connection_setFrame_self, hu.self, Connection.ended, Connection.reset, hname]
    rfl

/-- A transaction that cannot begin, be prepared or be committed, or is rolled back, is given up. -/
theorem unwound_of_exit {req : Request} {r : Except TxnError Answer}
    (hs : Step sys (.request id req) r sys') (hexit : Exit sys id req r) :
    Unwound id sys sys' ∧ (req = .rollback → r = .ok .none) := by
  have hframe := h.frame id
  have heffect := effect_of_step h hs
  cases hexit with
  | begin he =>
    cases heffect with
    | move _ hm => exact ⟨unwound_of_frame h (hm.begin_unwound hframe he), nofun⟩
  | prepare =>
    cases heffect with
    | move _ hm =>
      obtain ⟨r₀, hp, hr⟩ := hm.of_prepare
      cases r₀ with
      | ok => cases hr
      | error => exact ⟨unwound_of_frame h (hp.unwound hframe), nofun⟩
  | commit =>
    cases heffect with
    | move hne => exact absurd rfl hne
    | commitFails hc => exact ⟨unwound_of_frame h (hc.unwound hframe), nofun⟩
  | rollback hact =>
    cases heffect with
    | move _ hm =>
      obtain ⟨hr, hu⟩ := hm.rollback_unwound hframe hact
      exact ⟨unwound_of_frame h hu, fun _ => hr⟩

theorem fresh_of_begin {a : Answer} (hs : Step sys (.request id .begin) (.ok a) sys') :
    (sys'.frame id).Fresh := by
  cases effect_of_step h hs with
  | move _ hm =>
    rw [frame_setFrame]
    exact hm.fresh (h.frame id)

end Coherent

/-- Leaving a transaction without a commit leaves nothing of it: what is committed is as it was, the
gate and the slot are given back, and the connection is like a new one with its flags and listeners.
A rollback always succeeds. Whenever the connection begins again, it begins from nothing. -/
theorem exit_unwinds {sys sys' : System Session} (hreach : Reachable sys) {id : ConnectionId}
    {req : Request} {r : Except TxnError Answer} (hs : Step sys (.request id req) r sys')
    (hexit : Exit sys id req r) :
    Unwound id sys sys' ∧ (req = .rollback → r = .ok .none) ∧
      ∀ {ts : List Transition} {before after : System Session} {a : Answer}, Run sys' ts before →
        Step before (.request id .begin) (.ok a) after → (after.frame id).Fresh := by
  have h := hreach.coherent
  obtain ⟨hunwound, hrollback⟩ := unwound_of_exit h hs hexit
  exact ⟨hunwound, hrollback, fun hr hbegin => fresh_of_begin ((h.step hs).run hr) hbegin⟩

/-- A serializable connection looks for all statements, and another one commits a statement. The
first one cannot be committed, and is left as if it had never begun. -/
theorem refused_commit_unwinds : ∃ answer start ts sys c sys',
    Step .new (.request "a" (.setIsolation .serializable)) (.ok answer) start ∧
    requests start [("a", .begin), ("a", .getStatements ⟨none, none, none, []⟩ false),
      ("b", .begin), ("b", .addStatement ⟨.iri "s", .iri "p", .iri "o", none⟩), ("b", .commit)] =
        some (ts, sys) ∧
    Step sys (.request "a" .commit) (.error (.conflict c)) sys' ∧ Unwound "a" sys sys' ∧
    sys.coordinator.registered = ["a"] ∧ sys'.coordinator.registered = [] := by
  obtain ⟨r, start, ts, sys, r', sys', hset, hplay, hcommit, hcheck⟩ :=
    requests_of_check_ends
      (fun first _ last => first.result.isOk &&
        decide (last.before.coordinator.registered = ["a"] ∧
          last.after.coordinator.registered = []) &&
        match last.result with
        | .error (.conflict _) => true
        | _ => false)
      (by decide +kernel : ((requests .new ([("a", .setIsolation .serializable)] ++
        ([("a", .begin), ("a", .getStatements ⟨none, none, none, []⟩ false), ("b", .begin),
          ("b", .addStatement ⟨.iri "s", .iri "p", .iri "o", none⟩), ("b", .commit)] ++
            [("a", .commit)]))).any _) = true)
  simp only [Bool.and_eq_true, decide_eq_true_eq] at hcheck
  obtain ⟨⟨hok, hregistered⟩, hconflict⟩ := hcheck
  obtain ⟨answer, rfl⟩ := answered_of_isOk hok
  have hreach : Reachable sys := ⟨_, (run_of_requests hplay).1.cons hset⟩
  split at hconflict
  · rename_i c
    exact ⟨answer, start, ts, sys, c, sys', hset, hplay, hcommit,
      (exit_unwinds hreach hcommit .commit).1, hregistered⟩
  · cases hconflict

end System

end QuadTxn
