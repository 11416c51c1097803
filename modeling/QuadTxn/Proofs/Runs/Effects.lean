import QuadTxn.Proofs.Calls.Preservation
import QuadTxn.Proofs.Runs.Steps

/-!
# What a step of a system can do

`System.Effect` lists what a step can do to a coherent system (`System.effect_of_step`), and every
step keeps a system coherent (`System.Coherent.step`).
-/

namespace QuadTxn

namespace System

/-! ## Parts of a system -/

section Parts

variable {σ : Type} [Backend σ]

theorem connection_setFrame (sys : System σ) (id : ConnectionId) (st : Frame σ)
    (j : ConnectionId) :
    (sys.setFrame id st).connection j = if j = id then st.self else sys.connection j := by
  rw [connection, setFrame, SortedMap.get?_insert]
  split
  · rfl
  · rfl

theorem connection_setFrame_self (sys : System σ) (id : ConnectionId) (st : Frame σ) :
    (sys.setFrame id st).connection id = st.self := by
  rw [connection_setFrame, if_pos rfl]

theorem connection_setFrame_ne (sys : System σ) {id j : ConnectionId} (st : Frame σ)
    (hj : j ≠ id) : (sys.setFrame id st).connection j = sys.connection j := by
  rw [connection_setFrame, if_neg hj]

theorem frame_setFrame (sys : System σ) (id : ConnectionId) (st : Frame σ) :
    (sys.setFrame id st).frame id = st := by
  rw [System.frame, connection_setFrame_self]
  rfl

/-- A connection that runs a transaction is there. -/
theorem connected_of_active {sys : System σ} {id : ConnectionId}
    (hact : (sys.connection id).isActive = true) : ∃ c, sys.connections.get? id = some c := by
  rcases hget : sys.connections.get? id with _ | c
  · rw [connection, hget] at hact
    cases hact
  · exact ⟨c, rfl⟩

/-- Putting back the frame of a connection that is there changes nothing. -/
theorem setFrame_frame_of_get? {sys : System σ} {id : ConnectionId} {c : Connection σ}
    (hc : sys.connections.get? id = some c) : sys.setFrame id (sys.frame id) = sys := by
  have hsame : sys.connections.insert id (sys.connection id) = sys.connections := by
    ext j : 1
    rw [SortedMap.get?_insert]
    split
    · rename_i hj
      rw [hj, connection, hc]
      rfl
    · rfl
  exact congrArg (System.mk sys.store sys.coordinator) hsame

theorem setFrame_frame {sys : System σ} {id : ConnectionId}
    (hact : (sys.connection id).isActive = true) :
    sys.setFrame id (sys.frame id) = sys := by
  obtain ⟨c, hc⟩ := connected_of_active hact
  exact setFrame_frame_of_get? hc

theorem connection_of_get?_none {sys : System σ} {id : ConnectionId}
    (hget : sys.connections.get? id = none) : sys.connection id = .new id .snapshot := by
  rw [connection, hget]
  rfl

theorem connection_connect (sys : System σ) (id : ConnectionId) (level : IsolationLevel)
    (lockTimeout : Option Nat) (j : ConnectionId) :
    connection
      { sys with connections :=
        sys.connections.insert id { Connection.new id level with lockTimeout := lockTimeout } } j =
      if j = id then { Connection.new id level with lockTimeout := lockTimeout }
      else sys.connection j := by
  rw [connection, SortedMap.get?_insert]
  split
  · rfl
  · rfl

theorem connection_disconnect (sys : System σ) (id : ConnectionId) (st : Frame σ)
    (j : ConnectionId) :
    connection { sys.setFrame id st with
      connections := (sys.setFrame id st).connections.erase id } j =
      if j = id then .new id .snapshot else sys.connection j := by
  by_cases hj : j = id
  · subst hj
    rw [connection, SortedMap.get?_erase, if_pos rfl, if_pos rfl]
    rfl
  · rw [connection, SortedMap.get?_erase, if_neg hj, if_neg hj, ← connection,
      connection_setFrame_ne _ _ hj]

end Parts

/-- The system with a change set announced. -/
def announce (change : ChangeSet) (sys : System Session) : System Session :=
  let (coordinator, connections) := sys.coordinator.publish sys.connections change
  { sys with coordinator, connections }

/-! ## Coherence -/

/-- Every connection has a coherent frame and its own name. -/
structure Coherent (sys : System Session) : Prop where
  /-- the frames are coherent -/
  frame : ∀ id, (sys.frame id).Coherent
  /-- the names are right -/
  name : ∀ id, (sys.connection id).id = id

theorem Coherent.new : (System.new : System Session).Coherent where
  frame := fun id =>
    { sound := .new id .snapshot
      readers := rfl
      writer := by
        change none = some id ↔ Phase.idle = .direct ∨ Phase.idle = .prepared
        simp
      slot := rfl }
  name := fun _ => rfl

section Coherent

variable {sys : System Session} (h : sys.Coherent)

include h

/-- A system stays coherent when a call leaves its frame coherent and changes of what is shared only
its own part. -/
theorem Coherent.setFrame {id : ConnectionId} {st : Frame Session} (hst : st.Coherent)
    (hk : (sys.frame id).Keeps st) : (sys.setFrame id st).Coherent where
  frame := fun j => by
    by_cases hj : j = id
    · rw [hj, frame_setFrame]
      exact hst
    · -- with another connection the frame only shares the gate and the slots
      have hconn := connection_setFrame_ne sys st hj
      have hne : (sys.frame j).self.id ≠ (sys.frame id).self.id := by
        rw [show (sys.frame j).self.id = j from h.name j,
          show (sys.frame id).self.id = id from h.name id]
        exact hj
      have hframe := h.frame j
      refine ⟨?_, hst.readers, ?_, ?_⟩
      · rw [System.frame, hconn]
        exact hframe.sound
      · rw [System.frame, hconn]
        exact (hk.writer _ hne).trans hframe.writer
      · rw [System.frame, hconn]
        exact (hk.slots _ hne).trans hframe.slot
  name := fun j => by
    rw [connection_setFrame]
    split
    · rename_i hj
      rw [hj]
      exact hk.id.trans (h.name id)
    · exact h.name j

end Coherent

/-! ## Announcements -/

/-- A list without repeats modifies each of its keys once. -/
theorem get?_foldl_modify {κ ν : Type} [Ord κ] [DecidableEq κ] {f : ν → ν} {ks : List κ}
    (hks : ks.Nodup) (m : SortedMap κ ν) (k : κ) :
    (ks.foldl (fun m k => m.modify k f) m).get? k =
      if k ∈ ks then (m.get? k).map f else m.get? k := by
  induction ks generalizing m with
  | nil => simp
  | cons k' ks ih =>
    obtain ⟨hnot, hks⟩ := List.nodup_cons.mp hks
    rw [List.foldl_cons, ih hks, SortedMap.get?_modify]
    by_cases hk : k = k'
    · subst hk
      simp [hnot]
    · simp [hk]

section Announce

variable {sys : System Session} (h : sys.Coherent)

include h

/-- A slot refers to the connection that it belongs to. -/
theorem participant_eq {e : ConnectionId × Slot ConnectionId}
    (he : e ∈ sys.coordinator.slots.entries) : e.2.participant = e.1 := by
  have hget : sys.coordinator.slots.get? e.1 = some e.2 := SortedMap.get?_eq_some_iff.mpr he
  have hslot := (h.frame e.1).slot
  rw [show (sys.frame e.1).self.id = e.1 from h.name e.1] at hslot
  rw [show sys.coordinator.slots.get? e.1 = _ from hslot] at hget
  split at hget
  · rw [← Option.some.inj hget]
  · cases hget

/-- There is a slot exactly for each connection that runs a transaction. -/
theorem slot_isSome_iff (id : ConnectionId) :
    (∃ slot, sys.coordinator.slots.get? id = some slot) ↔
      (sys.connection id).isActive = true := by
  have hslot := (h.frame id).slot
  rw [show (sys.frame id).self.id = id from h.name id] at hslot
  rw [show sys.coordinator.slots.get? id = _ from hslot]
  change (∃ slot, (if (sys.connection id).isActive then _ else _) = some slot) ↔ _
  split
  · rename_i hact
    exact iff_of_true ⟨_, rfl⟩ hact
  · rename_i hact
    exact iff_of_false (fun ⟨_, hsome⟩ => nomatch hsome) hact

/-- The registered connections other than the source. -/
theorem addressees_eq (source : ConnectionId) :
    (sys.coordinator.slots.entries.filter fun e => e.1 ≠ source).map (·.2.participant) =
      (sys.coordinator.slots.entries.filter fun e => e.1 ≠ source).map (·.1) :=
  List.map_congr_left fun _ he => participant_eq h (List.mem_filter.mp he).1

theorem audience_nodup (source : ConnectionId) :
    (sys.coordinator.audience sys.connections source).Nodup := by
  rw [Coordinator.audience, addressees_eq h]
  refine List.Pairwise.filter _ (List.pairwise_map.mpr ?_)
  refine (sys.coordinator.slots.sorted.filter _).imp fun hlt heq => ?_
  rw [heq] at hlt
  simp [Std.ReflCmp.compare_self] at hlt

omit h in
theorem any_tracksReads_iff (j : ConnectionId) :
    (sys.connections.get? j).any Participant.tracksReads = true ↔
      (sys.connection j).tracking = true := by
  rw [connection]
  rcases sys.connections.get? j with _ | c
  · exact iff_of_false nofun nofun
  · exact Iff.rfl

theorem mem_audience {source j : ConnectionId} :
    j ∈ sys.coordinator.audience sys.connections source ↔
      (sys.connection j).isActive = true ∧ j ≠ source ∧
        (sys.connection j).tracking = true := by
  rw [Coordinator.audience, addressees_eq h, List.mem_filter, any_tracksReads_iff,
    ← slot_isSome_iff h, List.mem_map]
  constructor
  · rintro ⟨⟨⟨k, slot⟩, he, rfl⟩, htracks⟩
    obtain ⟨hmem, hne⟩ := List.mem_filter.mp he
    exact ⟨⟨slot, SortedMap.get?_eq_some_iff.mpr hmem⟩, by simpa using hne, htracks⟩
  · rintro ⟨⟨slot, hslot⟩, hne, htracks⟩
    have hmem := SortedMap.get?_eq_some_iff.mp hslot
    exact ⟨⟨(j, slot), List.mem_filter.mpr ⟨hmem, by simpa using hne⟩, rfl⟩, htracks⟩

/-- A connection that does not run a transaction is told of nothing. -/
theorem tracking_of_inactive {j : ConnectionId} (hact : (sys.connection j).isActive = false) :
    (sys.connection j).tracking = false :=
  ((h.frame j).idle (Connection.phase_of_inactive hact)).2.1

theorem active_of_tracking {j : ConnectionId} (htracking : (sys.connection j).tracking = true) :
    (sys.connection j).isActive = true := by
  rcases hact : (sys.connection j).isActive with _ | _
  · rw [tracking_of_inactive h hact] at htracking
    cases htracking
  · rfl

/-- An announced change set reaches every connection but its source that tracks its reads. -/
theorem connection_announce {change : ChangeSet}
    (hsource : (sys.connection change.source).tracking = false) (j : ConnectionId) :
    (announce change sys).connection j = (sys.connection j).noteCommit change := by
  have hget : (announce change sys).connections.get? j =
      if j ∈ sys.coordinator.audience sys.connections change.source then
        (sys.connections.get? j).map (Connection.noteCommit change)
      else sys.connections.get? j :=
    get?_foldl_modify (audience_nodup h _) _ _
  rw [connection, hget]
  by_cases hmem : j ∈ sys.coordinator.audience sys.connections change.source
  · obtain ⟨c, hc⟩ := connected_of_active ((mem_audience h).mp hmem).1
    rw [if_pos hmem, connection, hc]
    rfl
  · rw [if_neg hmem]
    have htracking : (sys.connection j).tracking = false := by
      rcases htracks : (sys.connection j).tracking with _ | _
      · rfl
      · rw [mem_audience h] at hmem
        have hact := active_of_tracking h htracks
        have hne : j ≠ change.source := by
          rintro rfl
          rw [hsource] at htracks
          cases htracks
        exact absurd ⟨hact, hne, htracks⟩ hmem
    rw [Connection.noteCommit, if_neg (by simp [htracking])]
    rfl

omit h in
theorem noteCommit_sound {c : Connection Session} (hc : c.Sound) (change : ChangeSet) :
    (c.noteCommit change).Sound := by
  rw [Connection.noteCommit]
  split
  · rename_i htracks
    have hp : c.phase ≠ .idle := by
      intro hidle
      have hphase := hc.inPhase
      rw [Connection.InPhase, hidle] at hphase
      rw [hphase.2.1] at htracks
      cases htracks
    exact hc.note hp _ c.events
  · exact hc

omit h in
/-- Being told of a commit changes the ledger at most. -/
theorem noteCommit_eq {σ : Type} (c : Connection σ) (change : ChangeSet) :
    ∃ ledger, c.noteCommit change = { c with ledger := ledger } := by
  rw [Connection.noteCommit]
  split
  · exact ⟨_, rfl⟩
  · exact ⟨_, rfl⟩

/-- An announcement keeps a system coherent. -/
theorem Coherent.announce {change : ChangeSet}
    (hsource : (sys.connection change.source).tracking = false) :
    (announce change sys).Coherent where
  frame := fun j => by
    have hj := h.frame j
    obtain ⟨ledger, hnote⟩ := noteCommit_eq (sys.connection j) change
    have hsound := noteCommit_sound hj.sound change
    rw [System.frame, connection_announce h hsource]
    rw [show (sys.frame j).self = sys.connection j from rfl] at hsound
    rw [hnote] at hsound ⊢
    exact ⟨hsound, hj.readers, hj.writer, hj.slot⟩
  name := fun j => by
    obtain ⟨ledger, hnote⟩ := noteCommit_eq (sys.connection j) change
    rw [connection_announce h hsource, hnote]
    exact h.name j

end Announce

/-! ## What a step can do -/

/-- What a step of a coherent system can do. -/
inductive Effect (sys : System Session) :
    Occurrence → Except TxnError Answer → System Session → Prop where
  /-- a call other than a commit moves its frame -/
  | move {id : ConnectionId} {req : Request} {r : Except TxnError Answer} {st : Frame Session} :
      req ≠ .commit → (sys.frame id).Moves req r st →
      Effect sys (.request id req) r (sys.setFrame id st)
  /-- a commit fails, and the transaction ends without it -/
  | commitFails {id : ConnectionId} {e : TxnError} {st : Frame Session} :
      (sys.frame id).Commits (.error e) st →
      Effect sys (.request id .commit) (.error e) (sys.setFrame id st)
  /-- there is nothing to commit -/
  | commitSkips {id : ConnectionId} : (sys.connection id).isActive = false →
      Effect sys (.request id .commit) (.ok .none) (sys.setFrame id (sys.frame id))
  /-- a transaction is committed and announced -/
  | commit {id : ConnectionId} {change : ChangeSet} {st : Frame Session} :
      (sys.connection id).isActive = true → (sys.frame id).Commits (.ok (some change)) st →
      Effect sys (.request id .commit) (.ok .none) (announce change (sys.setFrame id st))
  /-- a connection is added -/
  | connect {id : ConnectionId} {level : IsolationLevel} {lockTimeout : Option Nat} :
      sys.connections.get? id = none →
      Effect sys (.connect id level lockTimeout) (.ok .none)
        { sys with connections :=
          sys.connections.insert id { Connection.new id level with lockTimeout := lockTimeout } }
  /-- a connection is taken out -/
  | disconnect {id : ConnectionId} {st : Frame Session} :
      (sys.frame id).Moves .rollback (.ok .none) st →
      Effect sys (.disconnect id) (.ok .none)
        { sys.setFrame id st with connections := (sys.setFrame id st).connections.erase id }
  /-- a statement is put in -/
  | insert {s : Statement} :
      Effect sys (.insert s) (.ok .none) { sys with store := sys.store.insert s }
  /-- the next native prepare is to fail -/
  | failPrepare :
      Effect sys .failPrepare (.ok .none)
        { sys with store := { sys.store with failPrepare := true } }
  /-- the next native commit is to fail -/
  | failCommit :
      Effect sys .failCommit (.ok .none)
        { sys with store := { sys.store with failCommit := true } }
  /-- a commit listener is added -/
  | watch : Effect sys .watch (.ok .none) { sys with coordinator := sys.coordinator.watch }

theorem done?_zoom {s t α : Type} (get : t → s) (put : s → t → t) (st : t) (o : Outcome s α) :
    (o.zoom get put st).done? = o.done?.map fun d => (d.1, put d.2 st) := by
  cases o <;> rfl

theorem done?_on {α : Type} (id : ConnectionId) (call : Call Session α) (sys : System Session) :
    (on id call sys).done? =
      (call (sys.frame id)).done?.map fun d => (d.1, sys.setFrame id d.2) :=
  done?_zoom _ _ _ _

/-- A call that comes to an end without waiting is a step that can be made, with just this end. -/
theorem step_iff_of_done {sys : System Session} {id : ConnectionId} {req : Request}
    (hreq : req ≠ .commit) {r : Except TxnError Answer} {st : Frame Session}
    (hcall : (req.call (sys.frame id)).done? = some (r, st)) {r' : Except TxnError Answer}
    {sys' : System Session} :
    Step sys (.request id req) r' sys' ↔ r' = r ∧ sys' = sys.setFrame id st := by
  rw [Step, Occurrence.act, handle_eq hreq, done?_on, hcall]
  constructor
  · rintro ⟨-, hd⟩
    obtain ⟨rfl, rfl⟩ := Prod.mk.inj (Option.some.inj hd)
    exact ⟨rfl, rfl⟩
  · rintro ⟨rfl, rfl⟩
    exact ⟨trivial, rfl⟩

section Step

variable {sys : System Session} (h : sys.Coherent)

include h

theorem effect_of_request {id : ConnectionId} {req : Request} (hreq : req ≠ .commit)
    {r : Except TxnError Answer} {sys' : System Session}
    (hd : (handle id req sys).done? = some (r, sys')) : Effect sys (.request id req) r sys' := by
  rw [handle_eq hreq, done?_on] at hd
  obtain ⟨⟨r', st⟩, hcall, heq⟩ := Option.map_eq_some_iff.mp hd
  obtain ⟨rfl, rfl⟩ := Prod.mk.inj heq
  exact .move hreq (Frame.moves_of_done (h.frame id) hreq hcall)

/-- A commit of the system is a commit of the connection, and the announcement of what that is to
publish. -/
theorem commit_of_done {id : ConnectionId} {r : Except TxnError Answer} {sys' : System Session}
    (hd : (handle id .commit sys).done? = some (r, sys')) :
    (∃ e st, on id Connection.commit sys = .error e (sys.setFrame id st) ∧
      (sys.frame id).Commits (.error e) st ∧ r = .error e ∧ sys' = sys.setFrame id st) ∨
    ∃ change? st, on id Connection.commit sys = .ok change? (sys.setFrame id st) ∧
      (sys.frame id).Commits (.ok change?) st ∧ r = .ok .none ∧
      sys' = change?.elim (sys.setFrame id st) (announce · (sys.setFrame id st)) := by
  have hon := done?_on id Connection.commit sys
  rw [handle, Action.bind_apply, commit, Action.bind_apply, Outcome.bind_assoc] at hd
  rcases ho : on id Connection.commit sys with ⟨change?, mid⟩ | ⟨e, mid⟩ | _
  · rw [ho, Outcome.done?_ok, eq_comm] at hon
    obtain ⟨⟨r', st⟩, hcall, heq⟩ := Option.map_eq_some_iff.mp hon
    obtain ⟨rfl, rfl⟩ := Prod.mk.inj heq
    rw [ho] at hd
    refine .inr ⟨change?, st, rfl, Frame.commits_of_done (h.frame id) hcall, ?_⟩
    rcases change? with _ | change
    · obtain ⟨rfl, rfl⟩ := Prod.mk.inj (Option.some.inj hd)
      exact ⟨rfl, rfl⟩
    · obtain ⟨rfl, rfl⟩ := Prod.mk.inj (Option.some.inj hd)
      exact ⟨rfl, rfl⟩
  · rw [ho, Outcome.done?_error, eq_comm] at hon
    obtain ⟨⟨r', st⟩, hcall, heq⟩ := Option.map_eq_some_iff.mp hon
    obtain ⟨rfl, rfl⟩ := Prod.mk.inj heq
    rw [ho] at hd
    obtain ⟨rfl, rfl⟩ := Prod.mk.inj (Option.some.inj hd)
    exact .inl ⟨e, st, rfl, Frame.commits_of_done (h.frame id) hcall, rfl, rfl⟩
  · rw [ho] at hd
    cases hd

theorem effect_of_commit {id : ConnectionId} {r : Except TxnError Answer} {sys' : System Session}
    (hd : (handle id .commit sys).done? = some (r, sys')) :
    Effect sys (.request id .commit) r sys' := by
  rcases commit_of_done h hd with ⟨e, st, -, hc, rfl, rfl⟩ | ⟨change?, st, -, hc, rfl, rfl⟩
  · exact .commitFails hc
  · rcases change? with _ | change
    · cases hc with
      | skip hact => exact .commitSkips hact
    · have hact : (sys.connection id).isActive = true := by
        cases hc with
        | done hact => exact hact
      exact .commit hact hc

/-- Every step has one of the listed effects. -/
theorem effect_of_step {o : Occurrence} {r : Except TxnError Answer} {sys' : System Session}
    (hs : Step sys o r sys') : Effect sys o r sys' := by
  obtain ⟨hp, hd⟩ := hs
  cases o with
  | request id req =>
    by_cases hreq : req = .commit
    · subst hreq
      exact effect_of_commit h hd
    · exact effect_of_request h hreq hd
  | connect id level lockTimeout =>
    obtain ⟨rfl, rfl⟩ := Prod.mk.inj (Option.some.inj hd)
    exact .connect hp
  | disconnect id =>
    have hrollback : Connection.rollback (sys.frame id) = _ := Frame.rollback_eq (sys.frame id)
    have hon : on id Connection.rollback sys = .ok ⟨⟩ (sys.setFrame id
        (if (sys.frame id).self.isActive then (sys.frame id).abandoned else sys.frame id)) := by
      rw [on, Action.zoom, hrollback]
      rfl
    simp only [Occurrence.act, disconnect, rollback, Action.bind_apply, Action.attempt_apply, hon]
      at hd
    obtain ⟨rfl, rfl⟩ := Prod.mk.inj (Option.some.inj hd)
    exact .disconnect .rollback
  | insert s =>
    obtain ⟨rfl, rfl⟩ := Prod.mk.inj (Option.some.inj hd)
    exact .insert
  | failPrepare =>
    obtain ⟨rfl, rfl⟩ := Prod.mk.inj (Option.some.inj hd)
    exact .failPrepare
  | failCommit =>
    obtain ⟨rfl, rfl⟩ := Prod.mk.inj (Option.some.inj hd)
    exact .failCommit
  | watch =>
    obtain ⟨rfl, rfl⟩ := Prod.mk.inj (Option.some.inj hd)
    exact .watch

end Step

/-! ## Every step keeps a system coherent -/

/-- A system that differs in nothing that coherence is about is coherent. -/
theorem Coherent.congr {sys sys' : System Session} (h : sys.Coherent)
    (hconn : ∀ id, sys'.connection id = sys.connection id)
    (hgate : sys'.coordinator.gate = sys.coordinator.gate)
    (hslots : sys'.coordinator.slots = sys.coordinator.slots) : sys'.Coherent where
  frame := fun id => by
    have hid := h.frame id
    refine ⟨?_, ?_, ?_, ?_⟩
    · rw [System.frame, hconn]
      exact hid.sound
    · rw [System.frame, hgate]
      exact hid.readers
    · rw [System.frame, hgate, hconn]
      exact hid.writer
    · rw [System.frame, hslots, hconn]
      exact hid.slot
  name := fun id => by rw [hconn, h.name]

/-- A system stays coherent when an idle connection is replaced by another idle one of its name. -/
theorem Coherent.replace {sys sys' : System Session} (h : sys.Coherent) (id : ConnectionId)
    (hidle : (sys.connection id).phase = .idle) (hsound : (sys'.connection id).Sound)
    (hidle' : (sys'.connection id).phase = .idle) (hname : (sys'.connection id).id = id)
    (hconn : ∀ j, j ≠ id → sys'.connection j = sys.connection j)
    (hcoordinator : sys'.coordinator = sys.coordinator) : sys'.Coherent where
  frame := fun j => by
    by_cases hj : j = id
    · subst hj
      have hframe := h.frame j
      have hinactive : (sys.connection j).isActive = false := by
        simp [Connection.isActive, hidle]
      have hinactive' : (sys'.connection j).isActive = false := by
        simp [Connection.isActive, hidle']
      refine ⟨hsound, ?_, ?_, ?_⟩
      · rw [System.frame, hcoordinator]
        exact hframe.readers
      · have hwriter := hframe.writer
        simp only [System.frame, hidle, h.name] at hwriter
        simpa [System.frame, hcoordinator, hidle', hname] using hwriter
      · have hslot := hframe.slot
        simp only [System.frame, hinactive, h.name] at hslot
        simpa [System.frame, hcoordinator, hinactive', hname] using hslot
    · have hframe := h.frame j
      rw [System.frame, hconn j hj, hcoordinator]
      exact ⟨hframe.sound, hframe.readers, hframe.writer, hframe.slot⟩
  name := fun j => by
    by_cases hj : j = id
    · rw [hj, hname]
    · rw [hconn j hj, h.name]

/-- A connection that has committed is told of nothing. -/
theorem tracking_after_commit {sys : System Session} (h : sys.Coherent) {id : ConnectionId}
    {change : ChangeSet} {st : Frame Session}
    (hc : (sys.frame id).Commits (.ok (some change)) st) :
    ((sys.setFrame id st).connection change.source).tracking = false := by
  obtain ⟨hsource, c, hself⟩ := hc.done_self
  have hid : st.self.id = id := (hc.keeps (h.frame id)).id.trans (h.name id)
  rw [hsource, hid, connection_setFrame_self, hself]
  rfl

/-- A commit is noted by the connections that it is announced to. -/
theorem connection_commit {sys : System Session} (h : sys.Coherent) {id : ConnectionId}
    {change : ChangeSet} {st : Frame Session}
    (hc : (sys.frame id).Commits (.ok (some change)) st) (j : ConnectionId) :
    (announce change (sys.setFrame id st)).connection j =
      ((sys.setFrame id st).connection j).noteCommit change := by
  have hset := h.setFrame (hc.coherent (h.frame id)) (hc.keeps (h.frame id))
  exact connection_announce hset (tracking_after_commit h hc) j

/-- Every step keeps a system coherent. -/
theorem Coherent.effect {sys sys' : System Session} (h : sys.Coherent) {o : Occurrence}
    {r : Except TxnError Answer} (he : Effect sys o r sys') : sys'.Coherent := by
  cases he with
  | move _ hm => exact h.setFrame (hm.coherent (h.frame _)) (hm.keeps (h.frame _))
  | commitFails hc => exact h.setFrame (hc.coherent (h.frame _)) (hc.keeps (h.frame _))
  | commitSkips => exact h.setFrame (h.frame _) (.refl _)
  | @commit id change st _ hc =>
    have hkeeps := hc.keeps (h.frame _)
    have hset := h.setFrame (hc.coherent (h.frame _)) hkeeps
    exact hset.announce (tracking_after_commit h hc)
  | @connect id level lockTimeout hget =>
    -- a connection that is not there yet counts as an idle one
    have hold := connection_of_get?_none hget
    have hsound := Connection.Sound.new id level
    have hnew := connection_connect sys id level lockTimeout
    refine h.replace id ?_ ?_ ?_ ?_ ?_ rfl
    · rw [hold]
      rfl
    · rw [hnew, if_pos rfl]
      exact ⟨hsound.inPhase, hsound.consistent, hsound.wellFormed, hsound.covers, hsound.snapshot,
        hsound.tracking⟩
    · rw [hnew, if_pos rfl]
      rfl
    · rw [hnew, if_pos rfl]
      rfl
    · intro j hj
      rw [hnew, if_neg hj]
  | @disconnect id st hm =>
    -- what the rollback leaves is idle, and can be taken out
    have hset := h.setFrame (hm.coherent (h.frame _)) (hm.keeps (h.frame _))
    have hnew := connection_disconnect sys id st
    refine hset.replace id ?_ ?_ ?_ ?_ ?_ rfl
    · rw [connection_setFrame_self]
      exact hm.rollback_idle
    · rw [hnew, if_pos rfl]
      exact .new id .snapshot
    · rw [hnew, if_pos rfl]
      rfl
    · rw [hnew, if_pos rfl]
      rfl
    · intro j hj
      rw [hnew, if_neg hj, connection_setFrame_ne _ _ hj]
  | insert => exact h.congr (fun _ => rfl) rfl rfl
  | failPrepare => exact h.congr (fun _ => rfl) rfl rfl
  | failCommit => exact h.congr (fun _ => rfl) rfl rfl
  | watch => exact h.congr (fun _ => rfl) rfl rfl

theorem Coherent.step {sys sys' : System Session} (h : sys.Coherent) {o : Occurrence}
    {r : Except TxnError Answer} (hs : Step sys o r sys') : sys'.Coherent :=
  h.effect (effect_of_step h hs)

theorem Coherent.run {start sys : System Session} (h : start.Coherent) {ts : List Transition}
    (hr : Run start ts sys) : sys.Coherent := by
  induction hr with
  | nil => exact h
  | snoc _ hs ih => exact ih.step hs

theorem Reachable.coherent {sys : System Session} (h : Reachable sys) : sys.Coherent := by
  obtain ⟨ts, hr⟩ := h
  exact Coherent.new.run hr

end System

end QuadTxn
