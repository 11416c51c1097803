import QuadTxn.Proofs.Calls.Converse
import QuadTxn.Proofs.Runs.Publication
import QuadTxn.Proofs.Shadows.Frames

/-!
# A system and its shadow

The shadow of a system is how the system would be had one of its connections not begun the
transaction that it runs (`System.Shadows`). What is shared is the same in both, except that the
shadow has a freer gate and one slot less; the connections are twins, except that the hidden one has
forgotten its transaction in the shadow.

A step that is not the hidden connection's own can be made in the shadow as well, with the same
answer, and leaves a shadow (`System.Shadows.step`). The hidden connection's own steps leave the
shadow as it is, from the begin of its transaction (`System.Shadows.begin`) up to its end without a
commit (`System.Shadows.reveal`).
-/

namespace QuadTxn

namespace Transition

/-- What a participant is told of in a step. -/
def received (j : ConnectionId) (t : Transition) : Option ChangeSet :=
  match t.occurrence with
  | .request id .commit =>
    match System.on id Connection.commit t.before with
    | .ok (some change) mid =>
      if j ∈ mid.coordinator.audience mid.connections change.source then some change else none
    | _ => none
  | _ => none

end Transition

namespace System

/-! ## Commits as steps -/

section Commits

variable {sys : System Session} {id : ConnectionId} {st : Frame Session}

theorem on_of_done {α : Type} {call : Call Session α} {a : α}
    (hd : (call (sys.frame id)).done? = some (.ok a, st)) :
    on id call sys = .ok a (sys.setFrame id st) := by
  refine Outcome.eq_ok_of_done ?_
  rw [done?_on, hd]
  rfl

theorem on_of_failed {α : Type} {call : Call Session α} {e : TxnError}
    (hd : (call (sys.frame id)).done? = some (.error e, st)) :
    on id call sys = .error e (sys.setFrame id st) := by
  refine Outcome.eq_error_of_done ?_
  rw [done?_on, hd]
  rfl

variable (h : sys.Coherent)

include h

/-- A commit that can fail does. -/
theorem step_of_commit_error {e : TxnError} (hc : (sys.frame id).Commits (.error e) st) :
    Step sys (.request id .commit) (.error e) (sys.setFrame id st) := by
  refine ⟨trivial, ?_⟩
  rw [Occurrence.act, handle, Action.bind_apply, commit, Action.bind_apply,
    on_of_failed (hc.made (h.frame id))]
  rfl

/-- A commit that can be made is made, and announced. -/
theorem step_of_commit {change? : Option ChangeSet}
    (hc : (sys.frame id).Commits (.ok change?) st) :
    Step sys (.request id .commit) (.ok .none)
      (change?.elim (sys.setFrame id st) (announce · (sys.setFrame id st))) := by
  refine ⟨trivial, ?_⟩
  rw [Occurrence.act, handle, Action.bind_apply, commit, Action.bind_apply,
    on_of_done (hc.made (h.frame id))]
  cases change? <;> rfl

/-- A commit is told to the other connections that track their reads. -/
theorem received_of_commit {change : ChangeSet} (hc : (sys.frame id).Commits (.ok (some change)) st)
    (r : Except TxnError Answer) (sys' : System Session) (j : ConnectionId) :
    Transition.received j ⟨sys, .request id .commit, r, sys'⟩ =
      if j ≠ id ∧ (sys.connection j).tracking = true then some change else none := by
  have hmid := h.setFrame (hc.coherent (h.frame id)) (hc.keeps (h.frame id))
  obtain ⟨hsource, c, hended⟩ := hc.done_self
  have hid : st.self.id = id := (hc.keeps (h.frame id)).id.trans (h.name id)
  have hmem : j ∈ (sys.setFrame id st).coordinator.audience (sys.setFrame id st).connections
      change.source ↔ j ≠ id ∧ (sys.connection j).tracking = true := by
    rw [mem_audience hmid, hsource, hid]
    constructor
    · rintro ⟨-, hj, htracking⟩
      rw [connection_setFrame_ne _ _ hj] at htracking
      exact ⟨hj, htracking⟩
    · rintro ⟨hj, htracking⟩
      rw [connection_setFrame_ne _ _ hj]
      exact ⟨active_of_tracking h htracking, hj, htracking⟩
  simp only [Transition.received, on_of_done (hc.made (h.frame id)), hmem]

end Commits

/-- A connection of a new name can be added. -/
theorem step_of_connect {sys : System Session} {id : ConnectionId}
    (hget : sys.connections.get? id = none) (level : IsolationLevel) (lockTimeout : Option Nat) :
    Step sys (.connect id level lockTimeout) (.ok .none)
      { sys with connections :=
        sys.connections.insert id { Connection.new id level with lockTimeout := lockTimeout } } :=
  ⟨hget, rfl⟩

/-- A connection can always be taken out. -/
theorem step_of_disconnect {sys : System Session} {id : ConnectionId} {st : Frame Session}
    (hm : (sys.frame id).Moves .rollback (.ok .none) st) :
    Step sys (.disconnect id) (.ok .none)
      { sys.setFrame id st with connections := (sys.setFrame id st).connections.erase id } := by
  refine ⟨trivial, ?_⟩
  obtain ⟨-, rfl⟩ := hm.of_rollback
  have hon : on id Connection.rollback sys = _ :=
    on_of_done (congrArg Outcome.done? (Frame.rollback_eq (sys.frame id)))
  simp only [Occurrence.act, disconnect, rollback, Action.bind_apply, Action.attempt_apply, hon]
  rfl

theorem received_of_other {id : ConnectionId} {req : Request} (hreq : req ≠ .commit)
    (sys : System Session) (r : Except TxnError Answer) (sys' : System Session)
    (j : ConnectionId) : Transition.received j ⟨sys, .request id req, r, sys'⟩ = none := by
  cases req <;> first | rfl | exact absurd rfl hreq

theorem get?_announce {sys : System Session} (h : sys.Coherent) (change : ChangeSet)
    (j : ConnectionId) : (announce change sys).connections.get? j = none ↔
      sys.connections.get? j = none := by
  have hget : (announce change sys).connections.get? j =
      if j ∈ sys.coordinator.audience sys.connections change.source then
        (sys.connections.get? j).map (Connection.noteCommit change)
      else sys.connections.get? j :=
    get?_foldl_modify (audience_nodup h _) _ _
  rw [hget]
  split
  · exact Option.map_eq_none_iff
  · exact Iff.rfl

/-! ## Shadows -/

/-- A system as it would be had the hidden connection, if there is one, not begun the transaction
that it runs. -/
structure Shadows (hidden : Option ConnectionId) (sys shadow : System Session) : Prop where
  /-- the system is coherent -/
  coherent : sys.Coherent
  /-- the shadow is coherent -/
  coherent' : shadow.Coherent
  /-- the store is the same -/
  store : shadow.store = sys.store
  /-- the commit listeners are the same -/
  listeners : shadow.coordinator.listeners = sys.coordinator.listeners
  /-- the commit listeners have been told the same -/
  told : shadow.coordinator.told = sys.coordinator.told
  /-- a connection that is not there is not there in the shadow -/
  absent : ∀ j, sys.connections.get? j = none → shadow.connections.get? j = none
  /-- a connection that is not hidden has reported other things at most -/
  self : ∀ j, hidden ≠ some j → (sys.connection j).Twins (shadow.connection j)
  /-- the hidden connection is idle -/
  ended : ∀ j, hidden = some j → (sys.connection j).ended.Twins (shadow.connection j)

namespace Shadows

theorem refl {sys : System Session} (h : sys.Coherent) : Shadows none sys sys where
  coherent := h
  coherent' := h
  store := rfl
  listeners := rfl
  told := rfl
  absent := fun _ hget => hget
  self := fun _ _ => .refl _
  ended := nofun

variable {hidden : Option ConnectionId} {sys shadow : System Session}
  (h : Shadows hidden sys shadow)

include h

/-- What is going on in the shadow is going on in the system, on a connection that is not hidden. -/
theorem active {j : ConnectionId} (hact : (shadow.connection j).isActive = true) :
    hidden ≠ some j ∧ (sys.connection j).isActive = true := by
  by_cases hj : hidden = some j
  · obtain ⟨events, heq⟩ := h.ended j hj
    rw [heq] at hact
    cases hact
  · obtain ⟨events, heq⟩ := h.self j hj
    rw [heq] at hact
    exact ⟨hj, hact⟩

theorem engaged {j : ConnectionId} (hp : (shadow.connection j).Engaged) :
    (sys.connection j).Engaged := by
  have hact : (shadow.connection j).isActive = true := by
    rw [Connection.isActive_iff]
    rcases hp with hp | hp <;> simp [hp]
  obtain ⟨events, heq⟩ := h.self j (h.active hact).1
  rw [heq] at hp
  exact hp

theorem tracking {j : ConnectionId} (hj : hidden ≠ some j) :
    (shadow.connection j).tracking = (sys.connection j).tracking := by
  obtain ⟨events, heq⟩ := h.self j hj
  rw [heq]

/-- The gate is free in the shadow if it is free in the system. -/
theorem free (id : ConnectionId) (hf : (sys.frame id).Free) : (shadow.frame id).Free := by
  rw [(h.coherent.frame id).free_iff] at hf
  rw [(h.coherent'.frame id).free_iff]
  rcases hw : (shadow.frame id).coordinator.gate.writer with _ | j
  · rfl
  · have hengaged := h.engaged ((writer_iff h.coherent' j).mp hw)
    rw [← writer_iff h.coherent j] at hengaged
    cases hf.symm.trans hengaged

/-- The gate is as free as in the system if nothing is hidden. -/
theorem free_of_none (hnone : hidden = none) (id : ConnectionId) (hf : (shadow.frame id).Free) :
    (sys.frame id).Free := by
  rw [(h.coherent'.frame id).free_iff] at hf
  rw [(h.coherent.frame id).free_iff]
  rcases hw : (sys.frame id).coordinator.gate.writer with _ | j
  · rfl
  · have hengaged := (writer_iff h.coherent j).mp hw
    obtain ⟨events, heq⟩ := h.self j (by simp [hnone])
    have hengaged' : (shadow.connection j).Engaged := by
      rw [heq]
      exact hengaged
    rw [← writer_iff h.coherent' j] at hengaged'
    cases hf.symm.trans hengaged'

/-- Who hears of a change in the shadow hears of it in the system. -/
theorem isWatched {id : ConnectionId} (hact : (shadow.connection id).isActive = true)
    (hwatched : shadow.coordinator.isWatched = true) : sys.coordinator.isWatched = true := by
  rw [isWatched_iff h.coherent' hact] at hwatched
  rw [isWatched_iff h.coherent (h.active hact).2]
  rcases hwatched with hlisteners | ⟨j, hj, hjact⟩
  · exact .inl (h.listeners ▸ hlisteners)
  · exact .inr ⟨j, hj, (h.active hjact).2⟩

theorem frame {id : ConnectionId} (hid : hidden ≠ some id) :
    (sys.frame id).Twins (shadow.frame id) := ⟨h.self id hid, h.store⟩

/-! ## Steps of others -/

/-- Replacing a connection that is not hidden by twins leaves a shadow. -/
theorem replace {sys' shadow' : System Session} {id : ConnectionId} (hid : hidden ≠ some id)
    (hsys : sys'.Coherent) (hshadow : shadow'.Coherent) (hstore : shadow'.store = sys'.store)
    (hlisteners : shadow'.coordinator.listeners = sys'.coordinator.listeners)
    (htold : shadow'.coordinator.told = sys'.coordinator.told)
    (hget : ∀ j, j ≠ id → sys'.connections.get? j = sys.connections.get? j)
    (hget' : ∀ j, j ≠ id → shadow'.connections.get? j = shadow.connections.get? j)
    (habsent : sys'.connections.get? id = none → shadow'.connections.get? id = none)
    (hself : (sys'.connection id).Twins (shadow'.connection id)) : Shadows hidden sys' shadow' where
  coherent := hsys
  coherent' := hshadow
  store := hstore
  listeners := hlisteners
  told := htold
  absent := fun j hnone => by
    by_cases hj : j = id
    · subst hj
      exact habsent hnone
    · rw [hget j hj] at hnone
      rw [hget' j hj]
      exact h.absent j hnone
  self := fun j hhidden => by
    by_cases hj : j = id
    · subst hj
      exact hself
    · rw [connection, connection, hget j hj, hget' j hj]
      exact h.self j hhidden
  ended := fun j hhidden => by
    have hj : j ≠ id := fun heq => hid (heq ▸ hhidden)
    rw [connection, connection, hget j hj, hget' j hj]
    exact h.ended j hhidden

/-- A call that leaves twins leaves a shadow. -/
theorem setFrame {id : ConnectionId} (hid : hidden ≠ some id) {st tw : Frame Session}
    (hst : st.Coherent) (hkst : (sys.frame id).Keeps st) (htw : tw.Coherent)
    (hktw : (shadow.frame id).Keeps tw) (ht : st.Twins tw) :
    Shadows hidden (sys.setFrame id st) (shadow.setFrame id tw) := by
  have hself : ((sys.setFrame id st).connection id).Twins
      ((shadow.setFrame id tw).connection id) := by
    rw [connection_setFrame_self, connection_setFrame_self]
    exact ht.self
  have hthere : (sys.setFrame id st).connections.get? id = some st.self :=
    SortedMap.get?_insert_self _ _ _
  exact h.replace hid (h.coherent.setFrame hst hkst) (h.coherent'.setFrame htw hktw) ht.store
    ((hktw.watchers.trans h.listeners).trans hkst.watchers.symm)
    ((hktw.told.trans h.told).trans hkst.told.symm)
    (fun _ hj => SortedMap.get?_insert_ne _ _ hj) (fun _ hj => SortedMap.get?_insert_ne _ _ hj)
    (fun hnone => nomatch hthere.symm.trans hnone) hself

/-- Announcements leave a shadow, if the same is announced wherever anybody hears of it. -/
theorem announce {change change' : ChangeSet} (hsame : change'.source = change.source)
    (hsource : (sys.connection change.source).tracking = false)
    (hsource' : (shadow.connection change.source).tracking = false)
    (hchange : (0 < shadow.coordinator.listeners ∨ ∃ j, j ≠ change.source ∧
      (shadow.connection j).isActive = true) → change' = change) :
    Shadows hidden (announce change sys) (System.announce change' shadow) := by
  rw [← hsame] at hsource'
  have hnote : ∀ j, (shadow.connection j).noteCommit change' =
      (shadow.connection j).noteCommit change := by
    intro j
    rcases htracking : (shadow.connection j).tracking with _ | _
    · simp [Connection.noteCommit, htracking]
    · have hact := active_of_tracking h.coherent' htracking
      have hj : j ≠ change.source := by
        rintro rfl
        rw [← hsame, hsource'] at htracking
        cases htracking
      rw [hchange (.inr ⟨j, hj, hact⟩)]
  refine
    { coherent := h.coherent.announce hsource
      coherent' := h.coherent'.announce hsource'
      store := h.store
      listeners := h.listeners
      told := ?_
      absent := fun j => ?_
      self := fun j hj => ?_
      ended := fun j hj => ?_ }
  · change shadow.coordinator.told ++ (List.range shadow.coordinator.listeners).map _ =
      sys.coordinator.told ++ (List.range sys.coordinator.listeners).map _
    rw [h.told, h.listeners]
    rcases hlisteners : sys.coordinator.listeners with _ | n
    · rfl
    · rw [hchange (.inl (by rw [h.listeners, hlisteners]; exact Nat.succ_pos n))]
  · rw [get?_announce h.coherent, get?_announce h.coherent']
    exact h.absent j
  · rw [connection_announce h.coherent hsource, connection_announce h.coherent' hsource', hnote]
    obtain ⟨events, heq⟩ := h.self j hj
    rw [heq, Connection.noteCommit, Connection.noteCommit]
    split
    · exact ⟨_, rfl⟩
    · exact ⟨_, rfl⟩
  · rw [connection_announce h.coherent hsource, connection_announce h.coherent' hsource', hnote]
    obtain ⟨ledger, hledger⟩ := noteCommit_eq (sys.connection j) change
    obtain ⟨events, heq⟩ := h.ended j hj
    rw [hledger, heq]
    exact ⟨_, rfl⟩

/-- The shadow has followed a step. -/
def Follows (hidden : Option ConnectionId) (sys shadow : System Session) (o : Occurrence)
    (r : Except TxnError Answer) (sys' : System Session) : Prop :=
  ∃ shadow', Step shadow o r shadow' ∧ Shadows hidden sys' shadow' ∧
    ∀ j, hidden ≠ some j → Transition.received j ⟨shadow, o, r, shadow'⟩ =
      Transition.received j ⟨sys, o, r, sys'⟩

section Request

variable {id : ConnectionId} (hid : hidden ≠ some id) {st : Frame Session}

include hid

theorem move {req : Request} {r : Except TxnError Answer} (hreq : req ≠ .commit)
    (hm : (sys.frame id).Moves req r st)
    (hdenied : ∀ ms, r = .error (.lockTimeout ms) → (shadow.frame id).Free → (sys.frame id).Free) :
    Follows hidden sys shadow (.request id req) r (sys.setFrame id st) := by
  have hst := h.coherent.frame id
  have htw := h.coherent'.frame id
  obtain ⟨tw, hm', ht⟩ := hm.twins (h.frame hid) (h.free id) hst htw hdenied
  refine ⟨shadow.setFrame id tw, (step_iff_of_done hreq (hm'.made htw)).mpr ⟨rfl, rfl⟩, ?_, ?_⟩
  · exact h.setFrame hid (hm.coherent hst) (hm.keeps hst) (hm'.coherent htw) (hm'.keeps htw) ht
  · intro j _
    rw [received_of_other hreq, received_of_other hreq]

theorem commitFails {e : TxnError} (hc : (sys.frame id).Commits (.error e) st)
    (hdenied : ∀ ms, e = .lockTimeout ms → (shadow.frame id).Free → (sys.frame id).Free) :
    Follows hidden sys shadow (.request id .commit) (.error e) (sys.setFrame id st) := by
  have hst := h.coherent.frame id
  have htw := h.coherent'.frame id
  obtain ⟨tw, hc', ht⟩ := hc.twins_error (h.frame hid) (h.free id) hdenied
  refine ⟨shadow.setFrame id tw, step_of_commit_error h.coherent' hc', ?_, ?_⟩
  · exact h.setFrame hid (hc.coherent hst) (hc.keeps hst) (hc'.coherent htw) (hc'.keeps htw) ht
  · intro j _
    simp only [Transition.received, on_of_failed (hc.made hst), on_of_failed (hc'.made htw)]

theorem commitSkips (hact : (sys.connection id).isActive = false) :
    Follows hidden sys shadow (.request id .commit) (.ok .none)
      (sys.setFrame id (sys.frame id)) := by
  have hst := h.coherent.frame id
  have htw := h.coherent'.frame id
  have hc : (sys.frame id).Commits (.ok none) (sys.frame id) := .skip hact
  have hc' : (shadow.frame id).Commits (.ok none) (shadow.frame id) :=
    .skip ((h.frame hid).active.trans hact)
  refine ⟨shadow.setFrame id (shadow.frame id), step_of_commit h.coherent' hc', ?_, ?_⟩
  · exact h.setFrame hid hst (.refl _) htw (.refl _) (h.frame hid)
  · intro j _
    simp only [Transition.received, on_of_done (hc.made hst), on_of_done (hc'.made htw)]

/-- A commit is made alike. There may be nobody to hear of it in the shadow, and then nobody but the
hidden connection hears of it in the system. -/
theorem commit {change : ChangeSet} (hact : (sys.connection id).isActive = true)
    (hc : (sys.frame id).Commits (.ok (some change)) st) :
    Follows hidden sys shadow (.request id .commit) (.ok .none)
      (System.announce change (sys.setFrame id st)) := by
  have hst := h.coherent.frame id
  have htw := h.coherent'.frame id
  obtain ⟨change', tw, hc', ht, hsame, hchange⟩ := hc.twins (h.frame hid) (h.free id)
  have hset := h.setFrame hid (hc.coherent hst) (hc.keeps hst) (hc'.coherent htw) (hc'.keeps htw) ht
  have hsource : change.source = id :=
    hc.done_self.1.trans ((hc.keeps hst).id.trans (h.coherent.name id))
  have hact' : (shadow.connection id).isActive = true := (h.frame hid).active.trans hact
  have hpublished : (0 < shadow.coordinator.listeners ∨
      ∃ j, j ≠ id ∧ (shadow.connection j).isActive = true) → change' = change := by
    intro hheard
    have hwatched := (isWatched_iff h.coherent' hact').mpr hheard
    exact hchange (h.isWatched hact' hwatched) hwatched
  have hquiet := tracking_after_commit h.coherent' hc'
  rw [hsame] at hquiet
  refine ⟨_, step_of_commit h.coherent' hc',
    hset.announce hsame (tracking_after_commit h.coherent hc) hquiet ?_, fun j hj => ?_⟩
  · rw [hsource]
    rintro (hlisteners | ⟨j, hj, hjact⟩)
    · rw [show (shadow.setFrame id tw).coordinator.listeners = _ from (hc'.keeps htw).watchers]
        at hlisteners
      exact hpublished (.inl hlisteners)
    · rw [connection_setFrame_ne _ _ hj] at hjact
      exact hpublished (.inr ⟨j, hj, hjact⟩)
  · rw [received_of_commit h.coherent hc, received_of_commit h.coherent' hc', ← h.tracking hj]
    split
    · rename_i htold
      have hjact := active_of_tracking h.coherent' htold.2
      rw [hpublished (.inr ⟨j, htold.1, hjact⟩)]
    · rfl

end Request

/-- Another connection is added alike. -/
theorem connect {id : ConnectionId} (hid : hidden ≠ some id)
    (hget : sys.connections.get? id = none) (level : IsolationLevel) (lockTimeout : Option Nat) :
    Follows hidden sys shadow (.connect id level lockTimeout) (.ok .none)
      { sys with
        connections := sys.connections.insert id
          { Connection.new id level with lockTimeout := lockTimeout } } := by
  have hs := step_of_connect hget level lockTimeout
  have hs' := step_of_connect (h.absent id hget) level lockTimeout
  have hthere : (sys.connections.insert id
      { Connection.new id level with lockTimeout := lockTimeout }).get? id = some _ :=
    SortedMap.get?_insert_self _ _ _
  refine ⟨_, hs', h.replace hid (h.coherent.step hs) (h.coherent'.step hs') h.store h.listeners
    h.told (fun _ hj => SortedMap.get?_insert_ne _ _ hj)
    (fun _ hj => SortedMap.get?_insert_ne _ _ hj) (fun hnone => nomatch hthere.symm.trans hnone) ?_,
    fun _ _ => rfl⟩
  rw [connection_connect, connection_connect, if_pos rfl, if_pos rfl]
  exact .refl _

/-- Another connection is taken out alike. -/
theorem disconnect {id : ConnectionId} (hid : hidden ≠ some id) {st : Frame Session}
    (hm : (sys.frame id).Moves .rollback (.ok .none) st) :
    Follows hidden sys shadow (.disconnect id) (.ok .none)
      { sys.setFrame id st with connections := (sys.setFrame id st).connections.erase id } := by
  have hst := h.coherent.frame id
  have htw := h.coherent'.frame id
  obtain ⟨tw, hm', ht⟩ := hm.twins (h.frame hid) (h.free id) hst htw nofun
  have hset := h.setFrame hid (hm.coherent hst) (hm.keeps hst) (hm'.coherent htw) (hm'.keeps htw) ht
  have hs := step_of_disconnect hm
  have hs' := step_of_disconnect hm'
  have herase : ∀ (m : SortedMap ConnectionId (Connection Session)) (j : ConnectionId), j ≠ id →
      (m.erase id).get? j = m.get? j := by
    intro m j hj
    rw [SortedMap.get?_erase, if_neg hj]
  have hgone : ((shadow.setFrame id tw).connections.erase id).get? id = none := by
    rw [SortedMap.get?_erase, if_pos rfl]
  refine ⟨_, hs', hset.replace hid (h.coherent.step hs) (h.coherent'.step hs') hset.store
    hset.listeners hset.told (herase _) (herase _) (fun _ => hgone) ?_, fun _ _ => rfl⟩
  rw [connection_disconnect, connection_disconnect, if_pos rfl, if_pos rfl]
  exact .refl _

/-- The store is changed alike. -/
theorem onStore (f : Store → Store) :
    Shadows hidden { sys with store := f sys.store } { shadow with store := f shadow.store } where
  coherent := h.coherent.congr (fun _ => rfl) rfl rfl
  coherent' := h.coherent'.congr (fun _ => rfl) rfl rfl
  store := congrArg f h.store
  listeners := h.listeners
  told := h.told
  absent := h.absent
  self := h.self
  ended := h.ended

theorem watch : Shadows hidden { sys with coordinator := sys.coordinator.watch }
    { shadow with coordinator := shadow.coordinator.watch } where
  coherent := h.coherent.congr (fun _ => rfl) rfl rfl
  coherent' := h.coherent'.congr (fun _ => rfl) rfl rfl
  store := h.store
  listeners := congrArg (· + 1) h.listeners
  told := h.told
  absent := h.absent
  self := h.self
  ended := h.ended

/-- A step that is not the hidden connection's own, and lets its transaction run on, can be made in
the shadow as well. If a connection is hidden, the gate may be refused to others because of it. -/
theorem step {o : Occurrence} {r : Except TxnError Answer} {sys' : System Session}
    (hs : Step sys o r sys')
    (hother : ∀ id, hidden = some id →
      (∀ req, o ≠ .request id req) ∧ (sys'.connection id).isActive = true)
    (hgranted : hidden ≠ none → ∀ ms, r ≠ .error (.lockTimeout ms)) :
    Follows hidden sys shadow o r sys' := by
  have hrequest : ∀ {id req}, o = .request id req → hidden ≠ some id :=
    fun ho hid => (hother _ hid).1 _ ho
  have hdenied : ∀ id ms, r = .error (.lockTimeout ms) → (shadow.frame id).Free →
      (sys.frame id).Free := by
    intro id ms hr hf
    by_cases hnone : hidden = none
    · exact h.free_of_none hnone id hf
    · exact absurd hr (hgranted hnone ms)
  cases effect_of_step h.coherent hs with
  | @move id _ _ _ hreq hm => exact h.move (hrequest rfl) hreq hm (hdenied id)
  | @commitFails id e _ hc =>
    exact h.commitFails (hrequest rfl) hc fun ms he => hdenied id ms (congrArg _ he)
  | commitSkips hact => exact h.commitSkips (hrequest rfl) hact
  | commit hact hc => exact h.commit (hrequest rfl) hact hc
  | @connect id level lockTimeout hget =>
    refine h.connect (fun hid => ?_) hget level lockTimeout
    have hact := (hother id hid).2
    rw [connection_connect, if_pos rfl] at hact
    cases hact
  | @disconnect id st hm =>
    refine h.disconnect (fun hid => ?_) hm
    have hact := (hother id hid).2
    rw [connection_disconnect, if_pos rfl] at hact
    cases hact
  | @insert s => exact ⟨_, ⟨trivial, rfl⟩, h.onStore (·.insert s), fun _ _ => rfl⟩
  | failPrepare =>
    exact ⟨_, ⟨trivial, rfl⟩, h.onStore ({ · with failPrepare := true }), fun _ _ => rfl⟩
  | failCommit =>
    exact ⟨_, ⟨trivial, rfl⟩, h.onStore ({ · with failCommit := true }), fun _ _ => rfl⟩
  | watch => exact ⟨_, ⟨trivial, rfl⟩, h.watch, fun _ _ => rfl⟩

end Shadows

/-! ## Steps of the hidden connection -/

section Own

variable {sys shadow sys' : System Session} {id : ConnectionId} {req : Request}
  {r : Except TxnError Answer}

/-- A call that leaves the store as it is leaves the shadow as it is, if the connection is hidden
before and after it or is as it was in the shadow. -/
theorem Shadows.own {hidden hidden' : Option ConnectionId} (h : Shadows hidden sys shadow)
    (hothers : ∀ j, j ≠ id → hidden ≠ some j ∧ hidden' ≠ some j) {st : Frame Session}
    (hst : st.Coherent) (hkst : (sys.frame id).Keeps st) (hstore : st.store = sys.store)
    (hself : hidden' ≠ some id → st.self.Twins (shadow.connection id))
    (hended : hidden' = some id → st.self.ended.Twins (shadow.connection id)) :
    Shadows hidden' (sys.setFrame id st) shadow where
  coherent := h.coherent.setFrame hst hkst
  coherent' := h.coherent'
  store := h.store.trans hstore.symm
  listeners := h.listeners.trans hkst.watchers.symm
  told := h.told.trans hkst.told.symm
  absent := fun j hget => by
    have hinsert : (sys.connections.insert id st.self).get? j = none := hget
    rw [SortedMap.get?_insert] at hinsert
    split at hinsert
    · cases hinsert
    · exact h.absent j hinsert
  self := fun j hj => by
    rw [connection_setFrame]
    split
    · rename_i heq
      exact heq ▸ hself (heq ▸ hj)
    · rename_i hne
      exact h.self j (hothers j hne).1
  ended := fun j hj => by
    rw [connection_setFrame]
    split
    · rename_i heq
      exact heq ▸ hended (heq ▸ hj)
    · rename_i hne
      exact absurd hj (hothers j hne).2

/-- From its begin on, a transaction can be hidden. -/
theorem Shadows.begin (h : Shadows none sys shadow) {a : Answer}
    (hs : Step sys (.request id .begin) (.ok a) sys') : Shadows (some id) sys' shadow := by
  have hst := h.coherent.frame id
  cases effect_of_step h.coherent hs with
  | @move _ _ _ st _ hm =>
    have hidle : (sys.frame id).self.ended = (sys.frame id).self := hst.ended_of_idle hm.of_begin.1
    have hstore : st.store = sys.store := hm.store.resolve_right fun hfail => nomatch hfail.1
    refine h.own (fun j hj => ⟨nofun, fun heq => hj (Option.some.inj heq).symm⟩) (hm.coherent hst)
      (hm.keeps hst) hstore (fun hne => absurd rfl hne) fun _ => ?_
    have hended := hm.ended rfl
    rw [hidle] at hended
    exact hended.symm.trans (h.self id nofun)

/-- The hidden connection goes on with its transaction. -/
theorem Shadows.hide (h : Shadows (some id) sys shadow)
    (hs : Step sys (.request id req) r sys') (hreq : req.outlasts = false)
    (hact : (sys'.connection id).isActive = true) : Shadows (some id) sys' shadow := by
  have hst := h.coherent.frame id
  have hother : ∀ j, j ≠ id → some id ≠ some j ∧ some id ≠ some j :=
    fun j hj => ⟨fun heq => hj (Option.some.inj heq).symm, fun heq => hj (Option.some.inj heq).symm⟩
  cases effect_of_step h.coherent hs with
  | @move _ _ _ st _ hm =>
    rw [connection_setFrame_self] at hact
    have hstore : st.store = sys.store :=
      hm.store.resolve_right fun hfail => Connection.isActive_iff.mp hact hfail.2
    exact h.own hother (hm.coherent hst) (hm.keeps hst) hstore (fun hne => absurd rfl hne)
      fun _ => (hm.ended hreq).symm.trans (h.ended id rfl)
  | commitFails hc =>
    rw [connection_setFrame_self] at hact
    exact absurd hc.error_idle (Connection.isActive_iff.mp hact)
  | commitSkips hinactive =>
    rw [connection_setFrame_self] at hact
    exact absurd hact (by simpa [System.frame] using hinactive)
  | commit _ hc =>
    rw [connection_commit h.coherent hc, connection_setFrame_self] at hact
    obtain ⟨-, c, hended⟩ := hc.done_self
    rw [hended] at hact
    cases hact

/-- A transaction that is abandoned need not be hidden any more. -/
theorem Shadows.reveal (h : Shadows (some id) sys shadow)
    (hs : Step sys (.request id req) r sys') (hact : (sys.connection id).isActive = true)
    (hend : req = .rollback ∨ ∃ e, r = .error e ∧ e.isConflict = true) :
    Shadows none sys' shadow := by
  have hst := h.coherent.frame id
  have habandoned : Shadows none (sys.setFrame id (sys.frame id).abandoned) shadow := by
    exact h.own (fun j hj => ⟨fun heq => hj (Option.some.inj heq).symm, by simp⟩)
      (Frame.coherent_ended hst.sound hst.readers _) (Frame.abandoned_keeps _) rfl
      (fun _ => h.ended id rfl) (by simp)
  cases effect_of_step h.coherent hs with
  | move hne hm =>
    rcases hend with rfl | ⟨e, hr, he⟩
    · obtain ⟨-, rfl⟩ := hm.of_rollback
      rwa [show (sys.frame id).self.isActive = true from hact]
    · rwa [hm.of_conflict hr he]
  | commitFails hc =>
    rcases hend with hrollback | ⟨e, hr, he⟩
    · cases hrollback
    · obtain rfl := Except.error.inj hr
      rwa [hc.of_conflict he]
  | commitSkips =>
    rcases hend with hrollback | ⟨e, hr, -⟩
    · cases hrollback
    · cases hr
  | commit =>
    rcases hend with hrollback | ⟨e, hr, -⟩
    · cases hrollback
    · cases hr

end Own

end System

end QuadTxn
