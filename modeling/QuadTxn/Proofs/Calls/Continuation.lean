import QuadTxn.Proofs.Calls.Rules

/-!
# Within a phase

A request on statements, or a write of a namespace binding, lets the transaction go on in its phase
(`Frame.Continues`), and what it notes and stages keeps the connection sound
(`Frame.perform_sound`).
-/

namespace QuadTxn

namespace Frame

/-! ## Within a phase -/

/-- The transaction goes on in its phase, and the rest of the system is as it was. -/
structure Continues (st st' : Frame Session) : Prop where
  /-- the store is as it was -/
  store : st'.store = st.store
  /-- the coordinator is as it was -/
  coordinator : st'.coordinator = st.coordinator
  /-- the connection is still the same one -/
  id : st'.self.id = st.self.id
  /-- the phase is still the same -/
  phase : st'.self.phase = st.self.phase
  /-- the flags are as they were -/
  isolation : st'.self.isolation = st.self.isolation
  /-- the connection is told of commits as before -/
  tracking : st'.self.tracking = st.self.tracking
  /-- the same listeners are registered -/
  listeners : st'.self.listeners = st.self.listeners

theorem Continues.refl (st : Frame Session) : Continues st st := ⟨rfl, rfl, rfl, rfl, rfl, rfl, rfl⟩

theorem Continues.trans {st₁ st₂ st₃ : Frame Session} (h₁₂ : Continues st₁ st₂)
    (h₂₃ : Continues st₂ st₃) : Continues st₁ st₃ where
  store := h₂₃.store.trans h₁₂.store
  coordinator := h₂₃.coordinator.trans h₁₂.coordinator
  id := h₂₃.id.trans h₁₂.id
  phase := h₂₃.phase.trans h₁₂.phase
  isolation := h₂₃.isolation.trans h₁₂.isolation
  tracking := h₂₃.tracking.trans h₁₂.tracking
  listeners := h₂₃.listeners.trans h₁₂.listeners

theorem Continues.unwritable? {st st' : Frame Session} (h : Continues st st') :
    st'.unwritable? = st.unwritable? := by
  rw [Frame.unwritable?, Frame.unwritable?, h.phase]

theorem NativeOnly.continues {st st' : Frame Session} (h : NativeOnly st st') :
    Continues st st' := by
  obtain ⟨session, net, rfl⟩ := h
  exact ⟨rfl, rfl, rfl, rfl, rfl, rfl, rfl⟩

theorem noted_continues (st : Frame Session) (req : Request) : Continues st (st.noted req) := by
  obtain ⟨ledger, events, h, -⟩ := noted_eq st req
  rw [h]
  exact ⟨rfl, rfl, rfl, rfl, rfl, rfl, rfl⟩

theorem write_continues (st : Frame Session) (kind : BatchKind) (w : Write) :
    Continues st (st.write kind w) := by
  rw [write]
  split
  · exact (writeNative_nativeOnly st w).continues.trans ⟨rfl, rfl, rfl, rfl, rfl, rfl, rfl⟩
  · cases w <;> exact ⟨rfl, rfl, rfl, rfl, rfl, rfl, rfl⟩

theorem foldl_write_continues (st : Frame Session) (kind : BatchKind) (ws : List Write) :
    Continues st (ws.foldl (write kind) st) := by
  induction ws generalizing st with
  | nil => exact .refl st
  | cons w ws ih => exact (write_continues st kind w).trans (ih _)

theorem perform_continues (st : Frame Session) (req : Request) : Continues st (st.perform req) :=
  (noted_continues st req).trans (foldl_write_continues _ _ _)

/-! ## Soundness within a phase -/

theorem noted_idle {st : Frame Session} (h : st.Coherent) (hp : st.self.phase = .idle)
    (req : Request) : st.noted req = st := by
  have hact : st.self.isActive = false := by simp [Connection.isActive, hp]
  have hchanges : st.self.staging.hasChanges = false := by
    rw [(h.idle hp).2.2.2.2.1]
    rfl
  have hmerged : st.merged req = st := by
    unfold merged
    split
    · exact if_neg (by simp [hchanges])
    · rfl
  rw [noted]
  split
  · rw [hmerged, if_neg (by simp [hact])]
  · rfl

end Frame

namespace Connection

/-- What a running transaction has noted can be anything. -/
theorem Sound.note {c : Connection Session} (h : c.Sound) (hp : c.phase ≠ .idle) (ledger : Ledger)
    (events : List Event) : { c with ledger := ledger, events := events }.Sound := by
  refine ⟨?_, h.consistent, h.wellFormed, h.covers, h.snapshot, h.tracking⟩
  have hphase := h.inPhase
  rw [InPhase] at hphase ⊢
  rcases hp' : c.phase with _ | _ | _ | _
  · exact absurd hp' hp
  all_goals
    simp only [hp'] at hphase ⊢
    exact hphase

theorem Sound.report {c : Connection Session} (h : c.Sound) (events : List Event) :
    { c with events := events }.Sound :=
  ⟨h.inPhase, h.consistent, h.wellFormed, h.covers, h.snapshot, h.tracking⟩

/-- Staging a write that can be done leaves the connection sound. -/
theorem Sound.stage {c : Connection Session} (h : c.Sound) (hp : c.phase = .staging)
    (kind : BatchKind) {w : Write} (hw : ∀ s, w = .add s → s.WellFormed) :
    (c.stage kind w).Sound := by
  have hphase : ∀ c' : Connection Session, c'.phase = c.phase → c'.session = c.session →
      c'.net = c.net → c'.isolation = c.isolation → c'.InPhase := by
    intro c' hphase hsession hnet hisolation
    have := h.inPhase
    rw [InPhase, hp] at this
    rw [InPhase, hphase, hp, hsession, hnet, hisolation]
    exact this
  cases w with
  | add s =>
    refine ⟨hphase _ rfl rfl rfl rfl, h.consistent.add kind s, fun t ht => ?_, h.covers.add kind s,
      h.snapshot, h.tracking⟩
    rcases Staging.isAdded_add.mp ht with rfl | ht
    · exact hw t rfl
    · exact h.wellFormed t ht
  | remove s =>
    refine ⟨hphase _ rfl rfl rfl rfl, h.consistent.remove kind s, fun t ht => ?_,
      h.covers.remove kind s, h.snapshot, h.tracking⟩
    exact h.wellFormed t (Staging.isAdded_remove.mp ht).1
  | _ =>
    exact ⟨hphase _ rfl rfl rfl rfl, h.consistent, h.wellFormed, h.covers, h.snapshot, h.tracking⟩

end Connection

namespace Frame

theorem noted_sound {st : Frame Session} (h : st.Coherent) (req : Request) :
    (st.noted req).self.Sound := by
  by_cases hp : st.self.phase = .idle
  · -- outside a transaction nothing is noted, and the ledger stays empty
    rw [noted_idle h hp]
    exact h.sound
  · obtain ⟨ledger, events, heq, -⟩ := noted_eq st req
    rw [heq]
    exact h.sound.note hp ledger _

theorem write_sound {st : Frame Session} (h : st.self.Sound) (hw : st.unwritable? = none)
    (kind : BatchKind) {w : Write} (hwf : ∀ s, w = .add s → s.WellFormed) :
    (st.write kind w).self.Sound := by
  rw [write]
  split
  · rename_i hp
    have hphase := h.inPhase
    rw [Connection.InPhase, hp] at hphase
    have hopen := writeNative_open hphase.1 w
    obtain ⟨session, net, heq⟩ := writeNative_nativeOnly st w
    rw [heq] at hopen ⊢
    have hsound : { st.self with session := session, net := net }.Sound := by
      refine ⟨?_, h.consistent, h.wellFormed, h.covers, h.snapshot, h.tracking⟩
      simp only [Connection.InPhase, hp]
      exact ⟨hopen, hphase.2⟩
    exact hsound.report _
  · rename_i hp
    exact Connection.Sound.report (h.stage ((phase_of_writable hw).resolve_right hp) kind hwf) _

theorem foldl_write_sound {st : Frame Session} (h : st.self.Sound) (hw : st.unwritable? = none)
    (kind : BatchKind) {ws : List Write} (hwf : ∀ s, .add s ∈ ws → s.WellFormed) :
    (ws.foldl (write kind) st).self.Sound := by
  induction ws generalizing st with
  | nil => exact h
  | cons w ws ih =>
    have hsound := write_sound h hw kind
      (fun s hs => hwf s (hs ▸ List.mem_cons_self) : ∀ s, w = .add s → s.WellFormed)
    refine ih hsound ?_ fun s hs => hwf s (List.mem_cons_of_mem _ hs)
    rw [(write_continues st kind w).unwritable?]
    exact hw

/-- What a request on statements writes can be written. -/
theorem wellFormed_of_mem_writesIn {req : Request} (h : req.malformed? = none) {m : Model}
    {s : Statement} (hs : .add s ∈ req.writesIn m) : s.WellFormed := by
  rcases List.mem_append.mp hs with hs | hs
  · obtain ⟨t, ht, heq⟩ := List.mem_map.mp hs
    cases heq
    exact Request.wellFormed_of_mem_additions h ht
  · obtain ⟨t, -, heq⟩ := List.mem_map.mp hs
    cases heq

theorem perform_sound {st : Frame Session} (h : st.Coherent) {req : Request}
    (hr : st.refusal? req = none) : (st.perform req).self.Sound := by
  have hnoted := noted_sound h req
  by_cases hwrite : req.isWrite = true
  · rw [refusal?_of_isWrite hwrite, Option.or_eq_none_iff] at hr
    refine foldl_write_sound hnoted ?_ _ fun s hs => wellFormed_of_mem_writesIn hr.1 hs
    rw [(noted_continues st req).unwritable?]
    exact hr.2
  · -- a read is done in every phase, and writes nothing
    rw [perform_read (Request.writesIn_of_not_isWrite hwrite _)]
    exact hnoted

end Frame

end QuadTxn
