import QuadTxn.Proofs.Calls.Tracking

/-!
# Reads depend on their footprints

A call that reads is made on two frames that hold different statements beneath the same staged
writes. As long as the footprint of the read selects none of the statements in which they differ,
the call comes to the same on both: the same answer, and the same connection afterwards
(`Frame.same_answer_on_footprint`).

The frames are compared by `Frame.AlikeOn`, which every part of such a call keeps.
-/

namespace QuadTxn

/-- Staged writes keep an agreement. -/
theorem Model.Agree.onto {ps : List Pattern} {m m' : Model} (h : Model.Agree ps m m')
    (g : Staging) : Model.Agree ps (g.onto m) (g.onto m') := by
  intro p hp s hs
  rw [Staging.mem_onto, Staging.mem_onto, h p hp s hs]

/-- A request that reads adds nothing. -/
theorem Request.additions_of_read {req : Request} {r : Read} (h : req.read? = some r) :
    req.additions = [] := by
  cases req <;> first | rfl | cases h

theorem Request.onStatements_of_read {req : Request} {r : Read} (h : req.read? = some r) :
    req.onStatements = true := by
  cases req <;> first | rfl | cases h

theorem Request.malformed?_of_read {req : Request} {r : Read} (h : req.read? = some r) :
    req.malformed? = none := by
  cases req <;> first | rfl | cases h

namespace Frame

/-- The frame whose session reads other statements: the store holds them, and so does the copy that
a native transaction works on. -/
def atop (st : Frame Session) (m : Model) : Frame Session where
  self :=
    { st.self with
      session := ⟨st.self.session.txn.map fun t =>
        { t with working := { t.working with statements := m } }⟩ }
  store := { st.store with contents := { st.store.contents with statements := m } }
  coordinator := st.coordinator

theorem visible_atop (st : Frame Session) (m : Model) : (st.atop m).visible.statements = m := by
  rcases htxn : st.self.session.txn with _ | t
  · simp [visible, Session.visible, atop, htxn]
  · simp [visible, Session.visible, atop, htxn]

theorem Ready.atop {st : Frame Session} (h : st.Ready) (m : Model) : (st.atop m).Ready := by
  intro hp
  obtain ⟨t, ht, hopen⟩ := h hp
  exact ⟨_, congrArg (Option.map _) ht, hopen⟩

/-- The frames are the same but for their sessions and stores, and what the sessions read agrees on
the patterns. -/
structure AlikeOn (ps : List Pattern) (st st' : Frame Session) : Prop where
  /-- the connections differ at most in their sessions -/
  self : ∃ session, st'.self = { st.self with session := session }
  /-- the coordinator is the same -/
  coordinator : st'.coordinator = st.coordinator
  /-- writes that go to the store at once can be done on the one side -/
  ready : st.Ready
  /-- and on the other -/
  ready' : st'.Ready
  /-- what the sessions read agrees -/
  visible : Model.Agree ps st.visible.statements st'.visible.statements

namespace AlikeOn

variable {ps : List Pattern} {st st' : Frame Session} (h : AlikeOn ps st st')

include h

theorem seen : Model.Agree ps st.seen st'.seen := by
  obtain ⟨session, hself⟩ := h.self
  rw [Frame.seen, Frame.seen, hself]
  exact h.visible.onto st.self.staging

theorem canRead : st'.CanRead ↔ st.CanRead := by
  obtain ⟨session, hself⟩ := h.self
  rw [CanRead, CanRead, Admitted, Admitted, h.coordinator, hself]
  exact Iff.rfl

theorem refusal (req : Request) : st'.refusal? req = st.refusal? req := by
  obtain ⟨session, hself⟩ := h.self
  have hunwritable : st'.unwritable? = st.unwritable? := by
    rw [unwritable?, unwritable?, hself]
  cases req <;> simp only [refusal?, hself, hunwritable] <;> rfl

/-- A change of the connection that has nothing to do with its session is made alike. -/
theorem update {f : Connection Session → Connection Session}
    (hsession : ∀ c session, f { c with session := session } = { f c with session := session })
    (hphase : ∀ c, (f c).phase = c.phase) : AlikeOn ps (st.update f) (st'.update f) := by
  obtain ⟨session, hself⟩ := h.self
  have hkeep : ∀ c, (f c).session = c.session := by
    intro c
    have hsame : f c = { f c with session := c.session } := hsession c c.session
    rw [hsame]
  have hready : ∀ {st : Frame Session}, st.Ready → (st.update f).Ready := by
    intro st hst hp
    rw [update_self, hphase] at hp
    rw [update_self, hkeep]
    exact hst hp
  refine ⟨⟨session, ?_⟩, h.coordinator, hready h.ready, hready h.ready', ?_⟩
  · rw [update_self, update_self, hself, hsession]
  · have hvisible : ∀ st : Frame Session, (st.update f).visible = st.visible := by
      intro st
      rw [Frame.visible, Frame.visible, update_self, hkeep]
      rfl
    rw [hvisible, hvisible]
    exact h.visible

theorem merged (req : Request) : AlikeOn ps (st.merged req) (st'.merged req) := by
  obtain ⟨session, hself⟩ := h.self
  cases req with
  | evaluate q d b inferred =>
    have hchanges : st'.self.staging.hasChanges = st.self.staging.hasChanges := by rw [hself]
    simp only [Frame.merged, hchanges]
    split
    · exact h.update (fun _ _ => rfl) fun _ => rfl
    · exact h
  | _ => exact h

theorem observe (r : Read) : AlikeOn ps (st.observe r) (st'.observe r) := by
  refine h.update (fun c session => ?_) fun c => ?_
  · split <;> rfl
  · split <;> rfl

/-- A read is noted alike. -/
theorem noted (req : Request) : AlikeOn ps (st.noted req) (st'.noted req) := by
  obtain ⟨session, hself⟩ := h.self
  have hactive : st'.self.isActive = st.self.isActive := by rw [hself]; rfl
  rw [Frame.noted, Frame.noted, hactive]
  split
  · split
    · exact (h.merged req).observe _
    · exact h.merged req
  · exact h

/-- A statement that one of the patterns selects is removed alike in native transactions. -/
theorem storeRemove (hopen : st.self.session.Open) (hopen' : st'.self.session.Open) {p : Pattern}
    (hp : p ∈ ps) {s : Statement} (hs : p.selects s = true) :
    AlikeOn ps (st.storeRemove s) (st'.storeRemove s) := by
  obtain ⟨session, hself⟩ := h.self
  -- the account of changes asks whether the statement is there
  have hmem : s ∈ st'.visible.statements ↔ s ∈ st.visible.statements :=
    (h.visible p hp s hs).symm
  refine ⟨⟨session.record (.remove s), ?_⟩, h.coordinator, fun _ => storeRemove_open hopen s,
    fun _ => storeRemove_open hopen' s, ?_⟩
  · simp only [Frame.storeRemove, update_self, Connection.record, hself, hmem]
  · rw [visible_storeRemove hopen, visible_storeRemove hopen']
    exact h.visible.replay [.remove s]

/-- A statement that one of the patterns selects is removed alike. -/
theorem remove (kind : BatchKind) {p : Pattern} (hp : p ∈ ps) {s : Statement}
    (hs : p.selects s = true) :
    AlikeOn ps (st.write kind (.remove s)) (st'.write kind (.remove s)) := by
  obtain ⟨session, hself⟩ := h.self
  have hphase : st'.self.phase = st.self.phase := by rw [hself]
  have hreport : ∀ {st st' : Frame Session}, AlikeOn ps st st' →
      AlikeOn ps (st.report (.remove s)) (st'.report (.remove s)) := fun h =>
    h.update (fun _ _ => rfl) fun _ => rfl
  rw [write, write, hphase]
  split
  · rename_i hdirect
    exact hreport (h.storeRemove (h.ready hdirect) (h.ready' (hphase.trans hdirect)) hp hs)
  · exact hreport (h.update (fun _ _ => rfl) fun _ => rfl)

/-- Statements that one of the patterns selects are removed alike, one after the other. -/
theorem removeAll (kind : BatchKind) {p : Pattern} (hp : p ∈ ps) {l : List Statement}
    (hl : ∀ s ∈ l, p.selects s = true) :
    AlikeOn ps ((l.map .remove).foldl (write kind) st)
      ((l.map .remove).foldl (write kind) st') := by
  induction l generalizing st st' with
  | nil => exact h
  | cons s l ih =>
    exact ih (h.remove kind hp (hl s List.mem_cons_self)) fun t ht =>
      hl t (List.mem_cons_of_mem s ht)

end AlikeOn

section Footprint

variable {req : Request} {r : Read} (hread : req.read? = some r)

include hread

/-- A read is done alike. -/
theorem AlikeOn.perform {st st' : Frame Session} (h : AlikeOn r.footprint st st') :
    AlikeOn r.footprint (st.perform req) (st'.perform req) := by
  have hagree : ∀ r', req.read? = some r' → Model.Agree r'.footprint st.seen st'.seen := by
    intro r' hr'
    rw [← Option.some.inj (hread.symm.trans hr')]
    exact h.seen
  rw [Frame.perform, Frame.perform, ← Request.writesIn_congr hagree, Request.writesIn,
    Request.additions_of_read hread]
  rcases hp : req.removal? with _ | p
  · exact h.noted req
  · obtain ⟨r', hr', hmem⟩ := Request.mem_footprint_of_removal hp
    obtain rfl := Option.some.inj (hread.symm.trans hr')
    exact (h.noted req).removeAll req.batch hmem fun s hs => (Model.mem_select.mp hs).2

/-- A read that is neither refused nor made to wait answers alike, and is done. -/
theorem AlikeOn.answers {st st' : Frame Session} (h : AlikeOn r.footprint st st')
    (hr : st.refusal? req = none) (hcan : st.CanRead) :
    ∃ a, req.call st = .ok a (st.perform req) ∧ req.call st' = .ok a (st'.perform req) := by
  have hcan' : st'.CanRead := h.canRead.mpr hcan
  by_cases hgraphs : req = .graphNames
  · -- the touched graphs need not be those of the staged statements here
    subst hgraphs
    obtain rfl := Option.some.inj hread
    obtain ⟨session, hself⟩ := h.self
    have hvisible : st.visible.statements = st'.visible.statements :=
      h.visible.eq_of_any (List.mem_singleton_self _)
    have hseen : st.seen = st'.seen := h.seen.eq_of_any (List.mem_singleton_self _)
    have hgraphs : st'.self.graphs = st.self.graphs := by rw [hself]
    refine ⟨.graphs (st.self.graphs.found st.visible.statements.namedGraphs.toList fun graph =>
      st.seen.anySelected (.within [some graph])), ?_, ?_⟩
    · rw [Request.call, Action.map_apply, graphNames_found hcan, perform_read rfl]
      rfl
    · rw [Request.call, Action.map_apply, graphNames_found hcan', perform_read rfl, hgraphs,
        ← hvisible, ← hseen]
      rfl
  · have hdone : ∀ {st : Frame Session}, st.refusal? req = none → st.CanRead → st.Ready →
        req.call st = .ok (req.answerIn st.seen) (st.perform req) := by
      intro st hr hcan hready
      refine perform_eq (Request.onStatements_of_read hread) (malformed?_of_accepted hr) ?_
        (fun _ => hcan) hready fun heq => absurd heq hgraphs
      intro hwrite
      rw [refusal?_of_isWrite hwrite] at hr
      exact (Option.or_eq_none_iff.mp hr).2
    have hagree : ∀ r', req.read? = some r' → Model.Agree r'.footprint st.seen st'.seen := by
      intro r' hr'
      rw [← Option.some.inj (hread.symm.trans hr')]
      exact h.seen
    refine ⟨_, hdone hr hcan h.ready, ?_⟩
    rw [hdone ((h.refusal req).trans hr) hcan' h.ready', Request.answerIn_congr hagree]

/-- A call that reads waits on both of two frames, is refused alike, or answers alike. -/
theorem AlikeOn.call {st st' : Frame Session} (h : AlikeOn r.footprint st st') :
    ((req.call st).done? = none ∧ (req.call st').done? = none) ∨
      (∃ e, req.call st = .error e st ∧ req.call st' = .error e st') ∨
      ∃ a, req.call st = .ok a (st.perform req) ∧ req.call st' = .ok a (st'.perform req) := by
  rcases hr : st.refusal? req with _ | e
  · by_cases hcan : st.CanRead
    · exact .inr (.inr (h.answers hread hr hcan))
    · have hsome : req.read?.isSome = true := by rw [hread]; rfl
      exact .inl ⟨call_waits hr hsome hcan,
        call_waits ((h.refusal req).trans hr) hsome (mt h.canRead.mp hcan)⟩
  · exact .inr (.inl ⟨e, call_refused hr, call_refused ((h.refusal req).trans hr)⟩)

end Footprint

theorem alike_over {st : Frame Session} (hready : st.Ready) {ps : List Pattern} {m m' : Model}
    (h : Model.Agree ps m m') : AlikeOn ps (st.atop m) (st.atop m') := by
  refine ⟨⟨_, rfl⟩, rfl, hready.atop m, hready.atop m', ?_⟩
  rw [visible_atop, visible_atop]
  exact h

/-- Whatever is staged, a call that reads comes to the same over two sets of statements if they
differ in no statement that the footprint of its read selects. It gives the same answer, is refused
with the same error, or waits on both. If it is neither refused nor made to wait, it does answer,
the connection is the same afterwards, and a transaction that tracks its reads has registered the
read. A query, whatever its source answers, asks for nothing outside the footprint. -/
theorem same_answer_on_footprint {st : Frame Session} (hready : st.Ready) {req : Request}
    {r : Read} (hread : req.read? = some r) {m m' : Model}
    (hleft : ∀ p ∈ r.footprint, ∀ s ∈ m.diff m', p.selects s = false)
    (hright : ∀ p ∈ r.footprint, ∀ s ∈ m'.diff m, p.selects s = false) :
    (req.call (st.atop m)).done?.map Prod.fst = (req.call (st.atop m')).done?.map Prod.fst ∧
    (st.CanRead → (req.isWrite = true → st.unwritable? = none) →
      ∃ a st₁ st₂, req.call (st.atop m) = .ok a st₁ ∧ req.call (st.atop m') = .ok a st₂ ∧
        (∃ session, st₂.self = { st₁.self with session := session }) ∧
        (st.self.isActive = true → st.self.isolation.snapshot = true →
          st₁.self.ledger = st.self.ledger.observe r)) ∧
    ∀ q d b inferred source, r = .ofQuery q d b inferred →
      ∀ p ∈ Query.asked source q d b, ∃ p' ∈ r.footprint,
        ∀ s, p.selects s = true → p'.selects s = true := by
  have halike : AlikeOn r.footprint (st.atop m) (st.atop m') :=
    alike_over hready (Model.agree_of_diff hright hleft)
  refine ⟨?_, fun hcan hwritable => ?_, ?_⟩
  · rcases halike.call hread with ⟨hwaits, hwaits'⟩ | ⟨e, he, he'⟩ | ⟨a, ha, ha'⟩
    · rw [hwaits, hwaits']
    · rw [he, he']
      rfl
    · rw [ha, ha']
      rfl
  · have hr : (st.atop m).refusal? req = none := by
      rcases hwrite : req.isWrite with _ | _
      · exact refusal?_of_read (Request.onStatements_of_read hread) hwrite
      · rw [refusal?_of_isWrite hwrite, Request.malformed?_of_read hread]
        exact hwritable hwrite
    obtain ⟨a, ha, ha'⟩ := halike.answers hread hr hcan
    refine ⟨a, _, _, ha, ha', (halike.perform hread).self, fun hact hsnap => ?_⟩
    have hobserved : req.observed? st.self.isolation (.ok a) = some r := by
      rw [Request.observed?, if_pos hsnap, hread]
    have hledger : ((st.atop m).perform req).self.ledger =
        (req.observed? st.self.isolation (.ok a)).elim st.self.ledger st.self.ledger.observe :=
      @perform_ledger (st.atop m) hact req a
    rw [hledger, hobserved]
    rfl
  · rintro q d b inferred source rfl p hp
    exact (Query.evaluate_asking source q d b inferred).2 p hp

/-- A transaction that has staged one statement lists the statements about its subject, and a stored
statement about another subject makes no difference. -/
theorem same_answer_beside_other_subject :
    let st : Frame Session := {
      self := { (Connection.new "c" .snapshot : Connection Session) with
        phase := .staging
        staging := (∅ : Staging).add .explicit ⟨.iri "s", .iri "p", .iri "staged", none⟩ }
      store := .new
      coordinator := .new }
    let req : Request := .getStatements ⟨some (.iri "s"), none, none, []⟩ false
    let m : Model := .ofList [⟨.iri "s", .iri "p", .iri "stored", none⟩]
    let m' : Model := m.insert ⟨.iri "other", .iri "p", .iri "stored", none⟩
    (req.call (st.atop m)).done?.map Prod.fst = (req.call (st.atop m')).done?.map Prod.fst ∧
      ∃ st₁ st₂,
        req.call (st.atop m) = .ok (.statements [⟨.iri "s", .iri "p", .iri "staged", none⟩,
          ⟨.iri "s", .iri "p", .iri "stored", none⟩]) st₁ ∧
        req.call (st.atop m') = .ok (.statements [⟨.iri "s", .iri "p", .iri "staged", none⟩,
          ⟨.iri "s", .iri "p", .iri "stored", none⟩]) st₂ := by
  intro st req m m'
  have hsame := @same_answer_on_footprint st (fun hp => nomatch hp) req _ rfl m m'
    (Read.unaffected_iff.mp (by decide +kernel)) (Read.unaffected_iff.mp (by decide +kernel))
  refine ⟨hsame.1, ?_⟩
  obtain ⟨a, st₁, st₂, ha, ha', -⟩ := hsame.2.1 (fun _ => .inl rfl) fun hw => nomatch hw
  have hlist : req.call (st.atop m) = .ok (.statements [⟨.iri "s", .iri "p", .iri "staged", none⟩,
      ⟨.iri "s", .iri "p", .iri "stored", none⟩]) _ := rfl
  obtain ⟨rfl, -⟩ := Outcome.ok.inj (ha.symm.trans hlist)
  exact ⟨st₁, st₂, ha, ha'⟩

end Frame

end QuadTxn
