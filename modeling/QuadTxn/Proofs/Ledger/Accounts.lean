import QuadTxn.Proofs.Ledger.History

/-!
# A ledger says what its log says

A ledger drops repeated reads, twice over: once for the transaction, and once more for each commit
that it records. Its log drops nothing: it is the list of all that the ledger was told of since it
was last cleared. What the ledger answers, and what it records, is read off the log
(`Ledger.answers_follow_log`).
-/

namespace QuadTxn

namespace Ledger

/-! ## Logs -/

/-- A call that changes a ledger. -/
inductive Call where
  /-- the ledger is told of a read or of a commit -/
  | tell (e : Entry)
  /-- the ledger forgets everything -/
  | clear

/-- What a ledger has been told of since it was last cleared, repeats kept. -/
def log (cs : List Call) : List Entry :=
  cs.foldl (fun es c => match c with
    | .tell e => es ++ [e]
    | .clear => []) []

/-- The read that a ledger is told of, if it is one. -/
def Entry.read? : Entry → Option Read
  | .read r => some r
  | .commit _ => none

/-- The reads of a log, in order. -/
def readings (es : List Entry) : List Read := es.filterMap Entry.read?

/-- A commit in a log, between what comes before it and what comes after it. -/
structure Cut where
  /-- what is logged before the commit -/
  before : List Entry
  /-- the change set of the commit -/
  change : ChangeSet
  /-- what is logged after the commit -/
  after : List Entry

/-- The commits in a log, in order. -/
def cuts : List Entry → List Cut
  | [] => []
  | .read r :: es => (cuts es).map fun k => { k with before := .read r :: k.before }
  | .commit c :: es =>
    ⟨[], c, es⟩ :: (cuts es).map fun k => { k with before := .commit c :: k.before }

/-- The commits of a log are found by cutting it in two. -/
theorem mem_cuts {es : List Entry} {k : Cut} :
    k ∈ cuts es ↔ es = k.before ++ .commit k.change :: k.after := by
  induction es generalizing k with
  | nil => simp [cuts]
  | cons e es ih =>
    obtain ⟨before, change, after⟩ := k
    rw [List.cons_eq_append_iff]
    cases e with
    | read r =>
      simp only [cuts, List.mem_map, ih]
      constructor
      · rintro ⟨k, rfl, heq⟩
        cases heq
        exact .inr ⟨k.before, rfl, rfl⟩
      · rintro (⟨-, heq⟩ | ⟨before', rfl, rfl⟩)
        · cases heq
        · exact ⟨⟨before', change, after⟩, rfl, rfl⟩
    | commit c =>
      simp only [cuts, List.mem_cons, List.mem_map, ih]
      constructor
      · rintro (heq | ⟨k, rfl, heq⟩)
        · cases heq
          exact .inl ⟨rfl, rfl⟩
        · cases heq
          exact .inr ⟨k.before, rfl, rfl⟩
      · rintro (⟨rfl, heq⟩ | ⟨before', rfl, rfl⟩)
        · cases heq
          exact .inl rfl
        · exact .inr ⟨⟨before', change, after⟩, rfl, rfl⟩

theorem cuts_read (es : List Entry) (r : Read) :
    cuts (es ++ [.read r]) = (cuts es).map fun k => { k with after := k.after ++ [.read r] } := by
  induction es with
  | nil => rfl
  | cons e es ih => cases e <;> simp [cuts, ih]

theorem cuts_commit (es : List Entry) (c : ChangeSet) :
    cuts (es ++ [.commit c]) =
      (cuts es).map (fun k => { k with after := k.after ++ [.commit c] }) ++ [⟨es, c, []⟩] := by
  induction es with
  | nil => rfl
  | cons e es ih => cases e <;> simp [cuts, ih]

section Effects

variable (effects : Model → Read → Bool)

/-- The conflict that a commit brings to a log: with the first logged read that it affects, and by
what it added if that affects the read. -/
def cause? (es : List Entry) (c : ChangeSet) : Option Conflict :=
  ((readings es).find? fun r => effects c.added r || effects c.removed r).map fun r =>
    ⟨c.source, r, if effects c.added r then .added else .removed⟩

/-- What is recorded of a commit in a log: nothing if it affects no read before it, and otherwise
its conflict and the distinct reads after it. -/
def record? (k : Cut) : Option RecordedChange :=
  (cause? effects k.before k.change).map fun conflict =>
    ⟨k.change, conflict, (readings k.after).eraseDups⟩

/-- The phantom that a commit in a log gives rise to: if it is recorded, the first read after it
that it affects. -/
def phantomOf? (k : Cut) : Option TxnError :=
  (cause? effects k.before k.change).bind fun conflict =>
    ((readings k.after).find? fun r =>
      effects k.change.added r || effects k.change.removed r).map fun r => .phantom r conflict

/-- A ledger after one call. -/
def call (l : Ledger) : Call → Ledger
  | .tell e => take effects l e
  | .clear => ∅

/-- The ledger after some calls. -/
def after (cs : List Call) : Ledger := cs.foldl (call effects) ∅

/-- What a ledger says is what a log says. -/
structure Accounts (l : Ledger) (es : List Entry) : Prop where
  /-- a commit is recorded, in one entry, if it affects a logged read; otherwise nothing changes -/
  changed : ∀ c, l.changed effects c = match cause? effects es c with
    | some conflict => (true, { l with changes := l.changes ++ [⟨c, conflict, []⟩] })
    | none => (false, l)
  /-- so it is if one of its sides affects a logged read -/
  changed_iff : ∀ c, (l.changed effects c).1 = true ↔
    ∃ r, .read r ∈ es ∧ (effects c.added r = true ∨ effects c.removed r = true)
  /-- the records are those of the logged commits, in order -/
  changes : l.changes = (cuts es).filterMap (record? effects)
  /-- the first conflict is that of the first logged commit that affects a read before it -/
  firstConflict : l.firstConflict? =
    (cuts es).findSome? fun k => cause? effects k.before k.change
  /-- the phantom is that of the first recorded commit that gives rise to one -/
  phantom : l.phantom? effects = (cuts es).findSome? (phantomOf? effects)

end Effects

/-! ## Dropping repeats -/

section Repeats

variable {r : Read} {rs : List Read}

theorem eraseDups_concat (rs : List Read) (r : Read) :
    (rs ++ [r]).eraseDups = note r rs.eraseDups := by
  rw [List.eraseDups_append, note]
  by_cases hr : r ∈ rs
  · rw [if_pos (List.mem_eraseDups.mpr hr)]
    simp [List.removeAll, hr]
  · rw [if_neg (mt List.mem_eraseDups.mp hr)]
    simp [List.removeAll, hr, List.eraseDups_cons]

/-- The first read that is looked for is the same whether or not repeats are dropped. -/
theorem find?_eraseDups (p : Read → Bool) : rs.eraseDups.find? p = rs.find? p := by
  induction rs using List.reverseRecOn with
  | nil => rfl
  | append_singleton rs r ih =>
    rw [eraseDups_concat, note]
    split
    · rename_i hr
      rw [ih, List.find?_append]
      rcases hfind : rs.find? p with _ | r'
      · -- a repeat of a read that is not looked for
        have hp := List.find?_eq_none.mp hfind r (List.mem_eraseDups.mp hr)
        rw [List.find?_singleton, if_neg hp]
        rfl
      · rfl
    · rw [List.find?_append, List.find?_append, ih]

end Repeats

section Follow

variable {effects : Model → Read → Bool} {es : List Entry} {c : ChangeSet}

theorem readings_read (es : List Entry) (r : Read) :
    readings (es ++ [.read r]) = readings es ++ [r] := List.filterMap_append

theorem readings_commit (es : List Entry) (c : ChangeSet) :
    readings (es ++ [.commit c]) = readings es :=
  List.filterMap_append.trans (List.append_nil _)

theorem mem_readings {r : Read} : r ∈ readings es ↔ .read r ∈ es := by
  rw [readings, List.mem_filterMap]
  constructor
  · rintro ⟨e, he, hread⟩
    cases e with
    | read r' =>
      obtain rfl := Option.some.inj hread
      exact he
    | commit c => cases hread
  · intro hr
    exact ⟨.read r, hr, rfl⟩

/-- The reads of a ledger are the distinct reads of its log. -/
theorem reads_follow (es : List Entry) :
    (follow effects es).reads = (readings es).eraseDups := by
  induction es using List.reverseRecOn with
  | nil => rfl
  | append_singleton es e ih =>
    rw [follow_snoc]
    cases e with
    | read r => rw [readings_read, eraseDups_concat, ← ih, take, observe]
    | commit c =>
      rw [readings_commit, ← ih, take]
      rcases changed_cases effects (follow effects es) c with ⟨_, -, heq⟩ | ⟨-, heq⟩ <;> rw [heq]

theorem conflict?_eq (l : Ledger) (c : ChangeSet) : l.conflict? effects c =
    (l.reads.find? fun r => effects c.added r || effects c.removed r).map fun r =>
      ⟨c.source, r, if effects c.added r then .added else .removed⟩ := by
  obtain ⟨rs, changes⟩ := l
  simp only [conflict?]
  induction rs with
  | nil => rfl
  | cons r rs ih =>
    rw [List.findSome?_cons, List.find?_cons, direction?, ih]
    rcases ha : effects c.added r <;> rcases hr : effects c.removed r <;> simp [ha]

/-- The conflict that a ledger finds is the one that its log has. -/
theorem conflict?_follow (es : List Entry) (c : ChangeSet) :
    (follow effects es).conflict? effects c = cause? effects es c := by
  rw [conflict?_eq, reads_follow, find?_eraseDups, cause?]

/-- The records of a ledger are those of the commits in its log. -/
theorem changes_follow (es : List Entry) :
    (follow effects es).changes = (cuts es).filterMap (record? effects) := by
  induction es using List.reverseRecOn with
  | nil => rfl
  | append_singleton es e ih =>
    rw [follow_snoc]
    cases e with
    | read r =>
      have hnoted : ∀ k : Cut, record? effects { k with after := k.after ++ [.read r] } =
          (record? effects k).map fun c => { c with later := note r c.later } := by
        intro k
        simp only [record?, readings_read, eraseDups_concat, Option.map_map]
        rfl
      rw [take, observe, ih, cuts_read, List.filterMap_map, List.map_filterMap]
      exact List.filterMap_congr fun k _ => (hnoted k).symm
    | commit c =>
      have hkept : ∀ k : Cut, record? effects { k with after := k.after ++ [.commit c] } =
          record? effects k := by
        intro k
        simp only [record?, readings_commit]
      have hrecords : (cuts (es ++ [.commit c])).filterMap (record? effects) =
          (follow effects es).changes ++ (record? effects ⟨es, c, []⟩).toList := by
        rw [cuts_commit, List.filterMap_append, List.filterMap_map, ih]
        have hlast : [(⟨es, c, []⟩ : Cut)].filterMap (record? effects) =
            (record? effects ⟨es, c, []⟩).toList := by
          rcases h : record? effects ⟨es, c, []⟩ <;> simp [h]
        rw [hlast]
        exact congrArg (· ++ _) (List.filterMap_congr fun k _ => hkept k)
      rw [hrecords, take, changed, conflict?_follow, record?]
      rcases cause? effects es c with _ | conflict
      · exact (List.append_nil _).symm
      · rfl

/-- Looking through what is found in a list is looking through the list. -/
theorem findSome?_filterMap {α β γ : Type} (f : α → Option β) (g : β → Option γ) (l : List α) :
    (l.filterMap f).findSome? g = l.findSome? fun a => (f a).bind g := by
  induction l with
  | nil => rfl
  | cons a l ih =>
    rw [List.findSome?_cons, ← ih]
    rcases h : f a with _ | b
    · rw [List.filterMap_cons_none h]
      rfl
    · rw [List.filterMap_cons_some h]
      rfl

theorem accounts_follow (es : List Entry) : Accounts effects (follow effects es) es where
  changed c := by
    rcases hcause : cause? effects es c with _ | conflict
    · simp only [changed, conflict?_follow, hcause]
    · simp only [changed, conflict?_follow, hcause]
  changed_iff c := by
    have hfound : ((follow effects es).changed effects c).1 = true ↔
        ((follow effects es).conflict? effects c).isSome := by
      rw [changed]
      rcases (follow effects es).conflict? effects c <;> simp
    rw [hfound, conflict?_isSome_iff]
    simp only [mem_reads_follow, Affects]
  changes := changes_follow es
  firstConflict := by
    rw [firstConflict?, changes_follow, List.head?_filterMap, List.map_findSome?]
    congr 1
    funext k
    simp only [Function.comp_apply, record?, Option.map_map, Function.comp_def, Option.map_id']
  phantom := by
    rw [phantom?, changes_follow, findSome?_filterMap]
    congr 1
    funext k
    simp only [record?, phantomOf?, Option.bind_map, Function.comp_def, find?_eraseDups]

end Follow

/-! ## Calls -/

section Calls

variable {effects : Model → Read → Bool}

/-- A ledger keeps what it was told of since it was last cleared. -/
theorem after_eq (cs : List Call) : after effects cs = follow effects (log cs) := by
  induction cs using List.reverseRecOn with
  | nil => rfl
  | append_singleton cs c ih =>
    rw [after, List.foldl_append, log, List.foldl_append]
    cases c with
    | tell e => exact (congrArg (take effects · e) ih).trans (follow_snoc effects (log cs) e).symm
    | clear => rfl

theorem after_append (cs cs' : List Call) :
    after effects (cs ++ cs') = cs'.foldl (call effects) (after effects cs) := List.foldl_append

/-- Two ledgers know the same reads and have recorded the same commits for the same reasons. -/
structure Alike (l l' : Ledger) : Prop where
  /-- the reads are the same -/
  reads : l.reads = l'.reads
  /-- the recorded commits and their conflicts are the same -/
  recorded : l.changes.map (fun c => (c.change, c.conflict)) =
    l'.changes.map fun c => (c.change, c.conflict)

namespace Alike

variable {l l' : Ledger}

/-- A repeat only shows in the reads after the commits. -/
theorem observe_repeat {r : Read} (hr : r ∈ l.reads) : Alike (l.observe r) l := by
  refine ⟨?_, ?_⟩
  · rw [observe, note, if_pos hr]
  · rw [observe, List.map_map]
    rfl

theorem observe (h : Alike l l') (r : Read) : Alike (l.observe r) (l'.observe r) := by
  refine ⟨?_, ?_⟩
  · rw [Ledger.observe, Ledger.observe, h.reads]
  · rw [Ledger.observe, Ledger.observe, List.map_map, List.map_map]
    exact h.recorded

theorem conflict?_eq (h : Alike l l') (c : ChangeSet) :
    l.conflict? effects c = l'.conflict? effects c := by
  rw [conflict?, conflict?, h.reads]

theorem changed_eq (h : Alike l l') (c : ChangeSet) :
    (l.changed effects c).1 = (l'.changed effects c).1 ∧
      Alike (l.changed effects c).2 (l'.changed effects c).2 := by
  rw [changed, changed, h.conflict?_eq]
  rcases l'.conflict? effects c with _ | conflict
  · exact ⟨rfl, h⟩
  · refine ⟨rfl, h.reads, ?_⟩
    rw [List.map_append, List.map_append, h.recorded]

theorem call (h : Alike l l') (c : Call) : Alike (l.call effects c) (l'.call effects c) := by
  cases c with
  | tell e =>
    cases e with
    | read r => exact h.observe r
    | commit c => exact (h.changed_eq c).2
  | clear => exact ⟨rfl, rfl⟩

theorem foldl (h : Alike l l') (cs : List Call) :
    Alike (cs.foldl (Ledger.call effects) l) (cs.foldl (Ledger.call effects) l') := by
  induction cs generalizing l l' with
  | nil => exact h
  | cons c cs ih => exact ih (h.call c)

theorem firstConflict?_eq (h : Alike l l') : l.firstConflict? = l'.firstConflict? := by
  have hhead := congrArg (fun rs => rs.head?.map Prod.snd) h.recorded
  simpa only [List.head?_map, Option.map_map, firstConflict?, Function.comp_def] using hhead

end Alike

/-- A read that is known, and known since every recorded commit, can be repeated without effect. -/
theorem observe_eq_self {l : Ledger} {r : Read} (hr : r ∈ l.reads)
    (hlater : ∀ c ∈ l.changes, r ∈ c.later) : l.observe r = l := by
  have hchanges : l.changes.map (fun c => { c with later := note r c.later }) = l.changes := by
    refine (List.map_congr_left fun c hc => ?_).trans (List.map_id _)
    rw [note, if_pos (hlater c hc)]
    rfl
  rw [observe, hchanges, note, if_pos hr]

/-- What a ledger answers and records is what its log says, with every repeat kept: when a commit is
recorded, with which conflict and which reads after it, what the first conflict is and what the
phantom. Repeating a logged read changes neither which commits are recorded nor their conflicts, and
changes nothing at all if the read has been repeated after each of them already. -/
theorem answers_follow_log (effects : Model → Read → Bool) (cs : List Call) :
    Accounts effects (after effects cs) (log cs) ∧
      ∀ r, .read r ∈ log cs → ∀ cs',
        let once := after effects (cs ++ cs')
        let again := after effects (cs ++ .tell (.read r) :: cs')
        (again.changes.map fun c => (c.change, c.conflict)) =
            (once.changes.map fun c => (c.change, c.conflict)) ∧
          again.firstConflict? = once.firstConflict? ∧
          (∀ c, (again.changed effects c).1 = (once.changed effects c).1) ∧
          ((∀ before c since, log cs = before ++ .commit c :: since →
            (cause? effects before c).isSome → .read r ∈ since) → again = once) := by
  refine ⟨after_eq cs ▸ accounts_follow (log cs), fun r hr cs' => ?_⟩
  have hknown : r ∈ (after effects cs).reads := by
    rw [after_eq]
    exact (mem_reads_follow effects).mpr hr
  have hagain : after effects (cs ++ .tell (.read r) :: cs') =
      cs'.foldl (call effects) ((after effects cs).observe r) := after_append cs _
  have halike : Alike (after effects (cs ++ .tell (.read r) :: cs'))
      (after effects (cs ++ cs')) := by
    rw [hagain, after_append]
    exact (Alike.observe_repeat hknown).foldl cs'
  refine ⟨halike.recorded, halike.firstConflict?_eq, fun c => (halike.changed_eq c).1, ?_⟩
  intro hsince
  have hlater : ∀ c ∈ (after effects cs).changes, r ∈ c.later := by
    intro c hc
    rw [after_eq, changes_follow] at hc
    obtain ⟨k, hk, hrecord⟩ := List.mem_filterMap.mp hc
    obtain ⟨conflict, hcause, rfl⟩ := Option.map_eq_some_iff.mp hrecord
    have hread := hsince k.before k.change k.after (mem_cuts.mp hk)
      (Option.isSome_of_eq_some hcause)
    exact List.mem_eraseDups.mpr (mem_readings.mpr hread)
  rw [hagain, after_append, observe_eq_self hknown hlater]

/-- Repeating a read after a commit that affects it makes a phantom of it. -/
theorem repeated_read_is_a_phantom :
    let r : Read := .ofPattern .any false
    let c : ChangeSet := ⟨"b", .ofList [⟨.iri "s", .iri "p", .iri "o", none⟩], ∅⟩
    let cs : List Call := [.tell (.read r), .tell (.commit c)]
    .read r ∈ log cs ∧ (after Read.affectedBy cs).phantom? Read.affectedBy = none ∧
      (after Read.affectedBy (cs ++ [.tell (.read r)])).phantom? Read.affectedBy =
        some (.phantom r ⟨"b", r, .added⟩) := by
  refine ⟨List.mem_cons_self, ?_, ?_⟩ <;> decide +kernel

end Calls

end Ledger

end QuadTxn
