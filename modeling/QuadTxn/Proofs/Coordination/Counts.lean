import QuadTxn.Proofs.Coordination.Histories

/-!
# Counting transactions

The milestones of a connection alternate (`Milestone.Alternates`): a transaction begins where none
runs, and ends where one runs. So what is entered for them can be counted
(`Coordinator.entered_foldl_enter`): the slots are those of the running transactions, and each
counter grows by the milestones of its kind. In an episode there is at most one of each kind, and
what has happened says which (`Episode.counts`).
-/

namespace QuadTxn

namespace Milestone

/-- A transaction begins where none runs, and ends where one runs. -/
def Alternates : Bool → List Milestone → Prop
  | _, [] => True
  | active, m :: ms => m.runs = !active ∧ Alternates m.runs ms

/-- The transactions that run before or begin are those that end or run afterwards. -/
theorem Alternates.count {active : Bool} {ms : List Milestone} (h : Alternates active ms) :
    (ms.foldl (fun _ m => m.runs) active).toNat + ms.count .committed + ms.count .dropped =
      active.toNat + ms.count .begun := by
  induction ms generalizing active with
  | nil => rfl
  | cons m ms ih =>
    have hrest := ih h.2
    have hm := h.1
    cases m with
    | begun =>
      obtain rfl : active = false := by simpa [runs] using hm
      simp [runs] at hrest ⊢
      omega
    | committed | dropped =>
      obtain rfl : active = true := by simpa [runs] using hm
      simp [runs] at hrest ⊢
      omega

end Milestone

namespace Coordinator

/-- The slot of a connection with or without a running transaction. -/
def slotOf (id : ConnectionId) (active : Bool) : Option (Slot ConnectionId) :=
  if active then some ⟨id, false⟩ else none

/-- Milestones of a connection have been entered. -/
structure Entered (id : ConnectionId) (active : Bool) (ms : List Milestone)
    (c c' : Coordinator ConnectionId) : Prop where
  /-- the connection has a slot if its transaction runs; the other slots are as they were -/
  slots : ∀ j, c'.slots.get? j =
    if j = id then slotOf id (ms.foldl (fun _ m => m.runs) active) else c.slots.get? j
  /-- transactions that began -/
  started : c'.started = c.started + ms.count .begun
  /-- transactions that were committed -/
  committed : c'.committed = c.committed + ms.count .committed
  /-- transactions that were dropped -/
  aborted : c'.aborted = c.aborted + ms.count .dropped

variable {id : ConnectionId} {c c' : Coordinator ConnectionId} {active : Bool} {m : Milestone}
  {ms : List Milestone}

theorem Entered.congr (h : Entered id active ms c c') {c'' : Coordinator ConnectionId}
    (hs : c'.SameBooks c'') : Entered id active ms c c'' where
  slots := by rw [hs.slots]; exact h.slots
  started := hs.started.trans h.started
  committed := hs.committed.trans h.committed
  aborted := hs.aborted.trans h.aborted

/-- One milestone. -/
theorem entered_enter (hslot : c.slots.get? id = slotOf id active) (hm : m.runs = !active) :
    Entered id active [m] c (m.enter id c) := by
  cases m with
  | begun =>
    obtain rfl : active = false := by simpa [Milestone.runs] using hm
    have hnone : c.slots.contains id = false := by
      rw [SortedMap.contains, hslot]
      rfl
    refine ⟨get?_slots_begin c id id, ?_, rfl, rfl⟩
    simp [Milestone.enter, Coordinator.begin, hnone]
  | committed =>
    obtain rfl : active = true := by simpa [Milestone.runs] using hm
    have hmarked : (c.markCommitted id).slots.get? id = some ⟨id, true⟩ := by
      rw [get?_slots_markCommitted, if_pos rfl, hslot]
      rfl
    have hkept := markCommitted_eq c id
    rw [Milestone.enter]
    refine ⟨fun j => ?_, ?_, ?_, ?_⟩
    · rw [get?_slots_finish, get?_slots_markCommitted]
      split <;> rfl
    · simp [finish, hmarked]
      rw [hkept]
    · simp [finish, hmarked]
      rw [hkept]
    · simp [finish, hmarked]
      rw [hkept]
  | dropped =>
    obtain rfl : active = true := by simpa [Milestone.runs] using hm
    refine ⟨get?_slots_finish c id, ?_, ?_, ?_⟩ <;>
      simp [Milestone.enter, finish, hslot, slotOf]

/-- All milestones of a course. -/
theorem entered_foldl_enter (hslot : c.slots.get? id = slotOf id active)
    (hms : Milestone.Alternates active ms) :
    Entered id active ms c (ms.foldl (Milestone.enter id) c) := by
  induction ms generalizing c active with
  | nil =>
    refine ⟨fun j => ?_, rfl, rfl, rfl⟩
    split
    · rename_i hj
      rw [hj]
      exact hslot
    · rfl
  | cons m ms ih =>
    have hone := entered_enter hslot hms.1
    have hrest := ih ((hone.slots id).trans (if_pos rfl)) hms.2
    refine ⟨fun j => ?_, ?_, ?_, ?_⟩
    · rw [List.foldl_cons, hrest.slots, hone.slots]
      split <;> rfl
    · rw [List.foldl_cons, hrest.started, hone.started, Nat.add_assoc, ← List.count_append]
      rfl
    · rw [List.foldl_cons, hrest.committed, hone.committed, Nat.add_assoc, ← List.count_append]
      rfl
    · rw [List.foldl_cons, hrest.aborted, hone.aborted, Nat.add_assoc, ← List.count_append]
      rfl

/-- What is entered leaves the books balanced. -/
theorem Balanced.foldl_enter (h : c.Balanced) (id : ConnectionId) (ms : List Milestone) :
    (ms.foldl (Milestone.enter id) c).Balanced := by
  induction ms generalizing c with
  | nil => exact h
  | cons m ms ih =>
    cases m with
    | begun => exact ih (h.begin id id)
    | committed => exact ih ((h.markCommitted id).finish id)
    | dropped => exact ih (h.finish id)

end Coordinator

/-! ## Episodes -/

namespace Request

/-- Whether a request, made on a connection with or without a running transaction, begins one. -/
def begins (active : Bool) : Request → Bool
  | .begin => !active
  | _ => false

/-- Whether a request, made on a connection with or without a running transaction, is a commit of it
that is answered. -/
def commits (active : Bool) : Request → Progress Answer → Bool
  | .commit, .answered _ => active
  | _, _ => false

variable {req : Request} {active : Bool} {p : Progress Answer}

theorem opening_eq (req : Request) (active : Bool) :
    req.opening active = if req.begins active then [.begun] else [] := by
  cases req with
  | begin => cases active <;> rfl
  | _ => rfl

/-- A transaction begins only where none runs. -/
theorem inactive_of_begins (h : req.begins active = true) : active = false := by
  cases req with
  | begin => simpa [begins] using h
  | _ => cases h

theorem milestones_of_not_delimits (h : req.delimits = false) : req.milestones active p = [] := by
  cases p with
  | answered a => exact ending_of_not_delimits h active true
  | failed e =>
    rw [milestones]
    split
    · rfl
    · exact ending_of_not_delimits h active false
  | waiting | busy | nothing => rfl

theorem commits_of_not_delimits (h : req.delimits = false) : req.commits active p = false := by
  cases req <;> first | rfl | cases h

/-- Once a request is under way, a transaction may end, but none begins. -/
theorem milestones_cases (req : Request) (active : Bool) (p : Progress Answer) :
    (req.commits active p = true ∧ active = true ∧ req.milestones active p = [.committed]) ∨
      req.commits active p = false ∧ (req.milestones active p = [] ∨
        active = true ∧ req.milestones active p = [.dropped]) := by
  cases hd : req.delimits with
  | false => exact .inr ⟨commits_of_not_delimits hd, .inl (milestones_of_not_delimits hd)⟩
  | true =>
    cases p with
    | answered a => cases req <;> cases active <;> simp_all [delimits, milestones, ending, commits]
    | failed e =>
      rw [milestones]
      cases e.isRefusal <;> cases req <;> cases active <;> simp_all [delimits, ending, commits]
    | waiting | busy | nothing => cases req <;> exact .inr ⟨rfl, .inl rfl⟩

theorem count_milestones (req : Request) (active : Bool) (p : Progress Answer) :
    Milestone.Alternates active (req.milestones active p) ∧
      (req.milestones active p).count .begun = 0 ∧
      (req.milestones active p).count .committed = (req.commits active p).toNat := by
  rcases milestones_cases req active p with ⟨hc, rfl, hms⟩ | ⟨hc, hms | ⟨rfl, hms⟩⟩
  · rw [hc, hms]
    exact ⟨⟨rfl, trivial⟩, rfl, rfl⟩
  · rw [hc, hms]
    exact ⟨trivial, rfl, rfl⟩
  · rw [hc, hms]
    exact ⟨⟨rfl, trivial⟩, rfl, rfl⟩

end Request

namespace Episode

variable {σ : Type} [Backend σ]

/-- Whether a transaction begins: `begin` is called where none runs. -/
def begins (e : Episode σ) : Bool :=
  match e.turn with
  | .made id req => req.begins (e.before.connection id).isActive
  | .resumed .. | .left _ | .aside => false

/-- Whether a running transaction is ended by a commit that is answered. -/
def commits (e : Episode σ) : Bool :=
  match e.turn with
  | .made id req | .resumed id req => req.commits (e.before.connection id).isActive e.progress
  | .left _ | .aside => false

/-- Whether a transaction that ran before, or has begun, is ended in any other way. -/
def aborts (e : Episode σ) : Bool :=
  match e.turn with
  | .made id _ | .resumed id _ | .left id =>
    ((e.before.connection id).isActive || e.begins) && !(e.after.connection id).isActive &&
      !e.commits
  | .aside => false

theorem count_milestones (e : Episode σ) {id : ConnectionId} (hon : e.turn.On id) :
    Milestone.Alternates (e.before.connection id).isActive e.milestones ∧
      e.milestones.count .begun = e.begins.toNat ∧
      e.milestones.count .committed = e.commits.toNat := by
  obtain ⟨before, turn, p, after⟩ := e
  cases turn with
  | made j req =>
    obtain rfl : j = id := hon
    dsimp only [milestones, begins, commits]
    generalize (before.connection j).isActive = active
    rw [req.opening_eq]
    split
    · rename_i hbegins
      obtain rfl := Request.inactive_of_begins hbegins
      obtain ⟨halternates, hbegun, hcommitted⟩ := req.count_milestones true p
      refine ⟨⟨rfl, halternates⟩, ?_, ?_⟩
      · rw [hbegins]
        exact (List.count_cons_self ..).trans (congrArg (· + 1) hbegun)
      · refine (List.count_cons_of_ne (by decide)).trans (hcommitted.trans ?_)
        cases req <;> simp_all [Request.begins, Request.commits]
    · rename_i hbegins
      rw [Bool.not_eq_true] at hbegins
      rw [hbegins]
      exact req.count_milestones active p
  | resumed j req =>
    obtain rfl : j = id := hon
    exact Request.count_milestones req _ p
  | left j =>
    obtain rfl : j = id := hon
    dsimp only [milestones, begins, commits, Request.ending]
    split
    · rename_i hactive
      rw [hactive]
      exact ⟨⟨rfl, trivial⟩, rfl, rfl⟩
    · exact ⟨trivial, rfl, rfl⟩
  | aside => exact ⟨trivial, rfl, rfl⟩

/-- A transaction of the connection is dropped if it ran before or has begun, does not run
afterwards, and was not committed. -/
theorem count_dropped {e : Episode σ} {id : ConnectionId} (hon : e.turn.On id)
    (hreaches : e.before.Reaches id e.milestones e.after) :
    e.milestones.count .dropped = e.aborts.toNat := by
  obtain ⟨halternates, hbegun, hcommitted⟩ := e.count_milestones hon
  have hcount := halternates.count
  rw [← hreaches.active_self, hbegun, hcommitted] at hcount
  have haborts : e.turn = .aside ∨ e.aborts =
      (((e.before.connection id).isActive || e.begins) && !(e.after.connection id).isActive &&
        !e.commits) := by
    rw [aborts]
    cases hturn : e.turn with
    | made j req | resumed j req | left j =>
      rw [hturn] at hon
      obtain rfl : j = id := hon
      exact .inr rfl
    | aside => exact .inl rfl
  have hbegins : e.begins = true → (e.before.connection id).isActive = false := by
    rw [begins]
    cases hturn : e.turn with
    | made j req =>
      rw [hturn] at hon
      obtain rfl : j = id := hon
      exact Request.inactive_of_begins
    | resumed | left | aside => exact fun h => (nomatch h)
  rcases haborts with haside | haborts
  · rw [milestones, aborts, haside]
    rfl
  · rw [haborts]
    revert hcount hbegins
    generalize (e.before.connection id).isActive = before
    generalize (e.after.connection id).isActive = after
    generalize e.begins = begins
    generalize e.commits = commits
    cases before <;> cases after <;> cases begins <;> cases commits <;> simp <;> omega

/-- What an episode counts. -/
structure Counted (e : Episode σ) : Prop where
  /-- a transaction that has begun -/
  started : e.after.coordinator.started = e.before.coordinator.started + e.begins.toNat
  /-- one that was committed -/
  committed : e.after.coordinator.committed = e.before.coordinator.committed + e.commits.toNat
  /-- one that has ended otherwise -/
  aborted : e.after.coordinator.aborted = e.before.coordinator.aborted + e.aborts.toNat

section Counted

variable {e : Episode σ} {id : ConnectionId} (hon : e.turn.On id)
  (hreaches : e.before.Reaches id e.milestones e.after)
  (hslot : e.before.coordinator.slots.get? id =
    Coordinator.slotOf id (e.before.connection id).isActive)

include hon hreaches hslot

theorem entered : Coordinator.Entered id (e.before.connection id).isActive e.milestones
    e.before.coordinator e.after.coordinator :=
  (Coordinator.entered_foldl_enter hslot (e.count_milestones hon).1).congr hreaches.books

theorem counted : e.Counted := by
  have hentered := entered hon hreaches hslot
  obtain ⟨-, hbegun, hcommitted⟩ := e.count_milestones hon
  refine ⟨?_, ?_, ?_⟩
  · rw [hentered.started, hbegun]
  · rw [hentered.committed, hcommitted]
  · rw [hentered.aborted, count_dropped hon hreaches]

end Counted

end Episode

end QuadTxn
