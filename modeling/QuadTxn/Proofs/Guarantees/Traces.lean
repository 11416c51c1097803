import QuadTxn.Proofs.Shadows.Systems

/-!
# Abandoned transactions leave no trace

A transaction that is rolled back, or that a conflict prevents from being committed, makes no
difference to anybody else. The run without any of its calls is possible as well, and every other
call is answered the same in it, the store is the same at every point, and the commit listeners and
the other participants are told the same (`System.abandoned_transaction_leaves_no_trace`).

The run without the transaction is its shadow: it follows the other steps, and stays where it is
while the transaction makes its own.
-/

namespace QuadTxn

namespace Transition

/-- The step is a call of a connection. -/
def isCallOf (id : ConnectionId) (t : Transition) : Bool :=
  match t.occurrence with
  | .request j _ => j = id
  | _ => false

/-- A connection gives its transaction up in a step: it rolls back, or meets a conflict. -/
def GivesUp (id : ConnectionId) (t : Transition) : Prop :=
  ∃ req, t.occurrence = .request id req ∧
    (req = .rollback ∨ ∃ e, t.result = .error e ∧ e.isConflict = true)

/-- Two steps are the same to everybody but the hidden connection, if there is one. -/
structure Alike (hidden : Option ConnectionId) (t t' : Transition) : Prop where
  /-- the same happens -/
  occurrence : t'.occurrence = t.occurrence
  /-- the same is answered -/
  result : t'.result = t.result
  /-- what is committed is the same before -/
  before : t'.before.store = t.before.store
  /-- what is committed is the same afterwards -/
  after : t'.after.store = t.after.store
  /-- the commit listeners have been told the same before -/
  toldBefore : t'.before.coordinator.told = t.before.coordinator.told
  /-- the commit listeners have been told the same afterwards -/
  toldAfter : t'.after.coordinator.told = t.after.coordinator.told
  /-- every participant that is not hidden is told the same -/
  received : ∀ j, hidden ≠ some j → t'.received j = t.received j

end Transition

/-- The course of a transaction that is begun and given up, and that changes nothing that outlasts
it. -/
structure Abandoned (id : ConnectionId) (first : Transition) (inside : List Transition)
    (final : Transition) : Prop where
  /-- the transaction is begun -/
  begins : first.occurrence = .request id .begin
  /-- it has begun -/
  begun : ∃ a, first.result = .ok a
  /-- it runs on -/
  runs : ∀ t ∈ inside, (t.after.connection id).isActive = true
  /-- it sets no isolation, and no listener of writes -/
  plain : ∀ t ∈ inside, ∀ req, t.occurrence = .request id req → req.outlasts = false
  /-- nobody is refused the gate while it runs -/
  granted : ∀ t ∈ inside, ∀ ms, t.result ≠ .error (.lockTimeout ms)
  /-- it is given up -/
  ends : final.GivesUp id

namespace System

/-! ## Runs of a shadow -/

theorem Shadows.follow {hidden : Option ConnectionId} {sys shadow sys' : System Session}
    {o : Occurrence} {r : Except TxnError Answer} (h : Shadows hidden sys shadow)
    (hfollows : Follows hidden sys shadow o r sys') :
    ∃ shadow', Step shadow o r shadow' ∧ Shadows hidden sys' shadow' ∧
      Transition.Alike hidden ⟨sys, o, r, sys'⟩ ⟨shadow, o, r, shadow'⟩ := by
  obtain ⟨shadow', hs, h', hreceived⟩ := hfollows
  exact ⟨shadow', hs, h', rfl, rfl, h.store, h'.store, h.told, h'.told, hreceived⟩

/-- A shadow in which nothing is hidden follows every step. -/
theorem Shadows.run {start sys shadow : System Session} {ts : List Transition}
    (h : Shadows none start shadow) (hr : Run start ts sys) :
    ∃ kept last, Run shadow kept last ∧ List.Forall₂ (Transition.Alike none) ts kept ∧
      Shadows none sys last := by
  induction ts generalizing start shadow with
  | nil =>
    obtain rfl := hr.of_nil rfl
    exact ⟨[], shadow, .nil, .nil, h⟩
  | cons t ts ih =>
    obtain ⟨before, o, r, after⟩ := t
    obtain ⟨rfl, hs, hrest⟩ := hr.uncons
    obtain ⟨mid, hs', hmid, halike⟩ := h.follow (h.step hs nofun fun hne => absurd rfl hne)
    obtain ⟨kept, last, hrun, hkept, hlast⟩ := ih hmid hrest
    exact ⟨⟨shadow, o, r, mid⟩ :: kept, last, hrun.cons hs', .cons halike hkept, hlast⟩

/-- While a transaction runs, its shadow follows the steps that are not its own. -/
theorem Shadows.run_hidden {id : ConnectionId} {start sys shadow : System Session}
    {ts : List Transition} (h : Shadows (some id) start shadow) (hr : Run start ts sys)
    (hruns : ∀ t ∈ ts, (t.after.connection id).isActive = true)
    (hplain : ∀ t ∈ ts, ∀ req, t.occurrence = .request id req → req.outlasts = false)
    (hgranted : ∀ t ∈ ts, ∀ ms, t.result ≠ .error (.lockTimeout ms)) :
    ∃ kept last, Run shadow kept last ∧
      List.Forall₂ (Transition.Alike (some id)) (ts.filter fun t => !t.isCallOf id) kept ∧
      Shadows (some id) sys last := by
  induction ts generalizing start shadow with
  | nil =>
    obtain rfl := hr.of_nil rfl
    exact ⟨[], shadow, .nil, .nil, h⟩
  | cons t ts ih =>
    obtain ⟨before, o, r, after⟩ := t
    obtain ⟨rfl, hs, hrest⟩ := hr.uncons
    rw [List.forall_mem_cons] at hruns hplain hgranted
    rcases hown : Transition.isCallOf id ⟨before, o, r, after⟩ with _ | _
    · have hother : ∀ req, o ≠ .request id req := by
        rintro req rfl
        simp [Transition.isCallOf] at hown
      obtain ⟨mid, hs', hmid, halike⟩ := h.follow (h.step hs
        (fun j hj => Option.some.inj hj ▸ ⟨hother, hruns.1⟩) fun _ => hgranted.1)
      obtain ⟨kept, last, hrun, hkept, hlast⟩ := ih hmid hrest hruns.2 hplain.2 hgranted.2
      refine ⟨⟨shadow, o, r, mid⟩ :: kept, last, hrun.cons hs', ?_, hlast⟩
      rw [List.filter_cons_of_pos (by simp [hown])]
      exact .cons halike hkept
    · obtain ⟨req, rfl⟩ : ∃ req, o = .request id req := by
        cases o with
        | request j req =>
          obtain rfl : j = id := by simpa [Transition.isCallOf] using hown
          exact ⟨req, rfl⟩
        | _ => cases hown
      obtain ⟨kept, last, hrun, hkept, hlast⟩ :=
        ih (h.hide hs (hplain.1 req rfl) hruns.1) hrest hruns.2 hplain.2 hgranted.2
      refine ⟨kept, last, hrun, ?_, hlast⟩
      rwa [List.filter_cons_of_neg (by simp [hown])]

/-! ## The guarantee -/

/-- A transaction that is given up leaves no trace for anybody else. If its calls, from its begin to
its end, are taken out of a run, then what is left is a run. Every other call is answered the same
in it, the later calls of the connection itself included. At every point the committed statements,
the namespaces and the version of the store are the same, and so is what the commit listeners have
been told; every other participant is told the same. In the end the two systems differ at most in
the counters of the coordinator and in what the connections have reported to their own listeners. -/
theorem abandoned_transaction_leaves_no_trace {id : ConnectionId}
    {earlier inside later : List Transition} {first final : Transition} {sys : System Session}
    (hr : Run .new (earlier ++ first :: (inside ++ final :: later)) sys)
    (h : Abandoned id first inside final) :
    ∃ kept rest last, Run .new (earlier ++ (kept ++ rest)) last ∧
      List.Forall₂ (Transition.Alike (some id)) (inside.filter fun t => !t.isCallOf id) kept ∧
      List.Forall₂ (Transition.Alike none) later rest ∧ Shadows none sys last := by
  obtain ⟨start, hearlier, hrest⟩ := hr.split rfl
  obtain ⟨rfl, hfirst, hrest⟩ := hrest.uncons
  obtain ⟨mid, hinside, hrest⟩ := hrest.split rfl
  obtain ⟨rfl, hfinal, hlater⟩ := hrest.uncons
  have hstart := Coherent.new.run hearlier
  obtain ⟨a, hok⟩ := h.begun
  rw [h.begins, hok] at hfirst
  obtain ⟨kept, shadow, hkept, halike, hhidden⟩ :=
    ((Shadows.refl hstart).begin hfirst).run_hidden hinside h.runs h.plain h.granted
  obtain ⟨req, hreq, hends⟩ := h.ends
  rw [hreq] at hfinal
  have hact : (final.before.connection id).isActive = true :=
    (hinside.forall_before (P := fun sys => (sys.connection id).isActive = true)
      (begun_of_step hstart hfirst).2.1 h.runs).2
  obtain ⟨rest, last, hrest, halike', hlast⟩ := (hhidden.reveal hfinal hact hends).run hlater
  exact ⟨kept, rest, last, hearlier.append (hkept.append hrest), halike, halike', hlast⟩

/-- A connection lists all statements, another one commits a statement, and the first one lists them
again. It cannot be committed then, and leaves no trace for what the two do afterwards. -/
theorem phantom_leaves_no_trace : ∃ answer start inside mid e final later sys,
    Step .new (.request "a" .begin) (.ok answer) start ∧
    requests start [("a", .getStatements ⟨none, none, none, []⟩ false), ("b", .begin),
      ("b", .addStatement ⟨.iri "s", .iri "p", .iri "o", none⟩), ("b", .commit),
      ("a", .getStatements ⟨none, none, none, []⟩ false)] = some (inside, mid) ∧
    Step mid (.request "a" .commit) (.error e) final ∧ e.isConflict = true ∧
    requests final [("a", .begin), ("b", .graphNames)] = some (later, sys) ∧
    ∃ kept rest last, Run .new (kept ++ rest) last ∧
      List.Forall₂ (Transition.Alike (some "a")) (inside.filter fun t => !t.isCallOf "a") kept ∧
      List.Forall₂ (Transition.Alike none) later rest ∧ Shadows none sys last := by
  obtain ⟨r, start, inside, mid, r', final, hbegin, hinside, hcommit, hcheck⟩ :=
    requests_of_check_ends
      (fun first inside last => first.result.isOk &&
        inside.all (fun t => t.result.isOk && (t.after.connection "a").isActive) &&
        (match last.result with
          | .error e => e.isConflict
          | .ok _ => false) &&
        (requests last.after [("a", .begin), ("b", .graphNames)]).isSome)
      (by decide +kernel : ((requests .new ([("a", .begin)] ++
        ([("a", .getStatements ⟨none, none, none, []⟩ false), ("b", .begin),
          ("b", .addStatement ⟨.iri "s", .iri "p", .iri "o", none⟩), ("b", .commit),
          ("a", .getStatements ⟨none, none, none, []⟩ false)] ++ [("a", .commit)]))).any _) = true)
  simp only [Bool.and_eq_true, List.all_eq_true] at hcheck
  obtain ⟨⟨⟨hok, hruns⟩, hconflict⟩, hplay⟩ := hcheck
  obtain ⟨answer, rfl⟩ := answered_of_isOk hok
  obtain ⟨⟨later, sys⟩, hlater⟩ := Option.isSome_iff_exists.mp hplay
  split at hconflict
  · rename_i e
    have hgranted : ∀ t ∈ inside, ∀ ms, t.result ≠ .error (.lockTimeout ms) := by
      intro t ht ms heq
      have hok := (hruns t ht).1
      rw [heq] at hok
      cases hok
    have hplain : ∀ t ∈ inside, ∀ req, t.occurrence = .request "a" req →
        req.outlasts = false := by
      intro t ht req heq
      obtain ⟨e, he, hreq⟩ := exists_request_of_mem hinside ht
      obtain ⟨-, rfl⟩ := Occurrence.request.inj (heq.symm.trans hreq)
      clear hreq heq
      revert e
      decide
    have hr : Run .new ([] ++ _ :: (inside ++ _ :: later)) sys :=
      ((run_of_requests hinside).1.append ((run_of_requests hlater).1.cons hcommit)).cons hbegin
    exact ⟨answer, start, inside, mid, e, final, later, sys, hbegin, hinside, hcommit, hconflict,
      hlater, abandoned_transaction_leaves_no_trace hr
        ⟨rfl, ⟨answer, rfl⟩, fun t ht => (hruns t ht).2, hplain, hgranted,
          .commit, rfl, .inr ⟨e, rfl, hconflict⟩⟩⟩
  · cases hconflict

end System

end QuadTxn
