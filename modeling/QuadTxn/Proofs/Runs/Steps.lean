import QuadTxn.Proofs.Calls.Frames

/-!
# Runs of a system

A run is a list of steps, each with what it was answered and with the systems before and after it.
Every request of a connection is one step. A request that would have to wait is no step: it can be
made only once the gate admits it. Apart from requests, connections come and go, statements are put
into the store directly, the store is told to fail, and commit listeners are added.
-/

namespace QuadTxn

/-- Something that happens to a system. -/
inductive Occurrence where
  /-- a request is made on a connection -/
  | request (id : ConnectionId) (req : Request)
  /-- a connection is added -/
  | connect (id : ConnectionId) (level : IsolationLevel) (lockTimeout : Option Nat)
  /-- a connection is taken out -/
  | disconnect (id : ConnectionId)
  /-- a statement is put into the store directly -/
  | insert (s : Statement)
  /-- the next native prepare is to fail -/
  | failPrepare
  /-- the next native commit is to fail -/
  | failCommit
  /-- a commit listener is added -/
  | watch

namespace Occurrence

/-- What is done to the system. -/
def act : Occurrence → Action (System Session) Answer
  | .request id req => System.handle id req
  | .connect id level lockTimeout => do
    System.connect { Connection.new id level with lockTimeout := lockTimeout }
    return .none
  | .disconnect id => do System.disconnect id; return .none
  | .insert s => do System.onStore (·.insert s); return .none
  | .failPrepare => do System.onStore ({ · with failPrepare := true }); return .none
  | .failCommit => do System.onStore ({ · with failCommit := true }); return .none
  | .watch => do System.watch; return .none

/-- A connection that is added has a new name. -/
def Possible (sys : System Session) : Occurrence → Prop
  | .connect id _ _ => sys.connections.get? id = none
  | _ => True

end Occurrence

namespace System

/-- A system takes a step. -/
def Step (sys : System Session) (o : Occurrence) (r : Except TxnError Answer)
    (sys' : System Session) : Prop :=
  o.Possible sys ∧ (o.act sys).done? = some (r, sys')

end System

/-- A step that was taken. -/
structure Transition where
  /-- the system before the step -/
  before : System Session
  /-- what happened -/
  occurrence : Occurrence
  /-- what was answered -/
  result : Except TxnError Answer
  /-- the system after the step -/
  after : System Session

/-- What holds of every step holds of the earlier ones, and of the last one. -/
theorem Transition.forall_snoc {P : Transition → Prop} {ts : List Transition} {t : Transition}
    (h : ∀ t' ∈ ts ++ [t], P t') : (∀ t' ∈ ts, P t') ∧ P t := by
  obtain ⟨hearly, hlast⟩ := List.forall_mem_append.mp h
  exact ⟨hearly, hlast t (List.mem_singleton_self t)⟩

namespace System

/-- The steps from one system to another. -/
inductive Run (start : System Session) : List Transition → System Session → Prop where
  /-- nothing has happened -/
  | nil : Run start [] start
  /-- one more step is taken -/
  | snoc {ts : List Transition} {sys sys' : System Session} {o : Occurrence}
    {r : Except TxnError Answer} : Run start ts sys → Step sys o r sys' →
      Run start (ts ++ [⟨sys, o, r, sys'⟩]) sys'

/-- A run goes through the system that a part of it leads to. -/
theorem Run.split {start sys : System Session} {ts : List Transition} (hr : Run start ts sys)
    {ts₁ ts₂ : List Transition} (hts : ts = ts₁ ++ ts₂) :
    ∃ mid, Run start ts₁ mid ∧ Run mid ts₂ sys := by
  induction hr generalizing ts₂ with
  | nil =>
    obtain ⟨rfl, rfl⟩ := List.append_eq_nil_iff.mp hts.symm
    exact ⟨start, .nil, .nil⟩
  | @snoc ts sys sys' o r hr hs ih =>
    rcases List.eq_nil_or_concat ts₂ with rfl | ⟨ts₂, t, rfl⟩
    · rw [List.append_nil] at hts
      exact ⟨sys', hts ▸ hr.snoc hs, .nil⟩
    · -- the last step belongs to the second part
      rw [List.concat_eq_append, ← List.append_assoc] at hts
      obtain ⟨hts, hlast⟩ := List.append_inj' hts rfl
      obtain ⟨mid, h₁, h₂⟩ := ih hts
      obtain rfl := List.singleton_inj.mp hlast
      rw [List.concat_eq_append]
      exact ⟨mid, h₁, h₂.snoc hs⟩

theorem Run.cons {start mid sys : System Session} {ts : List Transition} {o : Occurrence}
    {r : Except TxnError Answer} (hs : Step start o r mid) (hr : Run mid ts sys) :
    Run start (⟨start, o, r, mid⟩ :: ts) sys := by
  induction hr with
  | nil => exact Run.nil.snoc hs
  | snoc _ hs' ih => exact ih.snoc hs'

theorem Run.append {start mid sys : System Session} {ts ts' : List Transition}
    (hr : Run start ts mid) (hr' : Run mid ts' sys) : Run start (ts ++ ts') sys := by
  induction hr' with
  | nil => rwa [List.append_nil]
  | snoc _ hs ih =>
    rw [← List.append_assoc]
    exact ih.snoc hs

theorem Run.of_nil {start sys : System Session} {ts : List Transition} (hr : Run start ts sys)
    (hts : ts = []) : sys = start := by
  cases hr with
  | nil => rfl
  | snoc => simp at hts

theorem Run.single {start sys : System Session} {ts : List Transition} (hr : Run start ts sys)
    {t : Transition} (hts : ts = [t]) :
    t.before = start ∧ t.after = sys ∧ Step start t.occurrence t.result sys := by
  cases hr with
  | nil => cases hts
  | @snoc ts mid sys o r hr hs =>
    have hsplit : ts ++ [⟨mid, o, r, sys⟩] = [] ++ [t] := hts
    obtain ⟨rfl, hlast⟩ := List.append_inj' hsplit rfl
    obtain rfl := List.singleton_inj.mp hlast
    obtain rfl := hr.of_nil rfl
    exact ⟨rfl, rfl, hs⟩

/-- A run whose first step is known starts with it. -/
theorem Run.uncons {start sys : System Session} {t : Transition} {ts : List Transition}
    (hr : Run start (t :: ts) sys) :
    t.before = start ∧ Step start t.occurrence t.result t.after ∧ Run t.after ts sys := by
  obtain ⟨mid, hfirst, hrest⟩ := hr.split (List.singleton_append.symm : t :: ts = [t] ++ ts)
  obtain ⟨hbefore, rfl, hs⟩ := hfirst.single rfl
  exact ⟨hbefore, hs, hrest⟩

/-- What holds at first and after each step holds before each step and at last. -/
theorem Run.forall_before {P : System Session → Prop} {start sys : System Session}
    {ts : List Transition} (hr : Run start ts sys) (hstart : P start)
    (hafter : ∀ t ∈ ts, P t.after) : (∀ t ∈ ts, P t.before) ∧ P sys := by
  induction hr with
  | nil => exact ⟨fun _ ht => (nomatch ht), hstart⟩
  | snoc _ _ ih =>
    obtain ⟨hearly, hlast⟩ := Transition.forall_snoc hafter
    obtain ⟨hbefore, hmid⟩ := ih hearly
    refine ⟨List.forall_mem_append.mpr ⟨hbefore, fun t ht => ?_⟩, hlast⟩
    rwa [List.mem_singleton.mp ht]

/-- A run goes through each of its steps. -/
theorem Run.of_mem {start sys : System Session} {ts : List Transition} (hr : Run start ts sys)
    {t : Transition} (ht : t ∈ ts) :
    ∃ ts₁ ts₂, ts = ts₁ ++ t :: ts₂ ∧ Run start ts₁ t.before ∧
      Step t.before t.occurrence t.result t.after ∧ Run t.after ts₂ sys := by
  obtain ⟨ts₁, ts₂, hts⟩ := List.append_of_mem ht
  obtain ⟨mid, h₁, h₂⟩ := hr.split hts
  obtain ⟨rfl, hs, h₂⟩ := h₂.uncons
  exact ⟨ts₁, ts₂, hts, h₁, hs, h₂⟩

/-- What differs between the ends of a run has changed in one of its steps. -/
theorem Run.exists_change {P : System Session → Prop} {start sys : System Session}
    {ts : List Transition} (hr : Run start ts sys) (hne : ¬(P start ↔ P sys)) :
    ∃ t ∈ ts, ¬(P t.before ↔ P t.after) := by
  induction hr with
  | nil => exact absurd Iff.rfl hne
  | @snoc ts sys sys' o r _ _ ih =>
    by_cases hlast : P sys ↔ P sys'
    · obtain ⟨t, ht, hchange⟩ := ih fun heq => hne (heq.trans hlast)
      exact ⟨t, List.mem_append_left _ ht, hchange⟩
    · exact ⟨⟨sys, o, r, sys'⟩, List.mem_append_right _ List.mem_cons_self, hlast⟩

/-- A system that some run from an empty store leads to. -/
def Reachable (sys : System Session) : Prop := ∃ ts, Run .new ts sys

/-- The run that requests make one after the other, if none of them has to wait. -/
def requests (sys : System Session) :
    List (ConnectionId × Request) → Option (List Transition × System Session)
  | [] => some ([], sys)
  | (id, req) :: rest =>
    match (handle id req sys).done? with
    | none => none
    | some (r, sys') =>
      (requests sys' rest).map fun run => (⟨sys, .request id req, r, sys'⟩ :: run.1, run.2)

theorem requests_cons {sys last : System Session} {id : ConnectionId} {req : Request}
    {reqs : List (ConnectionId × Request)} {ts : List Transition}
    (h : requests sys ((id, req) :: reqs) = some (ts, last)) :
    ∃ r sys' ts', ts = ⟨sys, .request id req, r, sys'⟩ :: ts' ∧
      Step sys (.request id req) r sys' ∧ requests sys' reqs = some (ts', last) := by
  rw [requests] at h
  split at h
  · cases h
  · rename_i r sys' hd
    obtain ⟨⟨ts', last'⟩, hrest, heq⟩ := Option.map_eq_some_iff.mp h
    obtain ⟨rfl, rfl⟩ := Prod.mk.inj heq
    exact ⟨r, sys', ts', rfl, ⟨trivial, hd⟩, hrest⟩

theorem requests_append {xs ys : List (ConnectionId × Request)} {sys last : System Session}
    {ts : List Transition} (h : requests sys (xs ++ ys) = some (ts, last)) :
    ∃ mid ts₁ ts₂, ts = ts₁ ++ ts₂ ∧ requests sys xs = some (ts₁, mid) ∧
      requests mid ys = some (ts₂, last) := by
  induction xs generalizing sys ts with
  | nil => exact ⟨sys, [], ts, rfl, rfl, h⟩
  | cons e xs ih =>
    obtain ⟨id, req⟩ := e
    obtain ⟨r, next, ts', rfl, hs, hrest⟩ := requests_cons h
    obtain ⟨mid, ts₁, ts₂, rfl, hxs, hys⟩ := ih hrest
    refine ⟨mid, _ :: ts₁, ts₂, rfl, ?_, hys⟩
    rw [requests, show (handle id req sys).done? = _ from hs.2]
    exact congrArg (Option.map fun run => (_ :: run.1, run.2)) hxs

/-- What can be checked of the run that requests make holds of it. -/
theorem requests_of_check {sys : System Session} {reqs : List (ConnectionId × Request)}
    (check : List Transition → System Session → Bool)
    (h : (requests sys reqs).any (fun run => check run.1 run.2) = true) :
    ∃ ts last, requests sys reqs = some (ts, last) ∧ check ts last = true := by
  rcases hplay : requests sys reqs with _ | ⟨ts, last⟩
  · rw [hplay] at h
    cases h
  · rw [hplay] at h
    exact ⟨ts, last, rfl, h⟩

theorem answered_of_isOk {r : Except TxnError Answer} (h : r.isOk = true) : ∃ a, r = .ok a := by
  cases r with
  | ok a => exact ⟨a, rfl⟩
  | error => cases h

/-- The first step, the steps between and the last step of the run that requests make. -/
theorem requests_ends {sys final : System Session} {first last : ConnectionId × Request}
    {reqs : List (ConnectionId × Request)} {all : List Transition}
    (h : requests sys ([first] ++ (reqs ++ [last])) = some (all, final)) :
    ∃ r start ts mid r', Step sys (.request first.1 first.2) r start ∧
      requests start reqs = some (ts, mid) ∧ Step mid (.request last.1 last.2) r' final ∧
      all = ⟨sys, .request first.1 first.2, r, start⟩ ::
        (ts ++ [⟨mid, .request last.1 last.2, r', final⟩]) := by
  obtain ⟨start, _, _, rfl, hfirst, hrest⟩ := requests_append h
  obtain ⟨mid, ts, _, rfl, hmiddle, hlast⟩ := requests_append hrest
  obtain ⟨r, _, _, rfl, hs, hnone⟩ := requests_cons hfirst
  obtain ⟨rfl, rfl⟩ := Prod.mk.inj (Option.some.inj hnone)
  obtain ⟨r', _, _, rfl, hs', hnone'⟩ := requests_cons hlast
  obtain ⟨rfl, rfl⟩ := Prod.mk.inj (Option.some.inj hnone')
  exact ⟨r, _, ts, mid, r', hs, hmiddle, hs', rfl⟩

/-- What can be checked of the first step, the steps between and the last step of the run that
requests make holds of them. -/
theorem requests_of_check_ends {sys : System Session} {first last : ConnectionId × Request}
    {reqs : List (ConnectionId × Request)}
    (check : Transition → List Transition → Transition → Bool)
    (h : ((requests sys ([first] ++ (reqs ++ [last]))).any fun run =>
      run.1.head?.any fun t => run.1.tail.getLast?.any fun t' =>
        check t run.1.tail.dropLast t') = true) :
    ∃ r start ts mid r' final, Step sys (.request first.1 first.2) r start ∧
      requests start reqs = some (ts, mid) ∧ Step mid (.request last.1 last.2) r' final ∧
      check ⟨sys, .request first.1 first.2, r, start⟩ ts
        ⟨mid, .request last.1 last.2, r', final⟩ = true := by
  obtain ⟨all, final, hplay, hcheck⟩ := requests_of_check
    (fun all _ => all.head?.any fun t => all.tail.getLast?.any fun t' =>
      check t all.tail.dropLast t') h
  obtain ⟨r, start, ts, mid, r', hs, hmiddle, hs', rfl⟩ := requests_ends hplay
  refine ⟨r, start, ts, mid, r', final, hs, hmiddle, hs', ?_⟩
  simpa using hcheck

theorem run_of_requests {sys sys' : System Session} {reqs : List (ConnectionId × Request)}
    {ts : List Transition} (h : requests sys reqs = some (ts, sys')) :
    Run sys ts sys' ∧ ∀ t ∈ ts, ∃ id req, t.occurrence = .request id req := by
  induction reqs generalizing sys ts with
  | nil =>
    obtain ⟨rfl, rfl⟩ := Prod.mk.inj (Option.some.inj h)
    exact ⟨.nil, fun _ ht => nomatch ht⟩
  | cons e reqs ih =>
    obtain ⟨id, req⟩ := e
    obtain ⟨r, mid, ts', rfl, hs, hrest⟩ := requests_cons h
    obtain ⟨hr, hreqs⟩ := ih hrest
    refine ⟨hr.cons hs, fun t ht => ?_⟩
    rcases List.mem_cons.mp ht with rfl | ht
    · exact ⟨id, req, rfl⟩
    · exact hreqs t ht

/-- What happens in a run that requests make is one of the requests. -/
theorem exists_request_of_mem {sys sys' : System Session} {reqs : List (ConnectionId × Request)}
    {ts : List Transition} (h : requests sys reqs = some (ts, sys')) {t : Transition}
    (ht : t ∈ ts) : ∃ e ∈ reqs, t.occurrence = .request e.1 e.2 := by
  induction reqs generalizing sys ts with
  | nil =>
    obtain ⟨rfl, rfl⟩ := Prod.mk.inj (Option.some.inj h)
    cases ht
  | cons e reqs ih =>
    obtain ⟨r, mid, ts', rfl, -, hrest⟩ := requests_cons h
    rcases List.mem_cons.mp ht with rfl | ht
    · exact ⟨e, List.mem_cons_self, rfl⟩
    · obtain ⟨e', he', heq⟩ := ih hrest ht
      exact ⟨e', List.mem_cons_of_mem _ he', heq⟩

end System

end QuadTxn
