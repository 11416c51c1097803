import Mathlib.Data.List.Induction
import QuadTxn.Proofs.Sessions.Sharing

/-!
# Commits replay journals

Everything that becomes of a store and of the sessions that share it can be told from the log of
answers. The log gives the writes that each session has recorded since it last began, and what each
commit and each direct insertion has written (`Account`). The committed contents are the initial
ones with all that was committed replayed in order (`Tallies`), and a session sees in its native
transaction the contents at its begin with its own writes replayed (`Session.Works`), whatever the
other sessions do (`Sharing.commits_replay_journals`).
-/

namespace QuadTxn

variable {ι : Type} [DecidableEq ι]

namespace Entry

/-- What a session has written. -/
def write? (i : ι) (e : Entry ι) : Option Write :=
  match e.what, e.answer with
  | .request j req, .ok _ => if j = i then req.write? else none
  | _, _ => none

/-- The writes of a session, in order. -/
def writes (i : ι) (log : List (Entry ι)) : List Write := log.filterMap (write? i)

theorem writes_ok (i : ι) (req : SessionRequest) (a : Answer) :
    writes i [⟨.request i req, .ok a⟩] = req.write?.toList := by
  rcases hw : req.write? with _ | w
  · simp [writes, write?, hw]
  · simp [writes, write?, hw]

theorem writes_error (i : ι) (req : SessionRequest) (e : StoreError) :
    writes i [⟨.request i req, .error e⟩] = [] := rfl

/-- What happens to others is no write of a session. -/
theorem writes_other {i : ι} {e : Entry ι} (h : ∀ req, e.what ≠ .request i req) :
    writes i [e] = [] := by
  obtain ⟨what, answer⟩ := e
  cases what with
  | request j req =>
    have hj : j ≠ i := fun heq => h req (by rw [heq])
    cases answer with
    | ok a => simp [writes, write?, hj]
    | error => rfl
  | _ => rfl

theorem writes_append (i : ι) (log log' : List (Entry ι)) :
    writes i (log ++ log') = writes i log ++ writes i log' := List.filterMap_append

/-- The committed contents have changed. -/
def Publishes (e : Entry ι) : Prop :=
  (∃ s, e.what = .insert s) ∨ ∃ i a, e.what = .request i .commit ∧ e.answer = .ok a

end Entry

/-- What a log of answers tells about commits. -/
structure Account (ι : Type) where
  /-- what each session has written since it last began -/
  recorded : ι → List Write
  /-- what each commit and each direct insertion has written, in order -/
  committed : List (List Write)

namespace Account

/-- One more thing has happened. -/
def note (a : Account ι) (e : Entry ι) : Account ι :=
  match e.what, e.answer with
  | .insert s, _ => { a with committed := a.committed ++ [[.add s]] }
  | .request i .commit, .ok _ => { a with committed := a.committed ++ [a.recorded i] }
  | .request i .begin, .ok _ => { a with recorded := Function.update a.recorded i [] }
  | .request i req, .ok _ =>
    { a with recorded := Function.update a.recorded i (a.recorded i ++ req.write?.toList) }
  | _, _ => a

theorem note_error (a : Account ι) (i : ι) (req : SessionRequest) (e : StoreError) :
    a.note ⟨.request i req, .error e⟩ = a := by
  cases req <;> rfl

theorem note_ok (a : Account ι) (i : ι) (req : SessionRequest) (hbegin : req ≠ .begin)
    (hcommit : req ≠ .commit) (r : Answer) :
    a.note ⟨.request i req, .ok r⟩ =
      { a with recorded := Function.update a.recorded i (a.recorded i ++ req.write?.toList) } := by
  cases req with
  | begin => exact absurd rfl hbegin
  | commit => exact absurd rfl hcommit
  | _ => rfl

/-- The account of a log. -/
def of (log : List (Entry ι)) : Account ι := log.foldl note ⟨fun _ => [], []⟩

theorem of_snoc (log : List (Entry ι)) (e : Entry ι) : of (log ++ [e]) = (of log).note e :=
  List.foldl_append

end Account

/-! ## Commits -/

namespace Session

/-- What a session commits, if it runs a native transaction. -/
def Records (s : Session) (ws : List Write) : Prop := ∀ t, s.txn = some t → t.journal = ws

theorem records_none (ws : List Write) : Records ⟨none⟩ ws := nofun

theorem Records.sealed {s : Session} {ws : List Write} (h : s.Records ws) :
    s.sealed.Records ws := by
  intro t ht
  obtain ⟨t', ht', rfl⟩ := Option.map_eq_some_iff.mp ht
  exact h t' ht'

theorem Records.record {s : Session} {ws : List Write} (h : s.Records ws) (w : Write) :
    (s.record w).Records (ws ++ [w]) := by
  intro t ht
  obtain ⟨t', ht', rfl⟩ := Option.map_eq_some_iff.mp ht
  exact congrArg (· ++ [w]) (h t' ht')

end Session

/-- The account tells what the committed contents are, and what each running native transaction will
commit. -/
structure Tallies (start : Store) (x : Sharing ι) (a : Account ι) : Prop where
  /-- a session commits what it has written -/
  records : ∀ i, (x.sessions i).Records (a.recorded i)
  /-- the contents are the initial ones with all that was committed -/
  contents : x.store.contents = start.contents.replay a.committed.flatten
  /-- the version counts what was committed -/
  version : x.store.version = start.version + a.committed.length

namespace Tallies

variable {start : Store} {x : Sharing ι} {a : Account ι} (h : Tallies start x a)

include h

/-- A session has come to a state in which it commits `ws`, and nothing was committed. -/
theorem session (store : Store) (hcontents : store.contents = x.store.contents)
    (hversion : store.version = x.store.version) (i : ι) {s : Session} {ws : List Write}
    (hs : s.Records ws) :
    Tallies start ⟨store, Function.update x.sessions i s⟩
      { a with recorded := Function.update a.recorded i ws } where
  records := by
    intro j
    by_cases hj : j = i
    · subst hj
      simpa only [Function.update_self] using hs
    · simpa only [Function.update_of_ne hj] using h.records j
  contents := hcontents.trans h.contents
  version := hversion.trans h.version

/-- A session has come to a state in which it commits what it did before, if anything, and nothing
was committed. -/
theorem stay (store : Store) (hcontents : store.contents = x.store.contents)
    (hversion : store.version = x.store.version) (i : ι) {s : Session}
    (hs : s.Records (a.recorded i)) :
    Tallies start ⟨store, Function.update x.sessions i s⟩ a := by
  have hstay := h.session store hcontents hversion i hs
  rwa [Function.update_eq_self] at hstay

omit [DecidableEq ι] in
/-- Something was committed. -/
theorem commit {store : Store} {ws : List Write}
    (hcontents : store.contents = x.store.contents.replay ws)
    (hversion : store.version = x.store.version + 1) :
    Tallies start ⟨store, x.sessions⟩ { a with committed := a.committed ++ [ws] } where
  records := h.records
  contents := by
    rw [hcontents, h.contents, ← Contents.replay_append, List.flatten_append,
      List.flatten_singleton]
  version := by
    rw [hversion, h.version, List.length_append, Nat.add_assoc]
    rfl

/-- What a session does is noted. -/
theorem does {i : ι} {req : SessionRequest} {r : Except StoreError Answer} {s : Session}
    {st : Store} (hdoes : (x.sessions i).Does x.store req r s st) :
    Tallies start ⟨st, Function.update x.sessions i s⟩ (a.note ⟨.request i req, r⟩) := by
  have hi := h.records i
  cases hdoes with
  | refused hr =>
    rw [Account.note_error]
    exact h.stay _ rfl rfl i hi
  | read hread =>
    have hwrite : req.write? = none := by
      cases req <;> first | rfl | cases hread
    have hbegin : req ≠ .begin := by
      rintro rfl
      cases hread
    have hcommit : req ≠ .commit := by
      rintro rfl
      cases hread
    rw [Account.note_ok a i req hbegin hcommit, hwrite]
    refine h.session _ rfl rfl i ?_
    rwa [Option.toList_none, List.append_nil]
  | write hw =>
    have hbegin : req ≠ .begin := by
      rintro rfl
      cases hw
    have hcommit : req ≠ .commit := by
      rintro rfl
      cases hw
    rw [Account.note_ok a i req hbegin hcommit, hw]
    exact h.session _ rfl rfl i (hi.record _)
  | begin hnone =>
    refine h.session _ rfl rfl i ?_
    rintro t ⟨⟩
    rfl
  | prepare =>
    rw [Account.note_ok a i .prepare nofun nofun]
    refine h.session _ rfl rfl i ?_
    rw [show SessionRequest.prepare.write?.toList = [] from rfl, List.append_nil]
    exact hi.sealed
  | failPrepare =>
    rw [Account.note_error]
    exact h.stay { x.store with failPrepare := false } rfl rfl i hi
  | commit ht =>
    have hdone := h.stay _ rfl rfl i (Session.records_none _)
    exact hdone.commit (congrArg _ (hi _ ht)) rfl
  | failCommit =>
    rw [Account.note_error]
    exact h.stay { x.store with failCommit := false } rfl rfl i (Session.records_none _)
  | rollback =>
    rw [Account.note_ok a i .rollback nofun nofun]
    exact h.session _ rfl rfl i (Session.records_none _)

/-- Whatever happens is noted. -/
theorem step (e : Happening ι) :
    Tallies start (x.step e).2 (a.note ⟨e, (x.step e).1⟩) := by
  cases e with
  | request i req =>
    obtain ⟨r, s, st, hstep, hdoes⟩ := x.step_request i req
    rw [hstep]
    exact h.does hdoes
  | insert s => exact h.commit rfl rfl
  | failPrepare => exact ⟨h.records, h.contents, h.version⟩
  | failCommit => exact ⟨h.records, h.contents, h.version⟩

end Tallies

/-- The account of the log tells what the contents are, whatever has happened. -/
theorem tallies_of_log (store : Store) (hs : List (Happening ι)) :
    Tallies store ((Sharing.fresh store).after hs) (Account.of ((Sharing.fresh store).log hs)) := by
  induction hs using List.reverseRecOn with
  | nil => exact ⟨fun i => Session.records_none _, rfl, rfl⟩
  | append_singleton hs e ih =>
    rw [Sharing.after_snoc, Sharing.log_snoc, Account.of_snoc]
    exact ih.step e

/-! ## Native transactions -/

namespace Session

/-- The session runs a native transaction in which it has done the writes `ws` to the contents
`base`. -/
def Works (s : Session) (base : Contents) (ws : List Write) (sealed : Bool) : Prop :=
  s.txn = some ⟨base.replay ws, ws, sealed⟩

theorem Works.visible {s : Session} {base : Contents} {ws : List Write} {sealed : Bool}
    (h : s.Works base ws sealed) (st : Store) : s.visible st = base.replay ws := by
  rw [Session.visible, h]

theorem Works.record {s : Session} {base : Contents} {ws : List Write} {sealed : Bool}
    (h : s.Works base ws sealed) (w : Write) : (s.record w).Works base (ws ++ [w]) sealed := by
  rw [Works, Session.record, h, Contents.replay_append]
  rfl

/-- The native transaction goes on unless it is committed or abandoned, and is made ready for commit
only when that is asked for. -/
theorem Does.works {s s' : Session} {st st' : Store} {req : SessionRequest}
    {r : Except StoreError Answer} (h : Does s st req r s' st') {base : Contents}
    {ws : List Write} {sealed : Bool} (hs : s.Works base ws sealed) (hcommit : req ≠ .commit)
    (hrollback : req ≠ .rollback) (i : ι) :
    ∃ sealed', s'.Works base (ws ++ Entry.writes i [⟨.request i req, r⟩]) sealed' ∧
      (sealed' = true → sealed = true ∨ req = .prepare ∧ ∃ a, r = .ok a) := by
  cases h with
  | refused | failPrepare =>
    rw [Entry.writes_error, List.append_nil]
    exact ⟨sealed, hs, .inl⟩
  | read hread =>
    have hwrite : req.write? = none := by
      cases req <;> first | rfl | cases hread
    rw [Entry.writes_ok, hwrite, Option.toList_none, List.append_nil]
    exact ⟨sealed, hs, .inl⟩
  | write hw =>
    rw [Entry.writes_ok, hw]
    exact ⟨sealed, hs.record _, .inl⟩
  | begin hnone =>
    rw [Works, hnone] at hs
    cases hs
  | prepare =>
    refine ⟨true, ?_, fun _ => .inr ⟨rfl, _, rfl⟩⟩
    rw [Entry.writes_ok, show SessionRequest.prepare.write?.toList = [] from rfl, List.append_nil,
      Works, Session.sealed, hs]
    rfl
  | commit | failCommit => exact absurd rfl hcommit
  | rollback => exact absurd rfl hrollback

/-- A session with a native transaction that is not ready for commit takes every write but a
malformed one. -/
theorem Works.accepts {s : Session} {base : Contents} {ws : List Write} (h : s.Works base ws false)
    {req : SessionRequest} {w : Write} (hw : req.write? = some w)
    (hwf : ∀ x, w = .add x → x.WellFormed) : s.refusal? req = none := by
  have hopen : s.unwritable? = none := unwritable?_eq_none_iff.mpr ⟨_, h, rfl⟩
  cases req with
  | add x =>
    obtain rfl := Option.some.inj hw
    rw [refusal?, if_pos (hwf x rfl)]
    exact hopen
  | remove | bindLabel | unbindLabel | unbindAll => exact hopen
  | _ => cases hw

/-- Only a commit that is answered changes the contents of the store. -/
theorem Does.contents {s s' : Session} {st st' : Store} {req : SessionRequest}
    {r : Except StoreError Answer} (h : Does s st req r s' st')
    (hcommit : req = .commit → ∃ e, r = .error e) :
    st'.contents = st.contents ∧ st'.version = st.version := by
  cases h with
  | commit =>
    obtain ⟨e, he⟩ := hcommit rfl
    cases he
  | _ => exact ⟨rfl, rfl⟩

/-- No native transaction is left after a commit, and nothing but a failure that was asked for
keeps one from being committed. -/
theorem Does.commit_ends {s s' : Session} {st st' : Store} {r : Except StoreError Answer}
    (h : Does s st .commit r s' st') :
    s'.txn = none ∧ (r = .ok .none ∨ r = .error (.injected "commit") ∨
      r = .error .notActive ∧ s.txn = none) := by
  cases h with
  | refused hr =>
    obtain ⟨hactive, he⟩ := Option.ite_none_left_eq_some.mp hr
    obtain rfl := Option.some.inj he
    have hnone : s.txn = none := Option.not_isSome_iff_eq_none.mp hactive
    exact ⟨hnone, .inr (.inr ⟨rfl, hnone⟩)⟩
  | read hread => cases hread
  | write hw => cases hw
  | commit => exact ⟨rfl, .inl rfl⟩
  | failCommit => exact ⟨rfl, .inr (.inl rfl)⟩

/-- A commit that is answered replays what the session has done. -/
theorem Does.commit_contents {s s' : Session} {st st' : Store} {a : Answer}
    (h : Does s st .commit (.ok a) s' st') {base : Contents} {ws : List Write} {sealed : Bool}
    (hs : s.Works base ws sealed) : st'.contents = st.contents.replay ws := by
  cases h with
  | read hread => cases hread
  | write hw => cases hw
  | commit ht =>
    obtain rfl := Option.some.inj (ht.symm.trans hs)
    rfl

/-- A begin that is answered starts on a copy of the committed contents. -/
theorem Does.begin_works {s s' : Session} {st st' : Store} {a : Answer}
    (h : Does s st .begin (.ok a) s' st') : s'.Works st.contents [] false := by
  cases h with
  | read hread => cases hread
  | write hw => cases hw
  | begin => rfl

/-- A removal that is answered says whether the statement is seen. -/
theorem Does.remove_answer {s s' : Session} {st st' : Store} {x : Statement} {a : Answer}
    (h : Does s st (.remove x) (.ok a) s' st') :
    a = .truth (decide (x ∈ (s.visible st).statements)) := by
  cases h with
  | read hread => cases hread
  | write => rfl

end Session

namespace Sharing

/-- A native transaction goes on while its own session neither commits nor abandons it, whatever
happens to the store and to the other sessions. -/
theorem works_after {x : Sharing ι} {i : ι} {base : Contents}
    (hx : (x.sessions i).Works base [] false) {hs : List (Happening ι)}
    (hkept : ∀ e ∈ hs, e ≠ .request i .commit ∧ e ≠ .request i .rollback) :
    ∃ sealed, ((x.after hs).sessions i).Works base (Entry.writes i (x.log hs)) sealed ∧
      (sealed = true → ∃ a, ⟨.request i .prepare, .ok a⟩ ∈ x.log hs) := by
  induction hs using List.reverseRecOn with
  | nil => exact ⟨false, hx, nofun⟩
  | append_singleton hs e ih =>
    obtain ⟨hearly, hlast⟩ := List.forall_mem_append.mp hkept
    obtain ⟨hcommit, hrollback⟩ := hlast e (List.mem_singleton_self e)
    obtain ⟨sealed, hworks, hsealed⟩ := ih hearly
    rw [after_snoc, log_snoc, Entry.writes_append]
    by_cases hown : ∃ req, e = .request i req
    · obtain ⟨req, rfl⟩ := hown
      obtain ⟨r, s, st, hstep, hdoes⟩ := (x.after hs).step_request i req
      obtain ⟨sealed', hworks', hsealed'⟩ := hdoes.works hworks (fun heq => hcommit (heq ▸ rfl))
        (fun heq => hrollback (heq ▸ rfl)) i
      rw [hstep]
      refine ⟨sealed', ?_, fun htrue => ?_⟩
      · simpa only [Function.update_self] using hworks'
      · rcases hsealed' htrue with hbefore | ⟨rfl, a, rfl⟩
        · obtain ⟨a, ha⟩ := hsealed hbefore
          exact ⟨a, List.mem_append_left _ ha⟩
        · exact ⟨a, List.mem_append_right _ (List.mem_singleton_self _)⟩
    · have hother : ∀ req, e ≠ .request i req := fun req heq => hown ⟨req, heq⟩
      rw [step_sessions _ hother, Entry.writes_other hother, List.append_nil]
      refine ⟨sealed, hworks, fun htrue => ?_⟩
      obtain ⟨a, ha⟩ := hsealed htrue
      exact ⟨a, List.mem_append_left _ ha⟩

/-- The committed contents stay while nothing is published. -/
theorem contents_of_unpublished {x : Sharing ι} {hs : List (Happening ι)}
    (h : ∀ e ∈ x.log hs, ¬e.Publishes) : (x.after hs).store.contents = x.store.contents := by
  induction hs generalizing x with
  | nil => rfl
  | cons e hs ih =>
    obtain ⟨hfirst, hrest⟩ := List.forall_mem_cons.mp h
    refine (ih hrest).trans ?_
    cases e with
    | request i req =>
      obtain ⟨r, s, st, hstep, hdoes⟩ := x.step_request i req
      rw [hstep] at hfirst ⊢
      refine (hdoes.contents fun heq => ?_).1
      subst heq
      cases r with
      | ok a => exact absurd (.inr ⟨i, a, rfl, rfl⟩) hfirst
      | error e => exact ⟨e, rfl⟩
    | insert s => exact absurd (.inl ⟨s, rfl⟩) hfirst
    | failPrepare | failCommit => rfl

/-! ## The law -/

/-- Whatever happens to the sessions that share a store, all of it follows from the log of answers:

* the committed contents are the initial ones with what each commit and each direct insertion has
  written replayed in order, and the version counts these;
* no other request changes contents or version, and a commit leaves no native transaction, whether
  it succeeds or fails;
* while a native transaction runs, its session sees the contents at its begin with its own writes
  replayed: every read is answered from that, every well-formed write is taken until the native
  transaction is prepared, and a removal says whether the statement is there;
* a commit makes what its session sees the committed contents, if nothing was published
  meanwhile. -/
theorem commits_replay_journals (store : Store) (hs : List (Happening ι)) :
    let start : Sharing ι := fresh store
    let now := start.after hs
    let account := Account.of (start.log hs)
    now.store.contents = store.contents.replay account.committed.flatten ∧
    now.store.version = store.version + account.committed.length ∧
    (∀ i req r next, now.step (.request i req) = (r, next) →
      (req = .commit → ∃ e, r = .error e) →
        next.store.contents = now.store.contents ∧ next.store.version = now.store.version) ∧
    (∀ i r next, now.step (.request i .commit) = (r, next) →
      (next.sessions i).txn = none ∧ (r = .ok .none ∨ r = .error (.injected "commit") ∨
        r = .error .notActive ∧ (now.sessions i).txn = none)) ∧
    ∀ earlier i later a, hs = earlier ++ .request i .begin :: later →
      ((start.after earlier).step (.request i .begin)).1 = .ok a →
      (∀ e ∈ later, e ≠ .request i .commit ∧ e ≠ .request i .rollback) →
      let log := (start.after (earlier ++ [.request i .begin])).log later
      let seen := (start.after earlier).store.contents.replay (Entry.writes i log)
      (∀ req a, req.readIn? seen = some a → now.step (.request i req) = (.ok a, now)) ∧
      (∀ req w, req.write? = some w → (∀ x, w = .add x → x.WellFormed) →
        (∀ a, ⟨.request i .prepare, .ok a⟩ ∉ log) →
          ∃ a, (now.step (.request i req)).1 = .ok a) ∧
      (∀ x a, (now.step (.request i (.remove x))).1 = .ok a →
        a = .truth (decide (x ∈ seen.statements))) ∧
      ((∀ e ∈ log, ¬e.Publishes) → ∀ a next, now.step (.request i .commit) = (.ok a, next) →
        next.store.contents = seen) := by
  intro start now account
  have htallies : Tallies store now account := tallies_of_log store hs
  refine ⟨htallies.contents, htallies.version,
    fun i req r next hstep hcommit => (does_of_step hstep).contents hcommit,
    fun i r next hstep => (does_of_step hstep).commit_ends, ?_⟩
  rintro earlier i later a rfl hbegin hkept log seen
  -- the native transaction has begun on what was committed then, and has gone on since
  have hbegun := after_snoc start earlier (.request i .begin)
  have hfirst : ((start.after (earlier ++ [.request i .begin])).sessions i).Works
      (start.after earlier).store.contents [] false := by
    rw [hbegun]
    exact (does_of_step (Prod.ext hbegin rfl)).begin_works
  obtain ⟨sealed, hworks, hsealed⟩ := works_after hfirst hkept
  have hnow : now = (start.after (earlier ++ [.request i .begin])).after later := by
    rw [← after_append, List.append_assoc, List.singleton_append]
  rw [← hnow] at hworks
  have hseen : (now.sessions i).visible now.store = seen := hworks.visible _
  refine ⟨fun req a hread => ?_, fun req w hw hwf hunprepared => ?_, fun x a hremove => ?_,
    fun hquiet a next hcommit => ?_⟩
  · rw [← hseen] at hread
    exact step_read hread
  · rcases sealed with _ | _
    · exact step_write hw (hworks.accepts hw hwf)
    · obtain ⟨a, ha⟩ := hsealed rfl
      exact absurd ha (hunprepared a)
  · rw [← hseen]
    exact (does_of_step (Prod.ext hremove rfl)).remove_answer
  · have hcontents : now.store.contents = (start.after earlier).store.contents := by
      rw [hnow, contents_of_unpublished hquiet, hbegun]
      exact ((does_of_step (Prod.ext hbegin rfl)).contents nofun).1
    rw [(does_of_step hcommit).commit_contents hworks, hcontents]

/-- A session adds a statement in its native transaction while another one has begun, too. Nothing
is published meanwhile, and its commit makes what it sees the committed contents. -/
theorem lone_commit_publishes_addition :
    let now := (fresh .new).after [.request "c" .begin, .request "d" .begin,
      .request "c" (.add ⟨.iri "s", .iri "p", .iri "o", none⟩)]
    ∃ a next, now.step (.request "c" .commit) = (.ok a, next) ∧
      next.store.contents.statements.toList = [⟨.iri "s", .iri "p", .iri "o", none⟩] := by
  intro now
  obtain ⟨-, -, -, -, hlaw⟩ := commits_replay_journals .new [.request "c" .begin,
    .request "d" .begin, .request "c" (.add ⟨.iri "s", .iri "p", .iri "o", none⟩)]
  obtain ⟨-, -, -, hcommit⟩ := hlaw [] "c" _ .none rfl (by decide +kernel) (by simp)
  rcases hstep : now.step (.request "c" .commit) with ⟨_ | a, next⟩
  · have hok : (now.step (.request "c" .commit)).1 = .ok .none := by decide +kernel
    rw [hstep] at hok
    cases hok
  · refine ⟨a, next, rfl, ?_⟩
    rw [hcommit ?_ a next hstep]
    · decide +kernel
    · intro e he
      simp only [log, List.mem_cons, List.not_mem_nil, or_false] at he
      rcases he with rfl | rfl <;> simp [Entry.Publishes]

/-- Two native transactions overlap, and the commit of the first one keeps what the second one has
committed meanwhile. -/
example :
    let s (name : String) : Statement := ⟨.iri name, .iri "p", .iri "o", none⟩
    let now := (fresh .new).after [.request "c" .begin, .request "d" .begin,
      .request "c" (.add (s "1")), .request "d" (.add (s "2")), .request "d" .commit,
      .request "c" .commit]
    now.store.contents.statements.toList = [s "1", s "2"] ∧ now.store.version = 2 := by
  decide +kernel

end Sharing

end QuadTxn
