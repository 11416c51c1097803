import QuadTxn.Proofs.Watching.Requests
import QuadTxn.Proofs.Watching.Schedules

/-!
# The store is never misused

Sessions are used as they want to be used: in every schedule, be its statements well formed or not,
the store refuses nothing to a session but what it was told to refuse
(`System.store_never_misused`). This is said of sessions, where it shows in the errors of calls, and
of watched sessions, where it shows in what each of them has noted.

A connection that is taken out ends its transaction by a rollback, and a whole transaction is a
begin, its requests, and a commit or a rollback.
-/

namespace QuadTxn

open Connection

/-! ## Watched connections -/

/-- The connection without the account is fit, and all that is noted is what a request risks. -/
def Connection.WatchedFit (c : Connection WatchedSession) : Prop :=
  c.unwatch.Fit ∧ ∀ x ∈ c.session.failures, ∃ req : Request, req.Risks x

/-- A call that takes care and reports its failures notes only what it risks. -/
theorem Outcome.Careful.watched {α : Type} {req : Request} {o : Outcome (Frame Session) α}
    {st : Frame Session} (h : o.Careful Frame.care req.Risks (fun _ _ => True) st)
    {log : List StoreError} (hlog : ∀ x ∈ log, ∃ req : Request, req.Risks x) :
    (o.watched log).Careful (Frame.careAs WatchedFit) req.Risks (fun _ _ => True)
      (st.watch log) := by
  induction o generalizing st log with
  | ok a st' => exact ⟨⟨⟨h.1.fit, hlog⟩, h.1.armed⟩, trivial⟩
  | error e st' =>
    obtain ⟨hfits, hstorage⟩ := h
    refine ⟨⟨⟨hfits.fit, fun x hx => ?_⟩, hfits.armed⟩, hstorage⟩
    rcases List.mem_append.mp hx with hx | hx
    · exact hlog x hx
    · cases e with
      | storage y =>
        obtain rfl := List.mem_singleton.mp hx
        exact ⟨req, (hstorage x rfl).1⟩
      | _ => cases hx
  | waits mid mode resume ih =>
    obtain ⟨hfits, hwaiting, hresume⟩ := h
    refine ⟨⟨⟨hfits.fit, hlog⟩, hfits.armed⟩, hwaiting, fun later hlater => ?_⟩
    obtain ⟨⟨hfit, hnoted⟩, hphase, hisolation⟩ := hlater
    exact ih later.unwatch (hresume later.unwatch ⟨hfit, hphase, hisolation⟩) hnoted

namespace Discipline

/-- Connections over sessions. -/
def plain : Discipline Session where
  fit := Fit
  new _ _ _ := .of_idle rfl rfl rfl
  ledger ledger h := h.ledger ledger
  call req h := Request.call_careful h req

/-- Connections over watched sessions. -/
def watched : Discipline WatchedSession where
  fit := WatchedFit
  new _ _ _ := ⟨.of_idle rfl rfl rfl, fun _ hx => nomatch hx⟩
  ledger ledger h := ⟨h.1.ledger ledger, h.2⟩
  call {st} req h := by
    have hfit : st.unwatch.self.Fit := h.1
    have hcall := (Request.call_careful hfit req).watched h.2
    rwa [← req.call_reports] at hcall

end Discipline

namespace System

/-- A call that fails with an error of the store risks it, and the error was armed where the call
was made or taken up. -/
structure Spared {σ : Type} [Backend σ] (asked : ConnectionId → Request)
    (sch : Schedule (System σ) Answer) : Prop where
  /-- the call is made -/
  call : ∀ id req x, (sch.call id (handle id req)).1 = .failed (.storage x) →
    req.Risks x ∧ sch.state.store.Armed x
  /-- the call has waited and is taken up -/
  join : ∀ id x, (sch.join (·.coordinator.gate) id).1 = .failed (.storage x) →
    (asked id).Risks x ∧ sch.state.store.Armed x

theorem InCare.spared {σ : Type} [Backend σ] {D : Discipline σ} {asked : ConnectionId → Request}
    {sch : Schedule (System σ) Answer} (h : InCare D asked sch) : Spared asked sch where
  call := by
    intro id req x hfailed
    rcases hlookup : sch.waiting.lookup id with _ | w
    · rw [call_eq hlookup] at hfailed
      exact settle_failed (handle_careful D (h.fit id) req) hfailed
    · rw [Schedule.call, hlookup] at hfailed
      cases hfailed
  join := by
    intro id x hfailed
    rcases hlookup : sch.waiting.lookup id with _ | w
    · rw [Schedule.join, hlookup] at hfailed
      cases hfailed
    · rw [Schedule.join, hlookup] at hfailed
      dsimp only at hfailed
      split at hfailed
      · exact settle_failed (h.resume (mem_of_lookup_some hlookup)) hfailed
      · cases hfailed

/-- In every schedule, a call fails with an error of the store only if it is a preparation or a
commit for which just that failure was armed; what is staged is well formed, and can be written into
the native transaction as a whole. No session has ever been answered anything else by the store,
also where nobody looked: it does the same when it is watched, and has then noted injected failures
only. -/
theorem store_never_misused :
    (∀ asked (sch : Schedule (System Session) Answer), Played asked sch →
      Spared asked sch ∧ ∀ id,
        (∀ s, (sch.state.connection id).staging.isAdded s = true →
          s.subject.isResource = true ∧ s.predicate.isIri = true) ∧
        ((sch.state.frame id).unwritable? = none →
          flush (sch.state.frame id).engaged = .ok ⟨⟩ (sch.state.frame id).engaged.flushed)) ∧
    (∀ asked (sch : Schedule (System WatchedSession) Answer), Played asked sch →
      Spared asked sch ∧ ∀ id, ∀ x ∈ (sch.state.connection id).session.failures,
        x = .injected "prepare" ∨ x = .injected "commit") ∧
    ∀ (req : Request) (st : Frame Session) (log : List StoreError),
      req.call (st.watch log) = (req.call st).watched log := by
  refine ⟨fun asked sch h => ?_, fun asked sch h => ?_, Request.call_reports⟩
  · have hcare := h.inCare Discipline.plain
    refine ⟨hcare.spared, fun id => ?_⟩
    have hfit : (sch.state.frame id).self.Fit := hcare.fit id
    refine ⟨hfit.wellFormed, fun hw => Frame.flush_eq ?_ ?_⟩
    · rw [Frame.engaged]
      split
      · rename_i hp
        exact (hfit.direct hp).1
      · exact ⟨_, rfl, rfl⟩
    · rw [Frame.engaged_staging]
      exact hfit.wellFormed
  · have hcare := h.inCare Discipline.watched
    refine ⟨hcare.spared, fun id x hx => ?_⟩
    obtain ⟨req, hrisks⟩ := (hcare.fit id).2 x hx
    cases hrisks with
    | prepare => exact .inl rfl
    | unprepared => exact .inl rfl
    | commit => exact .inr rfl

/-- A transaction has begun, and the next native prepare is to fail. -/
def unprepared : Schedule (System Session) Answer :=
  let begun := ((Schedule.start .new).call "a" (handle "a" .begin)).2
  { begun with
    state := { begun.state with store := { begun.state.store with failPrepare := true } } }

/-- The commit of such a transaction reports the failure that was armed. -/
theorem unprepared_commit_reports :
    Played (Function.update (fun _ => .begin) "a" .begin) unprepared ∧
      (unprepared.call "a" (handle "a" .commit)).1 = .failed (.storage (.injected "prepare")) ∧
      unprepared.state.store.Armed (.injected "prepare") := by
  have hplayed : Played (Function.update (fun _ => .begin) "a" .begin) unprepared :=
    .failPrepare (.call "a" .begin (.start _) rfl)
  have hfailed : (unprepared.call "a" (handle "a" .commit)).1 =
      .failed (.storage (.injected "prepare")) := by
    rfl
  exact ⟨hplayed, hfailed,
    ((store_never_misused.1 _ _ hplayed).1.call "a" .commit _ hfailed).2⟩

end System

end QuadTxn
