import QuadTxn.Proofs.Calls.Phases

/-!
# Calls that take care of the store

A session with a native transaction can be misused: by a second begin, by a write without a native
transaction or into a prepared one, by a statement that is malformed. A connection is fit if its
native transaction is as its phase has it, and if what it has staged can be written
(`Connection.Fit`). Calls keep their connection fit, also where they wait, and so meet no failure of
the store but one that was armed (`Outcome.Careful`).

Nothing is said of the gate here: a connection that is fit takes care whoever holds the gate.
-/

namespace QuadTxn

/-- A failure of the store that was asked for. -/
inductive Store.Armed (store : Store) : StoreError → Prop where
  /-- the next native prepare is to fail -/
  | prepare : store.failPrepare = true → Armed store (.injected "prepare")
  /-- the next native commit is to fail -/
  | commit : store.failCommit = true → Armed store (.injected "commit")

theorem Store.Armed.of_flags {store store' : Store} {e : StoreError} (h : store'.Armed e)
    (hprepare : store'.failPrepare = true → store.failPrepare = true)
    (hcommit : store'.failCommit = true → store.failCommit = true) : store.Armed e := by
  cases h with
  | prepare hfail => exact .prepare (hprepare hfail)
  | commit hfail => exact .commit (hcommit hfail)

/-- What is asked of calls on states of type `s`, as far as failures of the store are concerned. -/
structure Care (s : Type) where
  /-- what a call may make of a state -/
  leaves : s → s → Prop
  /-- the failures that are armed -/
  armed : s → StoreError → Prop
  /-- a state in which the call may wait -/
  waiting : s → Prop
  /-- a state in which a call that waits is taken up, given the one that it left -/
  resumes : s → s → Prop
  /-- one call may follow another -/
  trans {st₁ st₂ st₃ : s} : leaves st₁ st₂ → leaves st₂ st₃ → leaves st₁ st₃
  /-- a call arms nothing -/
  armed_before {st st' : s} {e : StoreError} : leaves st st' → armed st' e → armed st e

namespace Outcome

variable {s t α β : Type}

/-- The call takes care: it fails with an error of the store only if that is among `faults` and was
armed where the call was made or taken up, and `Q` holds of what it answers. -/
def Careful (C : Care s) (faults : StoreError → Prop) (Q : α → s → Prop) (st : s) :
    Outcome s α → Prop
  | .ok a st' => C.leaves st st' ∧ Q a st'
  | .error e st' => C.leaves st st' ∧ ∀ x, e = .storage x → faults x ∧ C.armed st x
  | .waits mid _ resume => C.leaves st mid ∧ C.waiting mid ∧
      ∀ later, C.resumes mid later → (resume later).Careful C faults Q later

section Careful

variable {C : Care s} {faults : StoreError → Prop} {Q : α → s → Prop} {st : s} {o : Outcome s α}

/-- A careful call is careful as well from a state before the one it starts from. -/
theorem Careful.of_leaves {mid : s} (h : o.Careful C faults Q mid) (hmid : C.leaves st mid) :
    o.Careful C faults Q st := by
  cases o with
  | ok a st' => exact ⟨C.trans hmid h.1, h.2⟩
  | error e st' =>
    refine ⟨C.trans hmid h.1, fun x hx => ?_⟩
    obtain ⟨hfault, harmed⟩ := h.2 x hx
    exact ⟨hfault, C.armed_before hmid harmed⟩
  | waits st' mode resume => exact ⟨C.trans hmid h.1, h.2⟩

theorem Careful.bind {R : β → s → Prop} {f : α → Action s β} (h : o.Careful C faults Q st)
    (hf : ∀ a st mid, C.leaves st mid → Q a mid → (f a mid).Careful C faults R mid) :
    (o.bind f).Careful C faults R st := by
  induction o generalizing st with
  | ok a mid => exact (hf a st mid h.1 h.2).of_leaves h.1
  | error e st' => exact h
  | waits mid mode resume ih =>
    exact ⟨h.1, h.2.1, fun later hlater => ih later (h.2.2 later hlater)⟩

/-- A call whose error is handled goes on after an error as well. -/
theorem Careful.attempt_bind {R : β → s → Prop} {f : Except TxnError α → Action s β}
    (h : o.Careful C faults Q st)
    (hok : ∀ a st mid, C.leaves st mid → Q a mid → (f (.ok a) mid).Careful C faults R mid)
    (herror : ∀ e st mid, C.leaves st mid → (∀ x, e = .storage x → faults x ∧ C.armed st x) →
      (f (.error e) mid).Careful C faults R st) :
    (o.attempt.bind f).Careful C faults R st := by
  induction o generalizing st with
  | ok a mid => exact (hok a st mid h.1 h.2).of_leaves h.1
  | error e mid => exact herror e st mid h.1 h.2
  | waits mid mode resume ih =>
    exact ⟨h.1, h.2.1, fun later hlater => ih later (h.2.2 later hlater)⟩

/-- A call is careful before something is made of its answer. -/
theorem Careful.of_bind_pure {f : α → β} {R : β → s → Prop}
    (h : (o.bind fun a => (pure (f a) : Action s β)).Careful C faults R st) :
    o.Careful C faults (fun a st' => R (f a) st') st := by
  induction o generalizing st with
  | ok a st' => exact h
  | error e st' => exact h
  | waits mid mode resume ih =>
    exact ⟨h.1, h.2.1, fun later hlater => ih later (h.2.2 later hlater)⟩

/-- More faults may be allowed. -/
theorem Careful.mono {faults' : StoreError → Prop} {Q' : α → s → Prop}
    (h : o.Careful C faults Q st) (hfaults : ∀ x, faults x → faults' x)
    (hQ : ∀ a st, Q a st → Q' a st) : o.Careful C faults' Q' st := by
  induction o generalizing st with
  | ok a st' => exact ⟨h.1, hQ a st' h.2⟩
  | error e st' => exact ⟨h.1, fun x hx => ⟨hfaults x (h.2 x hx).1, (h.2 x hx).2⟩⟩
  | waits mid mode resume ih =>
    exact ⟨h.1, h.2.1, fun later hlater => ih later (h.2.2 later hlater)⟩

/-- A call on a part of a state is as careful on the whole if what is asked agrees. -/
theorem Careful.zoom {D : Care t} {get : t → s} {put : s → t → t} {R : α → t → Prop} {st : t}
    (h : o.Careful C faults Q (get st))
    (hleaves : ∀ st mid, C.leaves (get st) mid → D.leaves st (put mid st))
    (harmed : ∀ st x, C.armed (get st) x → D.armed st x)
    (hwaiting : ∀ st mid, C.waiting mid → D.waiting (put mid st))
    (hresumes : ∀ st mid later, D.resumes (put mid st) later → C.resumes mid (get later))
    (hQ : ∀ a st mid, Q a mid → R a (put mid st)) :
    (o.zoom get put st).Careful D faults R st := by
  induction o generalizing st with
  | ok a mid => exact ⟨hleaves _ _ h.1, hQ _ _ _ h.2⟩
  | error e mid =>
    exact ⟨hleaves _ _ h.1, fun x hx => ⟨(h.2 x hx).1, harmed _ _ (h.2 x hx).2⟩⟩
  | waits mid mode resume ih =>
    exact ⟨hleaves _ _ h.1, hwaiting _ _ h.2.1, fun later hlater =>
      ih (get later) (h.2.2 (get later) (hresumes _ _ _ hlater))⟩

end Careful

end Outcome

/-! ## Fit connections -/

namespace Connection

/-- The native transaction is as the phase has it, and what is staged can be written. -/
structure Fit (c : Connection Session) : Prop where
  /-- there is no native transaction while writes are staged at most -/
  staging : c.phase = .idle ∨ c.phase = .staging → c.session = ⟨none⟩
  /-- the native transaction of a direct one takes writes, which are not staged -/
  direct : c.phase = .direct → c.session.Open ∧ c.isolation.readSnapshot = false
  /-- a prepared transaction has a native one -/
  prepared : c.phase = .prepared → ∃ t, c.session.txn = some t
  /-- every statement to be added is well formed -/
  wellFormed : ∀ s, c.staging.isAdded s = true → s.WellFormed

/-- The parts of a connection that its fitness depends on. -/
theorem Fit.congr {c c' : Connection Session} (h : c.Fit) (hphase : c'.phase = c.phase)
    (hsession : c'.session = c.session) (hisolation : c'.isolation = c.isolation)
    (hstaging : c'.staging = c.staging) : c'.Fit := by
  refine ⟨?_, ?_, ?_, ?_⟩
  · rw [hphase, hsession]
    exact h.staging
  · rw [hphase, hsession, hisolation]
    exact h.direct
  · rw [hphase, hsession]
    exact h.prepared
  · rw [hstaging]
    exact h.wellFormed

/-- A connection that has just been made, or has ended its transaction, is fit. -/
theorem Fit.of_idle {c : Connection Session} (hphase : c.phase = .idle)
    (hsession : c.session = ⟨none⟩) (hstaging : c.staging = ∅) : c.Fit where
  staging := fun _ => hsession
  direct := fun hp => by cases hphase.symm.trans hp
  prepared := fun hp => by cases hphase.symm.trans hp
  wellFormed := fun s hs => by simp [hstaging] at hs

/-- A transaction that stages its writes is fit while it has no native one. -/
theorem Fit.of_staging {c : Connection Session} (hphase : c.phase = .staging)
    (hsession : c.session = ⟨none⟩)
    (hwellFormed : ∀ s, c.staging.isAdded s = true → s.WellFormed) : c.Fit where
  staging := fun _ => hsession
  direct := fun hp => by cases hphase.symm.trans hp
  prepared := fun hp => by cases hphase.symm.trans hp
  wellFormed := hwellFormed

/-- A direct transaction is fit while its native one takes writes, and it stages none. -/
theorem Fit.of_direct {c : Connection Session} (hphase : c.phase = .direct)
    (hopen : c.session.Open) (hread : c.isolation.readSnapshot = false)
    (hwellFormed : ∀ s, c.staging.isAdded s = true → s.WellFormed) : c.Fit where
  staging := fun hp => by simp [hphase] at hp
  direct := fun _ => ⟨hopen, hread⟩
  prepared := fun hp => by cases hphase.symm.trans hp
  wellFormed := hwellFormed

/-- A prepared transaction is fit while it has a native one. -/
theorem Fit.of_prepared {c : Connection Session} (hphase : c.phase = .prepared)
    (htxn : ∃ t, c.session.txn = some t)
    (hwellFormed : ∀ s, c.staging.isAdded s = true → s.WellFormed) : c.Fit where
  staging := fun hp => by simp [hphase] at hp
  direct := fun hp => by cases hphase.symm.trans hp
  prepared := fun _ => htxn
  wellFormed := hwellFormed

theorem Fit.ended (c : Connection Session) : c.ended.Fit := .of_idle rfl rfl rfl

theorem Fit.ledger {c : Connection Session} (h : c.Fit) (ledger : Ledger) :
    { c with ledger := ledger }.Fit := h.congr rfl rfl rfl rfl

end Connection

namespace Frame

section Care

variable {σ : Type} {fit : Connection σ → Prop}

/-- The connection is fit, in a given sense of the word, and nothing has been armed. -/
structure FitsAs (fit : Connection σ → Prop) (st st' : Frame σ) : Prop where
  /-- the connection is fit -/
  fit : fit st'.self
  /-- what is armed was armed before -/
  armed : ∀ x, st'.store.Armed x → st.store.Armed x

theorem FitsAs.of_store {st st' : Frame σ} (hfit : fit st'.self) (hstore : st'.store = st.store) :
    FitsAs fit st st' := ⟨hfit, fun _ hx => hstore ▸ hx⟩

/-- What is asked of calls on a connection: it stays fit, and waits only inside a transaction, with
which nothing else happens in the meantime but that commits are noted. -/
def careAs (fit : Connection σ → Prop) : Care (Frame σ) where
  leaves := FitsAs fit
  armed st := st.store.Armed
  waiting st := st.self.isActive = true
  resumes mid later := fit later.self ∧ later.self.phase = mid.self.phase ∧
    later.self.isolation = mid.self.isolation
  trans h₁₂ h₂₃ := ⟨h₂₃.fit, fun x hx => h₁₂.armed x (h₂₃.armed x hx)⟩
  armed_before h hx := h.armed _ hx

end Care

/-- The connection is fit, and nothing has been armed. -/
abbrev Fits (st st' : Frame Session) : Prop := FitsAs Connection.Fit st st'

/-- What is asked of calls on a connection over a session. -/
abbrev care : Care (Frame Session) := careAs Connection.Fit

end Frame

end QuadTxn
