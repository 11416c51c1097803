import QuadTxn.Proofs.Calls.Frames

/-!
# Calls and their requests for the gate

A call that is refused the gate waits, or fails because the gate is not granted in time. Here is
what can be said of that apart from what the call does otherwise: a call that asks for nothing ends
(`Outcome.Ends`), and a call is fair if it is refused the gate only while somebody else has it, and
at most once (`Outcome.Fair`). Both are closed under going on with another call.
-/

namespace QuadTxn

/-- Whether the error reports that the gate was not granted in time. -/
def TxnError.isLockTimeout : TxnError → Bool
  | .lockTimeout _ => true
  | _ => false

/-- What is asked of calls on states of type `s`, as far as the gate is concerned. -/
structure Conduct (s : Type) where
  /-- what a call may make of a state -/
  leaves : s → s → Prop
  /-- somebody else has the gate -/
  contested : s → Prop
  /-- a state in which the call may wait -/
  waiting : s → Prop
  /-- a state in which a call that waits is taken up, given the one that it left -/
  resumes : s → GateMode → s → Prop

namespace Outcome

variable {s t α β : Type}

/-- The call comes to an end of which `Q` holds, and is not refused the gate on the way. -/
def Ends (Q : Except TxnError α → s → Prop) : Outcome s α → Prop
  | .ok a st => Q (.ok a) st
  | .error e st => e.isLockTimeout = false ∧ Q (.error e) st
  | .waits _ _ _ => False

/-- `P` holds after an answer, and `E` after an error. -/
def either (P : α → s → Prop) (E : s → Prop) : Except TxnError α → s → Prop
  | .ok a, st => P a st
  | .error _, st => E st

/-- How often the call is refused the gate if, whenever it waits, it is taken up at once from the
state that it left. Where the gate admits nobody, this is how often the call asks for it. -/
def refusals : Outcome s α → Nat
  | .ok _ _ => 0
  | .error e _ => if e.isLockTimeout then 1 else 0
  | .waits st _ resume => (resume st).refusals + 1

/-- The call follows a conduct: it is refused the gate only where that is contested; and if it
waits, then for all that it still needs, so that nothing more is refused to it however the gate is
when it is taken up. -/
def Fair (C : Conduct s) (st : s) : Outcome s α → Prop
  | .ok _ st' => C.leaves st st'
  | .error e st' => C.leaves st st' ∧ (e.isLockTimeout = true → C.contested st)
  | .waits mid mode resume => C.contested st ∧ C.waiting mid ∧ C.leaves st mid ∧
      ∀ later, (resume later).Ends fun _ st' => C.resumes mid mode later → C.leaves later st'

/-! ## Calls that end -/

section Ends

variable {Q : Except TxnError α → s → Prop} {o : Outcome s α}

theorem Ends.mono {R : Except TxnError α → s → Prop} (h : o.Ends Q)
    (himp : ∀ r st, Q r st → R r st) : o.Ends R := by
  cases o with
  | ok a st => exact himp _ _ h
  | error e st => exact ⟨h.1, himp _ _ h.2⟩
  | waits st mode resume => exact h

theorem Ends.bind {R : Except TxnError β → s → Prop} {f : α → Action s β} (h : o.Ends Q)
    (hok : ∀ a st, Q (.ok a) st → (f a st).Ends R)
    (herror : ∀ e st, Q (.error e) st → R (.error e) st) : (o.bind f).Ends R := by
  cases o with
  | ok a st => exact hok a st h
  | error e st => exact ⟨h.1, herror e st h.2⟩
  | waits st mode resume => exact h.elim

/-- A call whose error is handled goes on after an error as well, which is no refusal then. -/
theorem Ends.attempt_bind {R : Except TxnError β → s → Prop}
    {f : Except TxnError α → Action s β} (h : o.Ends Q)
    (hok : ∀ a st, Q (.ok a) st → (f (.ok a) st).Ends R)
    (herror : ∀ e st, e.isLockTimeout = false → Q (.error e) st → (f (.error e) st).Ends R) :
    (o.attempt.bind f).Ends R := by
  cases o with
  | ok a st => exact hok a st h
  | error e st => exact herror e st h.1 h.2
  | waits st mode resume => exact h.elim

theorem Ends.zoom {get : t → s} {put : s → t → t} {st : t}
    (h : o.Ends Q) {R : Except TxnError α → t → Prop} (himp : ∀ r st', Q r st' → R r (put st' st)) :
    (o.zoom get put st).Ends R := by
  cases o with
  | ok a st' => exact himp _ _ h
  | error e st' => exact ⟨h.1, himp _ _ h.2⟩
  | waits st' mode resume => exact h.elim

theorem Ends.refusals_eq (h : o.Ends Q) : o.refusals = 0 := by
  cases o with
  | ok a st => rfl
  | error e st => simp [refusals, h.1]
  | waits st mode resume => exact h.elim

theorem Ends.attempt_eq (h : o.Ends Q) : ∃ r st, o.attempt = .ok r st ∧ Q r st := by
  cases o with
  | ok a st => exact ⟨.ok a, st, rfl, h⟩
  | error e st => exact ⟨.error e, st, rfl, h.2⟩
  | waits st mode resume => exact h.elim

end Ends

/-! ## Counting refusals -/

theorem refusals_bind {f : α → Action s β} (hf : ∀ a st, (f a st).refusals = 0) (o : Outcome s α) :
    (o.bind f).refusals = o.refusals := by
  induction o with
  | ok a st => exact hf a st
  | error e st => rfl
  | waits st mode resume ih => exact congrArg (· + 1) (ih st)

theorem refusals_zoom {get : t → s} {put : s → t → t} (hget : ∀ st' st, get (put st' st) = st')
    (o : Outcome s α) (st : t) : (o.zoom get put st).refusals = o.refusals := by
  induction o generalizing st with
  | ok a st' => rfl
  | error e st' => rfl
  | waits st' mode resume ih =>
    rw [zoom, refusals, hget, ih]
    rfl

/-! ## Calls that follow a conduct -/

section Fair

variable {C : Conduct s} {st : s} {o : Outcome s α}

theorem Ends.fair (h : o.Ends fun _ st' => C.leaves st st') : o.Fair C st := by
  cases o with
  | ok a st' => exact h
  | error e st' =>
    refine ⟨h.2, fun he => ?_⟩
    rw [h.1] at he
    cases he
  | waits st' mode resume => exact h.elim

/-- A fair call may go on with one that asks for nothing. -/
theorem Fair.bind {f : α → Action s β} (h : o.Fair C st)
    (hf : ∀ a mid, (f a mid).Ends fun _ st' => ∀ st, C.leaves st mid → C.leaves st st') :
    (o.bind f).Fair C st := by
  cases o with
  | ok a mid => exact Ends.fair ((hf a mid).mono fun _ _ hleaves => hleaves st h)
  | error e st' => exact h
  | waits mid mode resume =>
    obtain ⟨hcontested, hwaiting, hleaves, hresume⟩ := h
    refine ⟨hcontested, hwaiting, hleaves, fun later => ?_⟩
    exact (hresume later).bind
      (fun a st' hst' => (hf a st').mono fun _ _ hf hres => hf later (hst' hres))
      (fun _ _ hst' => hst')

/-- A call is fair as well from a state before the one it starts from. -/
theorem Fair.of_leaves {mid : s} (h : o.Fair C mid)
    (hleaves : ∀ st', C.leaves mid st' → C.leaves st st')
    (hcontested : C.contested mid → C.contested st) : o.Fair C st := by
  cases o with
  | ok a st' => exact hleaves st' h
  | error e st' => exact ⟨hleaves st' h.1, fun he => hcontested (h.2 he)⟩
  | waits st' mode resume =>
    exact ⟨hcontested h.1, h.2.1, hleaves st' h.2.2.1, h.2.2.2⟩

/-- A fair call on a part of a state is fair on the whole if the conducts agree. -/
theorem Fair.zoom {D : Conduct t} {get : t → s} {put : s → t → t} {st : t}
    (h : o.Fair C (get st)) (hcontested : C.contested (get st) → D.contested st)
    (hleaves : ∀ st', C.leaves (get st) st' → D.leaves st (put st' st))
    (hwaiting : ∀ mid, C.leaves (get st) mid → C.waiting mid → D.waiting (put mid st))
    (hresumes : ∀ mid mode later, C.leaves (get st) mid → D.resumes (put mid st) mode later →
      C.resumes mid mode (get later) ∧
        ∀ st', C.leaves (get later) st' → D.leaves later (put st' later)) :
    (o.zoom get put st).Fair D st := by
  cases o with
  | ok a st' => exact hleaves st' h
  | error e st' => exact ⟨hleaves st' h.1, fun he => hcontested (h.2 he)⟩
  | waits mid mode resume =>
    obtain ⟨hc, hw, hl, hresume⟩ := h
    refine ⟨hcontested hc, hwaiting mid hl hw, hleaves mid hl, fun later => ?_⟩
    refine (hresume (get later)).zoom fun _ st' hst' hres => ?_
    obtain ⟨hres, hput⟩ := hresumes mid mode later hl hres
    exact hput st' (hst' hres)

/-- A fair call is refused the gate at most once. -/
theorem Fair.refusals_le (h : o.Fair C st) : o.refusals ≤ 1 := by
  cases o with
  | ok a st' => exact Nat.zero_le 1
  | error e st' =>
    rw [refusals]
    split
    · exact Nat.le_refl 1
    · exact Nat.zero_le 1
  | waits mid mode resume =>
    exact Nat.le_of_eq (congrArg (· + 1) (h.2.2.2 mid).refusals_eq)

/-- A fair call is refused nothing where nobody else has the gate. -/
theorem Fair.refusals_eq (h : o.Fair C st) (hc : ¬C.contested st) : o.refusals = 0 := by
  cases o with
  | ok a st' => rfl
  | error e st' =>
    rw [refusals, if_neg fun he => hc (h.2 he)]
  | waits mid mode resume => exact absurd h.1 hc

end Fair

end Outcome

end QuadTxn
