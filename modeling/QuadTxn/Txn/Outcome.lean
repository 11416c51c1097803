import QuadTxn.Txn.Gate

/-!
# Calls that may fail or wait

A call changes a state and either answers, fails, or has to wait for the commit gate. A call that
waits has done all that comes before the wait; the state it left is part of the outcome, and so is
the rest of the call, to be run from whatever the state is once the gate admits it.

`Action s` is the monad of such calls. An error does not take back what was done before it.
-/

namespace QuadTxn

/-- What a call on a state of type `s` comes to. -/
inductive Outcome (s α : Type) where
  /-- it answers -/
  | ok (a : α) (st : s)
  /-- it fails -/
  | error (e : TxnError) (st : s)
  /-- it waits until the gate admits `mode`, and is then resumed with the state of that moment -/
  | waits (st : s) (mode : GateMode) (resume : s → Outcome s α)

/-- A call on a state of type `s`. -/
def Action (s α : Type) : Type := s → Outcome s α

namespace Outcome

variable {s α β : Type}

/-- Go on after an answer. -/
def bind : Outcome s α → (α → Action s β) → Outcome s β
  | .ok a st, f => f a st
  | .error e st, _ => .error e st
  | .waits st mode resume, f => .waits st mode fun st' => (resume st').bind f

/-- Go on after an answer or an error. -/
def attempt : Outcome s α → Outcome s (Except TxnError α)
  | .ok a st => .ok (.ok a) st
  | .error e st => .ok (.error e) st
  | .waits st mode resume => .waits st mode fun st' => (resume st').attempt

/-- Follow a change of the state type, where `get` finds the part that the call works on in the
larger state and `put` puts it back. -/
def zoom {t : Type} (get : t → s) (put : s → t → t) (st : t) : Outcome s α → Outcome t α
  | .ok a st' => .ok a (put st' st)
  | .error e st' => .error e (put st' st)
  | .waits st' mode resume =>
    .waits (put st' st) mode fun st => (resume (get st)).zoom get put st

end Outcome

namespace Action

variable {s α β : Type}

instance : Monad (Action s) where
  pure a := fun st => .ok a st
  bind m f := fun st => (m st).bind f

instance : MonadStateOf s (Action s) where
  get := fun st => .ok st st
  set st := fun _ => .ok () st
  modifyGet f := fun st => let (a, st) := f st; .ok a st

instance : MonadExceptOf TxnError (Action s) where
  throw e := fun st => .error e st
  tryCatch m h := fun st => (m st).attempt.bind fun
    | .ok a => fun st => .ok a st
    | .error e => h e

@[simp] theorem pure_apply (a : α) (st : s) : (pure a : Action s α) st = .ok a st := rfl

@[simp] theorem bind_apply (m : Action s α) (f : α → Action s β) (st : s) :
    (m >>= f) st = (m st).bind f := rfl

@[simp] theorem throw_apply (e : TxnError) (st : s) :
    (throw e : Action s α) st = .error e st := rfl

/-- Run a call and report its error as an answer. -/
def attempt (m : Action s α) : Action s (Except TxnError α) := fun st => (m st).attempt

/-- Fail or answer as decided before. -/
def ofExcept (r : Except TxnError α) : Action s α :=
  match r with
  | .ok a => pure a
  | .error e => throw e

/-- Run a call on a part of the state. -/
def zoom {t : Type} (get : t → s) (put : s → t → t) (m : Action s α) : Action t α := fun st =>
  (m (get st)).zoom get put st

end Action

@[simp] theorem Outcome.bind_ok {s α β : Type} (a : α) (st : s) (f : α → Action s β) :
    (Outcome.ok a st).bind f = f a st := rfl

@[simp] theorem Outcome.bind_error {s α β : Type} (e : TxnError) (st : s) (f : α → Action s β) :
    (Outcome.error e st).bind f = .error e st := rfl

@[simp] theorem Outcome.bind_pure {s α : Type} (o : Outcome s α) : o.bind pure = o := by
  induction o with
  | ok a st => rfl
  | error e st => rfl
  | waits st mode resume ih => exact congrArg (Outcome.waits st mode) (funext ih)

theorem Outcome.bind_assoc {s α β γ : Type} (o : Outcome s α) (f : α → Action s β)
    (g : β → Action s γ) : (o.bind f).bind g = o.bind fun a => f a >>= g := by
  induction o with
  | ok a st => rfl
  | error e st => rfl
  | waits st mode resume ih => exact congrArg (Outcome.waits st mode) (funext ih)

instance (s : Type) : LawfulMonad (Action s) := LawfulMonad.mk' _
  (fun m => funext fun st => Outcome.bind_pure (m st))
  (fun _ _ => rfl)
  (fun m f g => funext fun st => Outcome.bind_assoc (m st) f g)

end QuadTxn
