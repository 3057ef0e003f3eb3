import BrowserFlow.Failure.Raised

/-!
# Procedures

A procedure works on a state and ends in one of three ways: with a result, with a raised error, or,
when a loop was given up, in neither. The state it leaves behind is kept whichever way it ends. An
error can be caught; a loop that was given up cannot.
-/
namespace BrowserFlow

inductive Outcome (α : Type)
  | done (a : α)
  | raised (e : Raised)
  | endless

/-- The result, if there is one. -/
def Outcome.result? {α : Type} : Outcome α → Option α
  | .done a => some a
  | _ => none

/-- The error, if one was raised. -/
def Outcome.raised? {α : Type} : Outcome α → Option Raised
  | .raised e => some e
  | _ => none

def Proc (s α : Type) : Type := s → Outcome α × s

namespace Proc

variable {s α β : Type}

instance : Monad (Proc s) where
  pure a := fun st => (.done a, st)
  bind p f := fun st =>
    match p st with
    | (.done a, st) => f a st
    | (.raised e, st) => (.raised e, st)
    | (.endless, st) => (.endless, st)

@[simp] theorem pure_apply (a : α) (st : s) : (pure a : Proc s α) st = (.done a, st) := rfl

theorem bind_apply (p : Proc s α) (f : α → Proc s β) (st : s) :
    (p >>= f) st = match p st with
      | (.done a, st) => f a st
      | (.raised e, st) => (.raised e, st)
      | (.endless, st) => (.endless, st) := rfl

theorem bind_pure_self (p : Proc s α) : (p >>= fun a => pure a) = p := by
  funext st
  rw [bind_apply]
  rcases p st with ⟨_ | _ | _, st⟩ <;> rfl

theorem bind_bind {γ : Type} (p : Proc s α) (f : α → Proc s β) (g : β → Proc s γ) :
    p >>= f >>= g = p >>= fun a => f a >>= g := by
  funext st
  simp only [bind_apply]
  rcases p st with ⟨_ | _ | _, st⟩ <;> rfl

instance : LawfulMonad (Proc s) :=
  LawfulMonad.mk' (Proc s) bind_pure_self (fun _ _ => rfl) bind_bind

def read : Proc s s := fun st => (.done st, st)

def update (f : s → s) : Proc s Unit := fun st => (.done (), f st)

def raise (e : Raised) : Proc s α := fun st => (.raised e, st)

def giveUp : Proc s α := fun st => (.endless, st)

/-- Hands an error back as a value. -/
def attempt (p : Proc s α) : Proc s (Except Raised α) := fun st =>
  match p st with
  | (.done a, st) => (.done (.ok a), st)
  | (.raised e, st) => (.done (.error e), st)
  | (.endless, st) => (.endless, st)

/-- Tidies the state up whichever way the procedure ends. -/
def ensuring (p : Proc s α) (tidy : s → s) : Proc s α := fun st =>
  let (outcome, st) := p st
  (outcome, tidy st)

def ofExcept : Except Raised α → Proc s α
  | .ok a => pure a
  | .error e => raise e

/-- Goes through rounds until one has a result, and gives up when no round is left. -/
def rounds (round : α → Proc s (α ⊕ β)) : Nat → α → Proc s β
  | 0, _ => giveUp
  | n + 1, a => do
    match ← round a with
    | .inl next => rounds round n next
    | .inr result => pure result

end Proc

end BrowserFlow
