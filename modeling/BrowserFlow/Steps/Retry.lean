import BrowserFlow.Chain
import BrowserFlow.Numeral

/-!
# Retrying

An operation is attempted until it succeeds or the attempts, at least one and at most ten, run out.
An attempt that raises is logged and counts as missed. The delay after the n-th attempt is n times a
unit; whether an attempt that only missed is followed by a delay is a matter of policy. A step is
retried from the context it was given, with its failure lines held back: only the last one is given
to the sink, and only if the last attempt failed.
-/
namespace BrowserFlow

namespace Retry

variable {σ β : Type}

def loggerName : String := "uiflow.combinators"

/-- The settled terms of a retry. -/
structure Plan where
  attempts : Nat
  policy : BackoffPolicy
  unitMs : Value

/-- Attempts are kept between one and ten. -/
def clamp (n : Int) : Nat := (max 1 (min 10 n)).toNat

/-- A policy that is not named, or named by what counts as false, is the one in the settings. -/
def readPolicy (word : Value) (s : Settings) : Except Raised BackoffPolicy :=
  if !word.isTrue then .ok s.retryBackoff
  else
    match word with
    | .str w =>
      ((BackoffPolicy.ofWord? w).map Except.ok).getD (.error (notAMember word "BackoffPolicy"))
    | word => .error (notAMember word "BackoffPolicy")

def plan (attempts backoff baseDelayMs : Value) : Action σ Plan := do
  let s ← Action.settings
  let policy ← Action.ofExcept (readPolicy backoff s)
  let n ← Action.ofExcept attempts.toWhole
  return ⟨clamp n, policy, if baseDelayMs.isNone then .int s.retryBaseDelayMs else baseDelayMs⟩

def noOperand (symbol : String) (v : Value) (other : String) : Raised :=
  .typeError ("unsupported operand type(s) for " ++ symbol ++ ": '" ++ v.fullTypeName ++
    "' and '" ++ other ++ "'")

/-- The seconds to wait after the k-th attempt. A sequence can be repeated and then not be divided;
what is neither a number nor a sequence cannot even be repeated. -/
def delay (unitMs : Value) (k : Nat) : Except Raised Float :=
  match unitMs with
  | .int n => do return (← floatOfInt (n * k)) / 1000.0
  | .bool b => do return (← floatOfInt (Number.ofBool b * k)) / 1000.0
  | .float x => .ok (x * Float.ofNat k / 1000.0)
  | .str _ | .bytes _ | .list _ | .tuple _ => .error (noOperand "/" unitMs "float")
  | v => .error (noOperand "*" v "int")

def pause (p : Plan) (k : Nat) : Action σ Unit := do
  Action.emit (.pause (← Action.ofExcept (delay p.unitMs k)))

def warning (p : Plan) (k : Nat) (e : Raised) : Except Raised String := do
  return "RETRY [" ++ toString k ++ "/" ++ toString p.attempts ++ "] " ++ e.cls.name ++ ": " ++
    (← e.readText)

/-- Goes through the attempts that remain. An attempt gives a result and whether it succeeded; one
that raises leaves the result of the attempts before it. -/
def loop (p : Plan) (attempt : Action σ (β × Bool)) : Nat → β → Action σ (β × Bool)
  | 0, last => pure (last, false)
  | remaining + 1, last => do
    let k := p.attempts - remaining
    match ← attempt.rescue with
    | .ok (result, true) => return (result, true)
    | .ok (result, false) =>
      if remaining ≠ 0 ∧ p.policy = .always then pause p k
      loop p attempt remaining result
    | .error e =>
      Action.record .warning loggerName (← Action.ofExcept (warning p k e))
      if remaining ≠ 0 then pause p k
      loop p attempt remaining last

def run (p : Plan) (attempt : Action σ (β × Bool)) (start : β) : Action σ (β × Bool) :=
  loop p attempt p.attempts start

/-- One attempt of a step. -/
def attempt (body : Step σ) (c : Context) : Action σ (Context × Bool) := do
  let derived ← body.execute c
  return (derived, !derived.hasFailure)

/-- Puts the sink back into the context that the attempts have come to; if that has failed, the sink
is given the last of the failure lines that were held back. -/
def conclude (cell : Nat) (sink : Sink) (last : Context) : Action σ Context := do
  if last.hasFailure then
    match ((← Action.machine).held cell).getLast? with
    | some line => sink.write .error line
    | none => pure ()
  return { last with sink }

end Retry

variable {σ : Type}

/-- Attempts an operation; true when an attempt succeeded. -/
def retry (operation : Option (Callback σ Unit Bool)) (attempts : Value := .int 10)
    (backoff : Value := .none) (baseDelayMs : Value := .none) : Action σ Bool := do
  let operation ← Step.require operation "retry" "operation"
  let plan ← Retry.plan attempts backoff baseDelayMs
  return (← Retry.run plan (do return ((), ← operation.invoke ())) ()).2

/-- Retries a step from the same context. -/
def Step.retrying (body : Step σ) (attempts : Value := .int 3) (backoff : Value := .none)
    (baseDelayMs : Value := .none) : Step σ :=
  .ofBody "retry_step" [("step", .str body.name), ("max_attempts", attempts)] fun c => do
    let cell ← Action.newReference
    let held := { c with sink := .holder cell c.sink }
    let plan ← Retry.plan attempts backoff baseDelayMs
    let last ← Retry.run plan (Retry.attempt body held) held
    Retry.conclude cell c.sink last.1

end BrowserFlow
