import BrowserFlow.Step

/-!
# Chains

A chain is a list of steps run from left to right; after a failure the rest is skipped. A chain that
is given a token makes it the token of everything that runs inside it, and puts the former one back
whichever way it ends.
-/
namespace BrowserFlow

structure Chain (σ : Type) where
  steps : List (Step σ)

namespace Chain

variable {σ : Type}

def size (chain : Chain σ) : Nat := chain.steps.length

def push (chain : Chain σ) (s : Step σ) : Chain σ := ⟨chain.steps ++ [s]⟩

def append (chain : Chain σ) (steps : List (Step σ)) : Chain σ := ⟨chain.steps ++ steps⟩

def describe (chain : Chain σ) : String := " | ".intercalate (chain.steps.map (·.describe))

/-- Runs steps one after the other until one has failed. -/
def runSteps (token : Option Token) : List (Step σ) → Context → Action σ Context
  | [], c => pure c
  | s :: rest, c =>
    if c.hasFailure then do
      Action.record .debug "uiflow.chain"
        ("Skipping " ++ toString (rest.length + 1) ++ " step(s) after failure")
      return c
    else do
      let derived ← s.execute c token
      runSteps token rest derived

def run (chain : Chain σ) (c : Context) (token : Option Token := none) : Action σ Context :=
  match token with
  | none => runSteps none chain.steps c
  | some given => do
    let former := (← Action.machine).active
    Action.change fun m => { m with active := some given }
    (runSteps token chain.steps c).ensuring fun m => { m with active := former }

/-- A chain cannot start from nothing. -/
def noContext : Raised := .usage "Chain.run: initial context is None"

def runOption (chain : Chain σ) (c : Option Context) (token : Option Token := none) :
    Action σ Context :=
  match c with
  | some c => chain.run c token
  | none => Action.raise noContext

/-- The chain as one step of another; it heeds the token of that chain. -/
def asStep (chain : Chain σ) (name : Option String := none) : Step σ :=
  let name := match name with
    | some given => if given.isEmpty then "chain" else given
    | none => "chain"
  .ofBody name [("steps", .int chain.size)] fun c => chain.run c

end Chain

/-- A step around a value, which can be built only if the value can be called. -/
def Step.around {σ : Type} (v : Value) (name : Option String) (args : List (String × Value)) :
    Except Raised (Step σ) :=
  if v.isCallable then .ok (.ofCallback (.ofValue v (.value .none)) name args)
  else .error (.typeError ("Step body must be callable, got " ++ v.typeName))

/-- What may be given where a step is wanted. -/
inductive StepSource (σ : Type)
  | step (s : Step σ)
  | chain (c : Chain σ)
  | callback (f : Callback σ Context Answer)
  | value (v : Value)

namespace StepSource

variable {σ : Type}

/-- The step behind a source; a name goes to what has none of its own. -/
def toStep (source : StepSource σ) (name : Option String := none) : Except Raised (Step σ) :=
  match source with
  | step s => .ok s
  | chain c => .ok (c.asStep name)
  | callback f => .ok (.ofCallback f name)
  | value v =>
    if v.isCallable then .ok (.ofCallback (.ofValue v (.value .none)) name)
    else .error (.usage ("Expected a step, chain or callable, got " ++ v.typeName))

/-- The chain of the steps behind sources, in their order. -/
def toChain (sources : List (StepSource σ)) (name : Option String := none) :
    Except Raised (Chain σ) := do
  return ⟨← sources.mapM (·.toStep name)⟩

end StepSource

end BrowserFlow
