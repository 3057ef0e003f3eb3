import BrowserFlow.Chain

/-!
# Handing over to callbacks

Steps that hand the context, or the element in focus, to a callback and carry on with the context
unchanged. What the callback raises becomes the failure.
-/
namespace BrowserFlow

namespace Context

variable {σ α β : Type}

/-- Runs a callback on something of the context and keeps the context; an error becomes its
failure. -/
def handOver (c : Context) (action : Callback σ α β) (a : α) (step : String) :
    Action σ Context := do
  match ← Action.rescue (action.invoke a) with
  | .ok _ => return c
  | .error e => c.withFailure e.toValue (.str step)

def missingAction (c : Context) (label : String) (step : Option String) : Action σ Context :=
  c.fail .usage (label ++ ": None passed as action") step

/-- Hands the context to a callback. -/
def use (c : Context) (action : Option (Callback σ Context β)) : Action σ Context :=
  match action with
  | some action => c.handOver action c "use"
  | none => c.missingAction "use" none

end Context

namespace Step

variable {σ β : Type}

/-- Hands the context, or what comes of a step, to a callback. -/
def use (action : Option (Callback σ Context β)) (step : Option (Step σ) := none) : Step σ :=
  .ofBody "use" [("action", Callback.shownOption action), ("step", shownOption step)] fun c =>
    match action with
    | none => c.missingAction "use" (some "use")
    | some action => do
      let c ← executeOption step c
      if c.hasFailure then return c else c.use (some action)

/-- Hands the element in focus to a callback, if there is one. -/
def useElement (action : Option (Callback σ Focus β)) (step : Option (Step σ) := none) :
    Step σ :=
  .ofBody "use_element" [("action", Callback.shownOption action), ("step", shownOption step)]
    fun c =>
    match action with
    | none => c.missingAction "use_element" (some "use_element")
    | some action => do
      let c ← executeOption step c
      if c.hasFailure then return c
      else
        match c.focus with
        | some focus => c.handOver action focus "use_element"
        | none => return c

end Step

end BrowserFlow
