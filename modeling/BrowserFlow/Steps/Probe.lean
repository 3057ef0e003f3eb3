import BrowserFlow.Steps.Find

/-!
# Probing

A probe tells whether a visible element matches, and never fails on account of the driver: a miss of
any sort is a line of information. A branch on a probe runs one of two steps or neither.
-/
namespace BrowserFlow

namespace Probe

variable {σ : Type}

def loggerName : String := "uiflow.finders"

def miss (label shown : String) : String := label ++ " [" ++ shown ++ "] not found"

/-- The warning of a probe that went wrong other than by missing. -/
def trouble (label shown : String) (e : Raised) : Except Raised String := do
  return label ++ " [" ++ shown ++ "] probe error: " ++ e.cls.name ++ ": " ++ (← e.readText)

def run (label : String) (c : Context) (selector shown : String) (timeout : Value) :
    Action σ Bool := do
  let wait ← Action.timeout timeout Settings.existsTimeout
  match ← Action.rescue (Action.call (.waitFor (c.locate selector) wait (.bool true))) with
  | .ok _ => return true
  | .error e =>
    if !e.cls.isDriver then
      Action.record .warning loggerName (← Action.ofExcept (trouble label shown e))
    c.sink.write .info (miss label shown)
    return false

end Probe

namespace Context

variable {σ : Type}

def «exists» (c : Context) (selector : String) (timeout : Value := .none) : Action σ Bool :=
  Probe.run "exists" c selector selector timeout

def existsPath (c : Context) (path : String) (timeout : Value := .none) : Action σ Bool :=
  Probe.run "exists_xpath" c (Selector.ofPath path) path timeout

end Context

namespace Step

variable {σ : Type}

/-- Runs one step or the other, if given, by whether the selector matches. -/
def ifExists (selector : Value) (onTrue onFalse : Option (Step σ) := none)
    (timeout : Value := .int 0) : Step σ :=
  .ofBody "if_exists" [("selector", selector), ("timeout", timeout)] fun c => do
    let selector ← Action.ofExcept (Query.requireSelector selector "if_exists")
    if ← c.exists selector timeout then executeOption onTrue c else executeOption onFalse c

end Step

end BrowserFlow
