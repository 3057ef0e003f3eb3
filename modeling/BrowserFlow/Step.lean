import BrowserFlow.Callback
import BrowserFlow.Context
import BrowserFlow.StepLine

/-!
# Steps

A step is a named change of context. Its arguments are kept beside its body, so that the line which
announces it can be written without running it. A step is run under the contract of chains in one
place: not at all on a failed context or after cancellation, announced before it starts, and with
whatever goes wrong turned into a failure.
-/
namespace BrowserFlow

/-- What the body of a step gives back: a context, as it should, or some other value. -/
inductive Answer
  | context (c : Context)
  | value (v : Value)

namespace Answer

/-- An answer as a value; of a context only its text is left. -/
def toValue : Answer → Value
  | context c => .other "Context" c.describe
  | value v => v

end Answer

structure Step (σ : Type) where
  name : String
  args : List (String × Value) := []
  body : Context → Action σ Answer

namespace Step

variable {σ : Type}

/-- A step of the library, whose body always gives a context back. -/
def ofBody (name : String) (args : List (String × Value))
    (body : Context → Action σ Context) : Step σ :=
  ⟨name, args, fun c => do return .context (← body c)⟩

/-- Arguments by name; one that is given again keeps its first place and takes its last value. -/
def collected (args : List (String × Value)) : List (String × Value) :=
  args.foldl (fun kept (name, v) =>
    if kept.any (·.1 = name) then kept.map fun arg => if arg.1 = name then (name, v) else arg
    else kept ++ [(name, v)]) []

/-- A step around a callback, named after it unless a name is given. -/
def ofCallback (f : Callback σ Context Answer) (name : Option String := none)
    (args : List (String × Value) := []) : Step σ :=
  let name := match name with
    | some given => if given.isEmpty then f.stepName else given
    | none => f.stepName
  ⟨name, collected args, f.invoke⟩

def describe (s : Step σ) : String := stepLine s.name s.args

/-- The error of a step that is not started because its token was cancelled. -/
def cancelled (name : String) (reason : Value) : Raised :=
  .ofText (.step .cancelled) ("Chain cancelled before '" ++ name ++ "': " ++ reason.text)

/-- The token that a step heeds: the one it is given, or that of the running chain. -/
def heeded (token : Option Token) : Action σ (Option Token) := do
  return token <|> (← Action.machine).active

/-- Runs the body of a step, unannounced and unchecked. -/
def call (s : Step σ) (c : Context) : Action σ Answer := Action.awaited (s.body c)

/-- Announces a step and runs its body. -/
def start (s : Step σ) (c : Context) : Action σ Context := do
  c.sink.write .step s.describe
  match ← Action.rescue (s.call c) with
  | .ok (.context derived) => return derived
  | .ok (.value v) =>
    c.fail .usage ("Step returned " ++ v.typeName ++ " instead of a Context") (some s.name)
  | .error e =>
    Action.record .debug "uiflow.chain" ("Step '" ++ s.name ++ "' raised " ++ e.cls.name)
    c.withFailure e.toValue (.str s.name)

/-- Runs a step under the contract of chains. -/
def execute (s : Step σ) (c : Context) (token : Option Token := none) : Action σ Context :=
  if c.hasFailure then pure c
  else do
    let reason ← match ← heeded token with
      | some token => Action.cancellation token
      | none => pure none
    match reason with
    | some reason => c.withFailure (cancelled s.name reason).toValue (.str s.name)
    | none => s.start c

/-- Runs a step if there is one. -/
def executeOption (s : Option (Step σ)) (c : Context) : Action σ Context :=
  match s with
  | some s => s.execute c
  | none => pure c

def missing (label what : String) : Raised := .usage (label ++ ": " ++ what ++ " is required")

/-- Refuses a missing argument. -/
def require {α : Type} (argument : Option α) (label what : String) : Action σ α :=
  match argument with
  | some a => pure a
  | none => Action.raise (missing label what)

/-- Refuses nothing in the place of a value. -/
def requireValue (v : Value) (label what : String) : Action σ Value :=
  if v.isNone then Action.raise (missing label what) else pure v

/-- How a step that may be missing shows in the line of another step. -/
def shownOption (s : Option (Step σ)) : Value := .ofOption (s.map (·.name))

end Step

end BrowserFlow
