import BrowserFlow.Action

/-!
# Callbacks

What the caller of the library passes in to be run during a flow. A callback shows in step lines as
the thing it is. One that is marked with a reference and a name is told how often it was invoked
before, and each of its invocations is an event. Any other value can stand in the place of a
callback: invoking it gives nothing, if it can be called at all.
-/
namespace BrowserFlow

structure Callback (σ α β : Type) where
  mark : Option (Nat × String)
  shown : Value
  body : Nat → α → Action σ β

/-- The name of a step whose body has none. -/
def anonymous : String := "anonymous"

namespace Callback

variable {σ α β γ : Type}

def invoke (f : Callback σ α β) (a : α) : Action σ β :=
  match f.mark with
  | some (id, name) => do
    let earlier := Event.invocations id (← Action.machine).log
    Action.emit (.invoked id name)
    f.body earlier a
  | none => f.body 0 a

/-- A value in the place of a callback, and what stands for nothing there. -/
def ofValue (v : Value) (nothing : β) : Callback σ α β :=
  ⟨none, v, fun _ _ => if v.isCallable then pure nothing else Action.raise (.notCallable v)⟩

/-- The name that a step takes from its body. -/
def stepName (f : Callback σ α β) : String :=
  match f.shown with
  | .callable name => if name.isEmpty || name = "<lambda>" then anonymous else name
  | _ => anonymous

/-- Works on what the callback gives back. -/
def map (g : β → γ) (f : Callback σ α β) : Callback σ α γ :=
  { f with body := fun k a => do return g (← f.body k a) }

/-- How a callback that may be missing shows in a step line. -/
def shownOption (f : Option (Callback σ α β)) : Value := (f.map (·.shown)).getD .none

end Callback

end BrowserFlow
