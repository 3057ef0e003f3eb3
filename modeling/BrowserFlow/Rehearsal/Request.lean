import BrowserFlow.Action
import BrowserFlow.Context
import BrowserFlow.Rehearsal.Signature

/-!
# Requests by name

Calls on a driver that are named by a word and take loose values.
-/
namespace BrowserFlow

namespace Rehearsal.Request

variable {σ : Type}

def argument (args : List Value) (place : Nat) : Value := args.getD place .none

/-- Does something that has nothing to reply. -/
def silently (p : Action σ Unit) : Action σ Value := do
  p
  return .none

/-- What the methods of a locator take. -/
def locatorMethods : List (String × Signature) :=
  [("count", {}), ("nth", .takes ["index"]), ("locator", .takes ["selector"]),
    ("wait_for", .takes ["timeout"] ["visible"]), ("click", .takes [] ["timeout"]),
    ("dbl_click", {}), ("fill", .takes ["text"]), ("press", .takes ["key"]),
    ("get_attribute", .takes ["name"]), ("text", {}), ("input_value", {}), ("tag_name", {}),
    ("evaluate", { needed := ["script"], isOpen := true }), ("select_option", .takes ["value"])]

/-- What the methods of a driver take after the session. -/
def driverMethods : List (String × Signature) :=
  [("goto", .takes ["url"]), ("frame", .takes ["selector"]),
    ("evaluate", { needed := ["script"], isOpen := true }), ("title", {}),
    ("wait_for_load", .takes ["timeout"]), ("close", {})]

/-- What the methods of a context take that can be waited for. -/
def contextMethods : List (String × Signature) := [("text", {}), ("value", {}), ("title", {})]

/-- Checks the arguments of a method that is known. -/
def checkArguments (methods : List (String × Signature)) (type method : String) (own : Nat)
    (args : List Value) : Except Raised Unit :=
  match methods.lookup method with
  | some s => s.checkCount (type ++ "." ++ method) own args.length
  | none => .ok ()

/-- What is there at once is waited for. -/
def notAwaitable (type : String) : Raised :=
  .typeError ("object " ++ type ++ " can't be used in 'await' expression")

/-- Asks through a locator. -/
def ofLocator (l : Locator) (method : String) (args : List Value) : Action σ Value := do
  let type ← Action.locatorType
  Action.ofExcept (checkArguments locatorMethods type method 1 args)
  let first := argument args 0
  match method with
  | "nth" | "locator" => Action.raise (notAwaitable type)
  | "count" => do return .int (← Action.call (.count l))
  | "wait_for" =>
    silently (Action.call (.waitFor l first (args.getD 1 (.bool false))))
  | "click" => silently (Action.call (.click l first))
  | "dbl_click" => silently (Action.call (.doubleClick l))
  | "fill" => silently (Action.call (.fill l first))
  | "press" => silently (Action.call (.press l first))
  | "get_attribute" => Action.call (.readAttribute l first)
  | "text" => do return .ofOption (← Action.call (.text l))
  | "input_value" => Action.call (.inputValue l)
  | "tag_name" => do return .str (← Action.call (.tagName l))
  | "evaluate" => Action.call (.evaluateOn l first args.tail)
  | "select_option" => do return .list (← Action.call (.selectOption l first))
  | method => Action.raise (.noAttribute type method)

/-- Asks the driver in the session and frame of a context. -/
def ofDriver (c : Context) (method : String) (args : List Value) :
    Action σ (Value ⊕ Context) := do
  let type ← Action.driverType
  Action.ofExcept
    (checkArguments driverMethods type method (if method = "evaluate" then 3 else 2) args)
  let first := argument args 0
  let plain := fun (p : Action σ Value) => do return .inl (← p)
  match method with
  | "goto" => plain (silently (Action.call (.goto c.session first)))
  | "title" => plain (do return .str (← Action.call (.title c.session)))
  | "evaluate" => plain (Action.call (.evaluate c.session c.scope first args.tail))
  | "wait_for_load" => plain (silently (Action.call (.waitForLoad c.session first)))
  | "close" => plain (silently (Action.call (.close c.session)))
  | "frame" => do return .inr (c.withScope (← Action.call (.frame c.session first)))
  | method => Action.raise (.noAttribute type method)

/-- Launches a browser by a driver. -/
def launching (args : List Value) : Action σ Session := do
  let launch : Signature := .takes ["brand"] ["headless"]
  Action.ofExcept (launch.checkCount ((← Action.driverType) ++ ".launch") 1 args.length)
  Action.call (.launch (argument args 0) (args.getD 1 (.bool true)))

end Rehearsal.Request

end BrowserFlow
