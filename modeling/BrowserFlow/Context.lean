import BrowserFlow.Failure.Basic
import BrowserFlow.Sink

/-!
# Contexts

The state that a chain hands from step to step: the session, the frame that look-ups are confined
to, the element in focus or the elements collected, the item store shared by reference, the first
failure, and the sink for lines. A context is never changed; steps derive new ones. Moving to
another frame drops focus and collection, which belong to the frame they were located in. The focus
can be anything that a callback picks; what is no element cannot be worked on.
-/
namespace BrowserFlow

/-- What is in focus: an element, as it should be, or some other value. -/
inductive Focus
  | element (l : Locator)
  | value (v : Value)
deriving BEq, Repr

namespace Focus

def toValue : Focus → Value
  | element l => .locator l.path
  | value v => v

/-- The element in focus, for an operation on it. -/
def through (operation : String) : Focus → Except Raised Locator
  | element l => .ok l
  | value v => .error (.noAttribute v.fullTypeName operation)

end Focus

structure Context where
  session : Session
  scope : Option Frame := none
  focus : Option Focus := none
  collection : Option (List Locator) := none
  items : Nat
  failure : Option Failure := none
  sink : Sink
deriving BEq, Repr

namespace Context

def hasFailure (c : Context) : Bool := c.failure.isSome

def hasFocus (c : Context) : Bool := c.focus.isSome

def hasCollection (c : Context) : Bool := c.collection.isSome

def withFocus (c : Context) (l : Locator) : Context :=
  { c with focus := some (.element l), collection := none }

/-- Puts whatever was picked into focus. -/
def withPicked (c : Context) (picked : Focus) : Context :=
  { c with focus := some picked, collection := none }

def withCollection (c : Context) (ls : List Locator) : Context :=
  { c with focus := none, collection := some ls }

def withoutFocusOrCollection (c : Context) : Context := { c with focus := none, collection := none }

def withScope (c : Context) (frame : Frame) : Context :=
  { c with scope := some frame, focus := none, collection := none }

def withoutScope (c : Context) : Context :=
  { c with scope := none, focus := none, collection := none }

/-- A locator for a selector in the frame the context is confined to. -/
def locate (c : Context) (selector : String) : Locator := .root c.scope selector none

/-- What a context shows of itself; what it does not have is left out. -/
def describe (c : Context) : String :=
  let parts := ["session=" ++ c.session.id] ++
    (c.scope.map fun frame => "scope=" ++ Text.quoted frame.selector).toList ++
    (c.focus.map fun _ => "focus=1").toList ++
    (c.collection.map fun ls => "collection=" ++ toString ls.length).toList ++
    (c.failure.map fun f => "failure=" ++ Text.quoted f.describe).toList
  "Context(" ++ ", ".intercalate parts ++ ")"

variable {σ : Type}

/-- Records the first failure and gives it to the sink; a context that has failed stays as it is. -/
def withFailure (c : Context) (payload : Value) (step : Value := .none) : Action σ Context :=
  if c.hasFailure then pure c
  else do
    let failure ← Action.ofExcept (Failure.coerce payload step)
    c.sink.write .error ("Failure created: " ++ failure.describe)
    return { c with failure := some failure }

def fail (c : Context) (kind : FailureKind) (message : String) (step : Option String := none) :
    Action σ Context :=
  c.withFailure (.failure kind message step none)

/-- Fails with a kind, a message and a step that have yet to be checked. -/
def failUnchecked (c : Context) (kind message : Value) (step : Value := .none) :
    Action σ Context := do
  let kind ← Action.ofExcept (FailureKind.read kind)
  let failure ← Action.ofExcept (Failure.make kind message step)
  c.withFailure failure.toValue

def title (c : Context) : Action σ String := Action.call (.title c.session)

/-- The text of the element in focus. -/
def text (c : Context) : Action σ Value :=
  match c.focus with
  | some focus => do
    return .ofOption (← Action.call (.text (← Action.ofExcept (focus.through "text"))))
  | none => pure .none

def inputTags : List String := ["input", "textarea", "select"]

/-- The input of a form field in focus, the text of any other element. -/
def value (c : Context) : Action σ Value :=
  match c.focus with
  | some focus => do
    let l ← Action.ofExcept (focus.through "tag_name")
    let tag ← Action.call (.tagName l)
    if inputTags.contains tag then Action.call (.inputValue l)
    else return .ofOption (← Action.call (.text l))
  | none => pure .none

end Context

end BrowserFlow
