import BrowserFlow.Steps.Act

/-!
# Assertions

Steps that check something and record an assertion failure when it does not hold.
-/
namespace BrowserFlow

/-- The message of a check: a text, or made from the context. -/
inductive Message (σ : Type)
  | fixed (s : String)
  | computed (f : Callback σ Context Value)

/-- What to fail with: a value, or made from the context. -/
inductive Problem (σ : Type)
  | fixed (v : Value)
  | computed (f : Callback σ Context Value)

namespace Message

variable {σ : Type}

def text (m : Message σ) (c : Context) : Action σ Value :=
  match m with
  | fixed s => pure (.str s)
  | computed f => f.invoke c

end Message

namespace Problem

variable {σ : Type}

def shown : Problem σ → Value
  | fixed v => v
  | computed f => f.shown

def payload (p : Problem σ) (c : Context) : Action σ Value :=
  match p with
  | fixed v => pure v
  | computed f => f.invoke c

end Problem

namespace Step

open Interact

variable {σ : Type}

/-- Checks an attribute of the element in focus; without a name there is no such step. -/
def assertAttribute (name expected : Value) : Except Raised (Step σ) :=
  if name.isNone then .error (.usage "assert_attribute_value: attribute_name is required")
  else
    let wanted := name.text ++ "='" ++ expected.text ++ "'"
    .ok (.ofBody "assert_attribute_value" [("attribute", name), ("expected", expected)] fun c => do
      let f ← focus c ("assert_attribute_value " ++ wanted)
      let actual ← Action.call (.readAttribute (← element f "get_attribute") name)
      if actual.equals expected then return c
      else Action.raise (.assertion
        ("Expected " ++ wanted ++ ", actual " ++ name.text ++ "='" ++ actual.text ++ "'")))

/-- Checks a predicate of the context. -/
def assertion (predicate : Option (Callback σ Context Bool)) (message : Message σ) : Step σ :=
  .ofBody "assertion" [("predicate", Callback.shownOption predicate)] fun c => do
    let predicate ← require predicate "assertion" "predicate"
    if ← predicate.invoke c then return c
    else
      let text ← message.text c
      Action.raise { cls := .step .assertion, args := [text] }

def assertTitle (expected : Value) : Step σ :=
  .ofBody "assert_title" [("expected", expected)] fun c => do
    let actual ← c.title
    if expected.isText (some actual) then return c else Action.raise (otherTitle expected actual)

/-- Checks the text of the element in focus, as a whole or for a part. -/
def assertText (expected : Value) (contains : Value := .bool false) : Step σ :=
  .ofBody "assert_text" [("expected", expected), ("contains", contains)] fun c => do
    let f ← focus c "assert_text"
    let actual := (← Action.call (.text (← element f "text"))).getD ""
    let holds ← if contains.isTrue then Action.ofExcept (Value.isPartOf expected actual)
      else pure (expected.isText (some actual))
    if holds then return c
    else
      let relation := if contains.isTrue then "containing" else "equal to"
      Action.raise (.assertion
        ("Expected text " ++ relation ++ " '" ++ expected.text ++ "', actual '" ++ actual ++ "'"))

/-- Fails with a problem, whatever the context. -/
def createFailure (problem : Problem σ) : Step σ :=
  .ofBody "create_failure" [("problem", problem.shown)] fun c => do
    let payload ← problem.payload c
    let failure ←
      Action.ofExcept (Failure.coerce payload (.str "create_failure") (.ok .assertion))
    c.withFailure failure.toValue

end Step

end BrowserFlow
