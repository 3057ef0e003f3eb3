import BrowserFlow.Locator
import BrowserFlow.Value

/-!
# Calls on a driver

Everything that the steps of a flow ask of a browser is one of these calls, and the type of each
reply depends on the call. What a call is given is shown as it was given; whether a driver can make
sense of it is for the driver to say. Locating is no call: a locator is only a path until it is
used.
-/
namespace BrowserFlow

/-- A browser session: the engine behind it and the name it is told by. -/
structure Session where
  engine : String
  id : String
deriving DecidableEq, Repr

inductive Call
  | launch (brand headless : Value)
  | goto (session : Session) (url : Value)
  | frame (session : Session) (selector : Value)
  | evaluate (session : Session) (scope : Option Frame) (source : Value) (args : List Value)
  | title (session : Session)
  | waitForLoad (session : Session) (timeout : Value)
  | close (session : Session)
  | count (l : Locator)
  | waitFor (l : Locator) (timeout visible : Value)
  | click (l : Locator) (timeout : Value)
  | doubleClick (l : Locator)
  | fill (l : Locator) (text : Value)
  | press (l : Locator) (key : Value)
  | readAttribute (l : Locator) (name : Value)
  | text (l : Locator)
  | inputValue (l : Locator)
  | tagName (l : Locator)
  | evaluateOn (l : Locator) (source : Value) (args : List Value)
  | selectOption (l : Locator) (value : Value)
deriving BEq, Repr

/-- What a driver replies to a call. -/
@[reducible] def Call.Reply : Call → Type
  | launch .. => Session
  | frame .. => Frame
  | evaluate .. | evaluateOn .. | readAttribute .. | inputValue _ => Value
  | title _ | tagName _ => String
  | count _ => Int
  | text _ => Option String
  | selectOption .. => List Value
  | _ => Unit

/-- The locator that a call goes through; the other calls are on the session as a whole. -/
def Call.locator? : Call → Option Locator
  | count l | waitFor l .. | click l _ | doubleClick l | fill l _ | press l _
  | readAttribute l _ | text l | inputValue l | tagName l | evaluateOn l ..
  | selectOption l _ => some l
  | _ => none

end BrowserFlow
