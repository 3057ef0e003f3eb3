import BrowserFlow.Driver.Call
import BrowserFlow.Log.Record
import BrowserFlow.Remote.Command

/-!
# Events

Everything that a run does to the world outside its own state, in the order in which it happens:
calls on the driver, commands to a remote browser, lines given to a sink, log records, delays, and
the invocations of callbacks with what they leave behind.
-/
namespace BrowserFlow

/-- What a line given to a sink tells of: a step about to run, a failure, or the result of a
probe. -/
inductive LineKind
  | step | error | info
deriving DecidableEq, Repr

inductive Event
  | call (c : Call)
  | command (c : Remote.Command)
  | line (kind : LineKind) (text : String)
  | log (record : LogRecord)
  | pause (duration : Float)
  | invoked (callback : Nat) (name : String)
  | note (text : String)
  | got (value : Value)
  | entered
deriving BEq, Repr

namespace Event

/-- The lines of one kind among events. -/
def linesOf (kind : LineKind) (events : List Event) : List String :=
  events.filterMap fun
    | line k text => if k = kind then some text else none
    | _ => none

/-- The calls among events. -/
def calls (events : List Event) : List Call :=
  events.filterMap fun
    | call c => some c
    | _ => none

/-- How often a callback was invoked among events. -/
def invocations (callback : Nat) (events : List Event) : Nat :=
  events.countP fun
    | invoked id _ => id == callback
    | _ => false

end Event

end BrowserFlow
