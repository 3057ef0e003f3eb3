import BrowserFlow.Action

/-!
# Sinks

Where the lines of a run go. A recorder keeps them all; a logger turns them into log records and can
be told to keep quiet about steps and probes, never about failures; a holder passes steps and probes
on to another sink and holds failures back until its owner decides what becomes of them.
-/
namespace BrowserFlow

inductive Sink
  | recorder
  | logger (enabled : Bool)
  | holder (cell : Nat) (inner : Sink)
deriving DecidableEq, Repr

namespace Sink

/-- The logger that the lines of a run go to. -/
def loggerName : String := "uiflow.trace"

/-- The level of a line, and the word its record is marked with. -/
def mark : LineKind → LogLevel × String
  | .step => (.info, "StepStart")
  | .error => (.error, "StepFailure")
  | .info => (.info, "Probe")

def markData (word : String) : Value := .dict [(.str "event_type", .str word)]

/-- Does a logger write lines of this kind? -/
def writes (enabled : Bool) (kind : LineKind) : Bool := enabled || kind == .error

def write {σ : Type} (kind : LineKind) (line : String) : Sink → Action σ Unit
  | recorder => Action.emit (.line kind line)
  | logger enabled =>
    if writes enabled kind then
      Action.record (mark kind).1 loggerName line (some (markData (mark kind).2))
    else pure ()
  | holder cell inner =>
    if kind = .error then
      Action.change fun m =>
        { m with held := fun c => if c = cell then m.held c ++ [line] else m.held c }
    else inner.write kind line

end Sink

end BrowserFlow
