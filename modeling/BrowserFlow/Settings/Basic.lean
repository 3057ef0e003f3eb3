/-!
# Settings

The timeouts, in seconds, and the habits that steps fall back on when the caller does not say
otherwise.
-/
namespace BrowserFlow

/-- When a retry waits before the next attempt: after an attempt that raised, or after any that
missed. -/
inductive BackoffPolicy
  | onException | always
deriving DecidableEq, Repr

namespace BackoffPolicy

def word : BackoffPolicy → String
  | onException => "on_exception"
  | always => "always"

def ofWord? (s : String) : Option BackoffPolicy := [onException, always].find? (·.word = s)

end BackoffPolicy

structure Settings where
  findTimeout : Float := 10.0
  existsTimeout : Float := 1.0
  actionTimeout : Float := 60.0
  loadTimeout : Float := 30.0
  retryBaseDelayMs : Int := 200
  retryBackoff : BackoffPolicy := .onException
  headless : Bool := true
  traceSteps : Bool := true
deriving DecidableEq, Repr

end BrowserFlow
