import BrowserFlow.Value

/-!
# Log records

What a logger hands on: a level, the name of the logger, a message, the browser session in force,
and extra data if the caller gave any.
-/
namespace BrowserFlow

inductive LogLevel
  | debug | info | warning | error | critical
deriving DecidableEq, Repr

namespace LogLevel

def name : LogLevel → String
  | debug => "DEBUG"
  | info => "INFO"
  | warning => "WARNING"
  | error => "ERROR"
  | critical => "CRITICAL"

/-- How severe a level is; thresholds are compared with it. -/
def severity : LogLevel → Nat
  | debug => 10
  | info => 20
  | warning => 30
  | error => 40
  | critical => 50

end LogLevel

structure LogRecord where
  level : LogLevel
  logger : String
  message : String
  session : Option String
  extra : Option Value
deriving BEq, Repr

end BrowserFlow
