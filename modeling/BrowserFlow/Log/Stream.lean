import BrowserFlow.Log.Line
import BrowserFlow.Settings.Configuration
import BrowserFlow.Sink

/-!
# The log stream

The lines that loggers write. The first logger that is set up sets the threshold of the whole
stream, by the level that the configuration names, and attaches the handler that writes; later ones
find that done. A record at or above the threshold becomes a line tagged with the session in force.
-/
namespace BrowserFlow

/-- The records that pass: all of them, or those from a level on. -/
inductive Threshold
  | everything
  | atLeast (level : LogLevel)
deriving DecidableEq, Repr

namespace Threshold

def name : Threshold → String
  | everything => "NOTSET"
  | atLeast level => level.name

def passes : Threshold → LogLevel → Bool
  | everything, _ => true
  | atLeast level, l => level.severity ≤ l.severity

/-- The threshold that is in force when none was set. -/
def default : Threshold := atLeast .info

def names : List (String × Threshold) :=
  [("NOTSET", everything), ("DEBUG", atLeast .debug), ("INFO", atLeast .info),
    ("WARNING", atLeast .warning), ("WARN", atLeast .warning), ("ERROR", atLeast .error),
    ("CRITICAL", atLeast .critical), ("FATAL", atLeast .critical)]

def ofName? (s : String) : Option Threshold := names.lookup s

/-- The patterns that messages are laid out by; a name of theirs is known but names no level. -/
def messagePattern : String := "%(levelname)s:%(name)s:%(message)s"

def patternTable : String :=
  "\x7b'%': (<class 'logging.PercentStyle'>, '%(levelname)s:%(name)s:%(message)s'), " ++
    "'\x7b': (<class 'logging.StrFormatStyle'>, " ++
    "'\x7blevelname\x7d:\x7bname\x7d:\x7bmessage\x7d'), " ++
    "'$': (<class 'logging.StringTemplateStyle'>, " ++
    "'$\x7blevelname\x7d:$\x7bname\x7d:$\x7bmessage\x7d')\x7d"

/-- The threshold that a configured name means. A name that is not known means the default. -/
def configured (name : String) : Except Raised Threshold :=
  if name = "BASIC_FORMAT" then
    .error (.valueError ("Unknown level: " ++ Text.quoted messagePattern))
  else if name = "_STYLES" then
    .error (.typeError ("Level not an integer or a valid string: " ++ patternTable))
  else .ok ((ofName? name).getD default)

end Threshold

structure LogStream where
  configuration : Configuration
  threshold : Threshold
  handlers : Nat
  isSetUp : Bool
  session : Option String
  lines : List String

namespace LogStream

abbrev Writing (α : Type) : Type := Proc LogStream α

/-- A stream that no logger was set up for. -/
def start (configuration : Configuration) (session : Option String) : LogStream :=
  ⟨configuration, .default, 0, false, session, []⟩

def read {α : Type} (p : Configuration.Reading α) : Writing α := fun s =>
  let (outcome, configuration) := p s.configuration
  (outcome, { s with configuration })

def defaultLevel : String := "info"

/-- The name of the level in the section on logging. -/
def levelIn (entries : List (Value × Value)) : Except Raised String :=
  match Configuration.lookup entries "logging" with
  | none => .ok defaultLevel
  | some (.dict logging) =>
    .ok ((Configuration.lookup logging "level").getD (.str defaultLevel)).text
  | some v => .error (.noAttribute v.fullTypeName "get")

/-- The name of the configured level in upper case; if the document cannot be read, only the
environment counts. -/
def configuredLevel : Writing String := do
  match ← Proc.attempt (read Configuration.config) with
  | .ok entries => return Text.upper (← Proc.ofExcept (levelIn entries))
  | .error e =>
    if e.cls = .configuration then
      let vars := (← Proc.read).configuration.environment
      return Text.upper ((vars.get? Configuration.levelVariable).getD defaultLevel)
    else Proc.raise e

/-- The lines that a record leaves: one for each handler, if it passes. -/
def linesFor (s : LogStream) (r : LogRecord) : List String :=
  if s.threshold.passes r.level then (List.replicate s.handlers r).filterMap (·.line?) else []

def write (level : LogLevel) (logger message : String) (extra : Option Value := none) :
    Writing Unit :=
  Proc.update fun s =>
    { s with lines := s.lines ++ s.linesFor ⟨level, logger, message, s.session, extra⟩ }

/-- Sets the stream up, unless that was done before. -/
def setUp : Writing Unit := do
  if (← Proc.read).isSetUp then return ()
  else
    let name ← configuredLevel
    let threshold ← Proc.ofExcept (Threshold.configured name)
    Proc.update fun s => { s with threshold, handlers := s.handlers + 1 }
    write .debug "root" ("Root logger configured with JSON stdout handler. Level: " ++ name)
    Proc.update fun s => { s with isSetUp := true }

/-- A line given to a sink that writes through its own logger. -/
def writeLine (enabled : Bool) (kind : LineKind) (line : String) : Writing Unit :=
  if Sink.writes enabled kind then
    write (Sink.mark kind).1 Sink.loggerName line (some (Sink.markData (Sink.mark kind).2))
  else pure ()

def setSession (session : Option String) : Writing Unit := Proc.update fun s => { s with session }

/-- What a stream that was set up is asked to do: to write a message of a logger or the line of a
sink, or to go over to another session. -/
inductive Request
  | say (logger : String) (level : LogLevel) (message : String) (extra : Option Value)
  | trace (enabled : Bool) (kind : LineKind) (line : String)
  | session (id : Option String)

def perform : Request → Writing Unit
  | .say logger level message extra => write level logger message extra
  | .trace enabled kind line => writeLine enabled kind line
  | .session id => setSession id

def performAll (requests : List Request) : Writing Unit := requests.forM perform

end LogStream

end BrowserFlow
