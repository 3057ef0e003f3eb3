import BrowserFlow.Context
import BrowserFlow.Session.Brand
import BrowserFlow.Session.StartUrl

/-!
# The lifetime of a session

Starting a browser, opening the first page and handing out the first context; closing the browser.
There is no context to carry a failure before the first one is handed out, so errors are raised
here. Log records are tagged with the session from the moment the browser runs until it is closed.
-/
namespace BrowserFlow.Session

variable {σ α : Type}

def loggerName : String := "uiflow.session"

def setTag (tag : Option String) : Action σ Unit := Action.change fun m => { m with tag }

/-- Launches the browser; an error that is not one of sessions becomes one. -/
def launch (brand : Brand) (headless : Value) : Action σ Session := do
  match ← Action.rescue (Action.call (.launch (.str brand.word) headless)) with
  | .ok session => return session
  | .error e =>
    if e.cls.isSession then Action.raise e
    else
      Action.raise
        (.session ("Failed to launch " ++ brand.word ++ ": " ++ (← Action.ofExcept e.readText)))

/-- Opens the first page. If that fails the browser is closed; an error of the driver in closing it
is only logged. -/
def openPage (session : Session) (url : String) : Action σ Unit := do
  match ← Action.rescue (Action.call (.goto session (.str url))) with
  | .ok _ => pure ()
  | .error e =>
    match ← Action.attempt (Action.call (.close session)) with
    | .ok _ => pure ()
    | .error second =>
      if second.cls.isDriver then
        Action.record .warning loggerName
          ("Closing browser after failed navigation: " ++ (← Action.ofExcept second.readText))
      else Action.raise second
    Action.raise (.session ("Failed to open " ++ url ++ ": " ++ (← Action.ofExcept e.readText)))

/-- The sink of a session that is given none: a logger, which the settings can keep quiet about
steps. -/
def defaultSink : Action σ Sink := do return .logger (← Action.settings).traceSteps

def chooseSink : Option Sink → Action σ Sink
  | some sink => pure sink
  | none => defaultSink

/-- Starts a browser, opens a page and hands out the first context. -/
def create (brand url : Value) (headless : Value := .none) (sink : Option Sink := none) :
    Action σ Context := do
  let brand ← Action.ofExcept (Brand.read brand)
  let url ← Action.ofExcept (StartUrl.read url)
  let headless ←
    if headless.isNone then do pure (Value.bool (← Action.settings).headless) else pure headless
  Action.record .info loggerName ("Starting " ++ brand.word ++ " session at " ++ url)
    (some (.dict [(.str "headless", headless)]))
  let session ← launch brand headless
  setTag (some session.id)
  openPage session url
  let items ← Action.newReference
  Action.changeItems items fun _ => .empty
  return { session, items, sink := ← chooseSink sink }

/-- Closes the browser behind a context; the tag is dropped even if that fails. -/
def close (c : Context) : Action σ Unit := do
  match ← Action.ensuring (Action.attempt (Action.call (.close c.session)))
      fun m => { m with tag := none } with
  | .ok _ => Action.record .info loggerName ("Closed session " ++ c.session.id)
  | .error e =>
    if e.cls.isDriver then
      Action.raise (.session
        ("Failed to close session " ++ c.session.id ++ ": " ++ (← Action.ofExcept e.readText)))
    else Action.raise e

/-- Runs a body on the first context of a session and closes the session whichever way the body
ends; an error in closing takes the place of an error of the body. -/
def within (brand url : Value) (headless : Value) (sink : Option Sink)
    (body : Context → Action σ α) : Action σ α := do
  let c ← create brand url headless sink
  let result ← Action.attempt (body c)
  close c
  Action.ofExcept result

end BrowserFlow.Session
