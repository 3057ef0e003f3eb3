import BrowserFlow.Remote.Work
import BrowserFlow.Session.Brand

/-!
# Starting a remote browser

Which program runs for a brand, and with which options. The one program that cannot run without a
window is started with one all the same, with a warning.
-/
namespace BrowserFlow.Remote

namespace Line

variable {τ : Type} (line : Line τ)

def loggerName : String := "uiflow.executors.selenium_exec"

def log (level : LogLevel) (message : String) (extra : Option Value := none) : Work τ Unit :=
  Rig.send (.log level loggerName message extra)

/-- A program with its options, which one program does not take. -/
structure Program where
  name : String
  options : Option (List String)
  acceptInsecure : Option Bool
deriving DecidableEq, Repr

def programFor (brand : Brand) (headless : Bool) : Program :=
  let when := fun option => if headless then [option] else []
  match brand with
  | .chromium | .chrome =>
    ⟨"Chrome", some (when "--headless=new" ++ ["--no-sandbox", "--disable-dev-shm-usage"]),
      some true⟩
  | .edge => ⟨"Edge", some (when "--headless=new"), some true⟩
  | .firefox => ⟨"Firefox", some (when "-headless"), some true⟩
  | .webkit => ⟨"Safari", none, none⟩

/-- What goes wrong in the browser while it starts is an error of the session. -/
def startError (brand : String) (e : Raised) : Raised :=
  match e.cls with
  | .browser kind =>
    .session ("Failed to start " ++ brand ++ " driver: " ++ (messageOf kind e.args).getD e.text)
  | _ => e

/-- The brand that a word names; only a text can. -/
def brandOf (word : Value) : Except Raised Brand :=
  match word with
  | .str s => ((Brand.ofWord? s).map Except.ok).getD (.error (Brand.unsupported word.quoted))
  | word => .error (Brand.unsupported word.quoted)

/-- Starts a browser by the word for its brand. -/
def start (word : Value) (headless : Bool) : Work τ Unit := do
  let brand ← Proc.ofExcept (brandOf word)
  if brand = .webkit ∧ headless then
    log .warning "Safari has no headless mode; starting a visible window"
  let program := programFor brand headless
  match ← (line.send (.start program.name program.options program.acceptInsecure)).attempt with
  | .ok _ => return ()
  | .error e => Proc.raise (startError word.text e)

/-- Starts a browser and limits the time for loading a page, if there is a limit. -/
def launch (word headless : Value) : Work τ Session := do
  line.start word headless.isTrue
  if line.pageLoadTimeout.isTrue then line.send (.setPageLoadTimeout line.pageLoadTimeout)
  log .debug ("Started " ++ word.text ++ " webdriver") (some (.dict [(.str "headless", headless)]))
  return ⟨word.text, line.sessionId⟩

end Line

end BrowserFlow.Remote
