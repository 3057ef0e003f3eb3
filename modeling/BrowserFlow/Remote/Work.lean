import BrowserFlow.Driver.Basic
import BrowserFlow.Numeral
import BrowserFlow.Remote.Command

/-!
# Working a remote browser

A remote browser is whatever answers commands. Work on it sends commands, one at a time, and watches
a clock that only sleeping moves. A wait asks again and again until it has what it waits for or its
time is up. What a remote browser raises leaves the work as an error of the driver.
-/
namespace BrowserFlow.Remote

/-- Answers commands by changing a world of its own. -/
structure Browser (τ : Type) where
  perform : (c : Command) → Proc τ c.Reply

/-- A remote browser's world, with the time in seconds. -/
structure Station (τ : Type) where
  browser : τ
  clock : Float := 0.0

/-- How a remote browser is worked: who answers, how long to pause between two looks, the limit for
loading a page, the name of the session to come, and the number of looks after which a wait without
an end is given up. -/
structure Line (τ : Type) where
  browser : Browser τ
  poll : Number
  pageLoadTimeout : Value := .none
  sessionId : String
  patience : Nat

abbrev Work (τ α : Type) : Type := Proc (Rig (Station τ)) α

namespace Line

variable {τ α : Type} (line : Line τ)

/-- Sends a command; it is sent whatever comes of it. -/
def send (c : Command) : Work τ c.Reply := fun rig =>
  let (outcome, browser) := line.browser.perform c rig.world.browser
  (outcome, { world := { rig.world with browser }, sent := rig.sent ++ [.command c] })

def defaultPoll : Float := 0.5

/-- The pause between two looks; no pause at all would be a busy wait. -/
def pause : Number := if line.poll.isTrue then line.poll else .real defaultPoll

/-- Lets a pause go by. -/
def sleep : Work τ Unit := do
  let length ← Proc.ofExcept (Value.ofNumber line.pause).toFloat
  Proc.update fun rig => { rig with world := { rig.world with clock := rig.world.clock + length } }
  line.send (.sleep line.pause)

/-- Errors that mean that what is waited for is not there yet. -/
def isPassing (ignored : List BrowserErrorClass) (e : Raised) : Bool :=
  match e.cls with
  | .browser kind => kind == .noSuchElement || ignored.contains kind
  | _ => false

/-- One look of a wait that ends at a time. -/
def look (deadline : Float) (ready : Work τ Bool) (ignored : List BrowserErrorClass)
    (message : String) : Unit → Work τ (Unit ⊕ Unit) := fun _ => do
  let seen ← match ← ready.attempt with
    | .ok seen => pure seen
    | .error e => if isPassing ignored e then pure false else Proc.raise e
  if seen then return .inr ()
  else if (← Proc.read).world.clock > deadline then Proc.raise (.browser .timeout message)
  else
    line.sleep
    return .inl ()

/-- How many looks a wait may take: more than its time has room for. -/
def looks (timeout poll : Float) : Nat :=
  let turns := timeout / poll
  if turns < 0 then 2
  else if turns < 1000000000.0 then 2 * turns.toUInt64.toNat + 16
  else line.patience

/-- Looks until something is ready. -/
def waitUntil (timeout : Value) (ready : Work τ Bool) (message : String)
    (ignored : List BrowserErrorClass := []) : Work τ Unit := do
  let length ← Proc.ofExcept timeout.toFloat
  let poll ← Proc.ofExcept (Value.ofNumber line.pause).toFloat
  let deadline := (← Proc.read).world.clock + length
  Proc.rounds (line.look deadline ready ignored message) (line.looks length poll) ()

/-- The message of a remote browser's error, unless it is missing or empty. -/
def messageOf (kind : BrowserErrorClass) (args : List Value) : Option String :=
  if kind.isExplained then Raised.browserMessage? kind args
  else
    match args with
    | given :: _ => if given.isTrue then some given.text else none
    | [] => none

/-- The error of the driver that an error of a remote browser becomes; other errors stay as they
are. -/
def asDriverError (e : Raised) : Raised :=
  match e.cls with
  | .browser .timeout =>
    .driverTimeout ((messageOf .timeout e.args).getD "Timed out waiting for the browser")
  | .browser kind => .driver ("Selenium error: " ++ (messageOf kind e.args).getD kind.name)
  | _ => e

/-- Work whose errors leave as errors of the driver. -/
def guarded (p : Work τ α) : Work τ α := do
  match ← p.attempt with
  | .ok a => return a
  | .error e => Proc.raise (asDriverError e)

end Line

end BrowserFlow.Remote
