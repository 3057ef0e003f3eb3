import BrowserFlow.Driver.Basic
import BrowserFlow.Event
import BrowserFlow.Failure.Making
import BrowserFlow.ItemStore
import BrowserFlow.Settings.Basic

/-!
# Actions

An action is a procedure of a running flow. It works on the machine, which holds the driver's world,
the events so far and what contexts share by reference: item stores, held failure lines,
cancellation tokens, the token of the running chain and the session that log records are tagged
with. Its surroundings, which it cannot change, are the driver, the settings as loading them turns
out, and how many rounds a loop without a bound may take.
-/
namespace BrowserFlow

/-- A signal that asks chains to stop. -/
structure Token where
  name : String
deriving DecidableEq, Repr

structure Machine (σ : Type) where
  world : σ
  log : List Event
  stores : Nat → ItemStore
  held : Nat → List String
  cancelled : List (Token × Value)
  active : Option Token
  tag : Option String
  /-- The next reference to give out. -/
  fresh : Nat

/-- A machine that has done nothing yet. -/
def Machine.start {σ : Type} (world : σ) : Machine σ where
  world
  log := []
  stores := fun _ => .empty
  held := fun _ => []
  cancelled := []
  active := none
  tag := none
  fresh := 0

structure Surroundings (σ : Type) where
  driver : Driver σ
  settings : Except Raised Settings
  patience : Nat

def Action (σ α : Type) : Type := Surroundings σ → Proc (Machine σ) α

namespace Action

variable {σ α β : Type}

instance : Monad (Action σ) where
  pure a := fun _ => pure a
  bind p f := fun around => p around >>= fun a => f a around

instance : LawfulMonad (Action σ) :=
  LawfulMonad.mk' (Action σ)
    (fun p => funext fun around => Proc.bind_pure_self (p around))
    (fun _ _ => rfl)
    (fun p f g => funext fun around => Proc.bind_bind (p around) (f · around) (g · around))

/-- Runs a procedure on the machine. -/
def ofProc (p : Proc (Machine σ) α) : Action σ α := fun _ => p

def machine : Action σ (Machine σ) := ofProc Proc.read

def change (f : Machine σ → Machine σ) : Action σ Unit := ofProc (Proc.update f)

def raise (e : Raised) : Action σ α := ofProc (Proc.raise e)

def ofExcept (x : Except Raised α) : Action σ α := ofProc (Proc.ofExcept x)

/-- Hands an error back as a value. -/
def attempt (p : Action σ α) : Action σ (Except Raised α) := fun around => (p around).attempt

/-- Hands an ordinary error back as a value; any other error goes on its way. -/
def rescue (p : Action σ α) : Action σ (Except Raised α) := fun around => do
  match ← (p around).attempt with
  | .ok a => return .ok a
  | .error e => if e.isOrdinary then return .error e else Proc.raise e

/-- Tidies the machine up whichever way the action ends. -/
def ensuring (p : Action σ α) (tidy : Machine σ → Machine σ) : Action σ α :=
  fun around => (p around).ensuring tidy

/-- Goes through at most `n` rounds until one has a result. -/
def rounds (n : Nat) (round : α → Action σ (α ⊕ β)) (a : α) : Action σ β := fun around =>
  Proc.rounds (fun a => round a around) n a

def patience : Action σ Nat := fun around => pure around.patience

def driverType : Action σ String := fun around => pure around.driver.type

def locatorType : Action σ String := fun around => pure around.driver.locatorType

/-- The settings; loading them can fail, and then fails every time. -/
def settings : Action σ Settings := fun around => Proc.ofExcept around.settings

/-- The time given, or else the one in the settings. -/
def timeout (given : Value) (fallback : Settings → Float) : Action σ Value := do
  if given.isNone then return .float (fallback (← settings)) else return given

/-- Runs a routine that is waited for: what ends an iteration cannot leave it as it is. -/
def awaited (p : Action σ α) : Action σ α := do
  match ← p.attempt with
  | .ok a => return a
  | .error e => raise e.leaving

def emit (e : Event) : Action σ Unit := change fun m => { m with log := m.log ++ [e] }

/-- Gives out a reference that no other has. -/
def newReference : Action σ Nat := do
  let m ← machine
  change fun m => { m with fresh := m.fresh + 1 }
  return m.fresh

/-- Writes a log record tagged with the session in force. -/
def record (level : LogLevel) (logger message : String) (extra : Option Value := none) :
    Action σ Unit := do
  let m ← machine
  emit (.log ⟨level, logger, message, m.tag, extra⟩)

/-- What the driver sent, as an event of a run with this session tag. -/
def eventOf (tag : Option String) : Signal → Event
  | .command c => .command c
  | .log level logger message extra => .log ⟨level, logger, message, tag, extra⟩

/-- Puts a call to the driver; the call is an event, whatever comes of it. -/
def call (c : Call) : Action σ c.Reply := awaited fun around m =>
  let (outcome, rig) := around.driver.answer c ⟨m.world, []⟩
  (outcome, { m with world := rig.world, log := m.log ++ .call c :: rig.sent.map (eventOf m.tag) })

def items (store : Nat) : Action σ ItemStore := do return (← machine).stores store

def changeItems (store : Nat) (f : ItemStore → ItemStore) : Action σ Unit :=
  change fun m => { m with stores := fun s => if s = store then f (m.stores s) else m.stores s }

/-- The reason a token was cancelled for, if it was; the reason can be anything. -/
def cancellation (token : Token) : Action σ (Option Value) := do
  return (← machine).cancelled.lookup token

def cancel (token : Token) (reason : Value) : Action σ Unit :=
  change fun m => { m with cancelled := (token, reason) :: m.cancelled }

end Action

end BrowserFlow
