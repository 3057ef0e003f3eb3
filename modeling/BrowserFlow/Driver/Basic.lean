import BrowserFlow.Driver.Call
import BrowserFlow.Log.Record
import BrowserFlow.Proc
import BrowserFlow.Remote.Command

/-!
# Drivers

A driver answers calls by changing a world of its own. What it sends on its way, commands to a
remote browser and log records, is collected on the rig beside that world.
-/
namespace BrowserFlow

/-- What a driver sends while it answers a call. -/
inductive Signal
  | command (c : Remote.Command)
  | log (level : LogLevel) (logger message : String) (extra : Option Value)
deriving BEq, Repr

structure Rig (σ : Type) where
  world : σ
  sent : List Signal

namespace Rig

variable {σ α : Type}

/-- Works on the world and sends nothing. -/
def onWorld (p : Proc σ α) : Proc (Rig σ) α := fun rig =>
  let (outcome, world) := p rig.world
  (outcome, { rig with world })

def send (signal : Signal) : Proc (Rig σ) Unit :=
  Proc.update fun rig => { rig with sent := rig.sent ++ [signal] }

end Rig

structure Driver (σ : Type) where
  answer : (c : Call) → Proc (Rig σ) c.Reply
  /-- What errors call the driver. -/
  type : String := "Driver"
  /-- What errors call a locator of the driver. -/
  locatorType : String := "Locator"

end BrowserFlow
