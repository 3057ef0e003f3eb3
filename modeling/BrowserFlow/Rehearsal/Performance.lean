import BrowserFlow.Rehearsal.Handling

/-!
# Performing plans

From plans to steps, and what scripted callbacks do. Building a plan makes a new callback of each
script in it, with a reference of its own, so a chain that a script runs is built anew each time.
Scripts keep their items in the store that they are built for.
-/
namespace BrowserFlow.Rehearsal

/-- How a script stands after an instruction: it goes on with a subject, or it has given something
back. -/
inductive Progress
  | on (s : Subject)
  | given (s : Subject)

def located (c : Context) (selector : String) : Option Number → Locator
  | some i => (c.locate selector).nth i
  | none => c.locate selector

variable {σ : Type}

mutual

/-- A callback that does what a script says. -/
def Script.toActor (store : Nat) : Script → Action σ (Actor σ)
  | .script name shown isAwaited calls => do
    let id ← Action.newReference
    let body := fun k given => performTurn store given calls k
    return ⟨some (id, name), shown,
      fun k given => if isAwaited then (body k given).awaited else body k given⟩

/-- Performs the instructions of one invocation. -/
def performTurn (store : Nat) (given : Subject) :
    List (List Instruction) → Nat → Action σ Subject
  | [], _ => pure given
  | [call], _ => performAll store given call given
  | call :: _ :: _, 0 => performAll store given call given
  | _ :: rest, k + 1 => performTurn store given rest k

def performAll (store : Nat) (given : Subject) : List Instruction → Subject → Action σ Subject
  | [], s => pure s
  | i :: rest, s => do
    match ← i.perform store given s with
    | .on s => performAll store given rest s
    | .given v => return v

/-- Performs one instruction of a callback that was given one subject and has come to another. -/
def Instruction.perform (store : Nat) (given s : Subject) : Instruction → Action σ Progress
  | .give v => return .given (.value v)
  | .raise e => Action.raise e
  | .setItem key value => do
    Items.write store key value
    return .on s
  | .add key n => do
    let number ← Action.ofExcept (Value.toWhole (← Items.read store key (some (.str "0"))))
    Items.write store key (.str (← Action.ofExcept (Items.sum number n)))
    return .on s
  | .giveItem key default => do return .given (.value (← Items.read store key default))
  | .giveBelow key bound => do
    let number ← Action.ofExcept (Value.toWhole (← Items.read store key))
    return .given (.value (.bool (← Action.ofExcept ((Value.int number).relate .below bound))))
  | .giveEqual key value => do
    return .given (.value (.bool ((← Items.read store key).equals value)))
  | .fail payload step => do
    return .on (.context (← (← s.needContext "with_failure").withFailure payload step))
  | .failWith kind message step => do
    return .on (.context (← (← s.needContext "fail").failUnchecked kind message step))
  | .focus selector index => do
    let c ← s.needContext "locate"
    return .on (.context (c.withFocus (located c selector index)))
  | .collect selector indexes => do
    let c ← s.needContext "locate"
    return .on (.context (c.withCollection (indexes.map (c.locate selector).nth)))
  | .clearFocus => do
    return .on (.context (← s.needContext "without_focus_or_collection").withoutFocusOrCollection)
  | .leaveScope => do return .on (.context (← s.needContext "without_scope").withoutScope)
  | .cancel token reason => do
    Action.cancel token reason
    return .on s
  | .giveHas part => do return .given (.value (.bool (part.isIn (← s.needContext part.name))))
  | .pick index => do return .given (← given.pick index)
  | .giveExists strategy selector timeout => do
    return .given (.value (.bool (← s.probe strategy selector timeout)))
  | .run steps token => do
    let sources ← buildAll store steps
    let chain ← Action.ofExcept (StepSource.toChain sources)
    return .on (← s.runChain chain token)
  | .read what => do
    Action.emit (.got (← s.read what))
    return .on s
  | .ask method args => do
    Action.emit (.got (← given.ask method args))
    return .on s
  | .note text => do
    Action.emit (.note text)
    return .on s

/-- Builds what stands in the place of a step. -/
def Plan.build (store : Nat) : Plan → Action σ (StepSource σ)
  | .bare v => pure (.value v)
  | .callback body => do return .callback (← body.toActor store).asBody
  | .step maker body name args => do
    let args ← buildArguments store args
    Action.ofExcept (maker.check (args.map (·.1)))
    let shown := args.map fun (name, given) => (name, given.shown)
    match body with
    | .inl script => return .step (.ofCallback (← script.toActor store).asBody name shown)
    | .inr v => return .step (← Action.ofExcept (Step.around v name shown))
  | .chain steps => do
    let sources ← buildAll store steps
    return .chain (← Action.ofExcept (StepSource.toChain sources))
  | .chainStep steps name => do
    let sources ← buildAll store steps
    let chain ← Action.ofExcept (StepSource.toChain sources)
    return .step (chain.asStep name)
  | .call function args => do
    let args ← buildArguments store args
    return .step (← Action.ofExcept (stepNamed function ⟨args⟩))

def buildAll (store : Nat) : List Plan → Action σ (List (StepSource σ))
  | [] => pure []
  | p :: rest => do
    let source ← p.build store
    return source :: (← buildAll store rest)

def buildArguments (store : Nat) :
    List (String × Argument) → Action σ (List (String × Given σ))
  | [] => pure []
  | (name, a) :: rest => do
    let given ← a.build store
    return (name, given) :: (← buildArguments store rest)

def Argument.build (store : Nat) : Argument → Action σ (Given σ)
  | .value v => pure (.value v)
  | .script s => do return .actor (← s.toActor store)
  | .plan p => do return .step (← p.build store)

end

end BrowserFlow.Rehearsal
