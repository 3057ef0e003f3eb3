import BrowserFlow.Action

/-!
# Plans

Flows written down as data. A plan says which step to build; a script says what a callback does at
each of its invocations, one instruction after the other. The last list of instructions of a script
serves all later invocations.
-/
namespace BrowserFlow.Rehearsal

/-- What can be asked of a context. -/
inductive Part
  | focus | collection | failure
deriving DecidableEq, Repr

/-- What can be read through a context. -/
inductive Reading
  | text | value | title
deriving DecidableEq, Repr

/-- The two ways to make a step of a body, a name and arguments by name. -/
inductive StepMaker
  | direct | decorated
deriving DecidableEq, Repr

namespace StepMaker

/-- The names that arguments cannot have, since the maker has them itself. -/
def ownNames : StepMaker → List String
  | direct => ["cls", "fn", "name"]
  | decorated => ["name"]

def name : StepMaker → String
  | direct => "Step.of"
  | decorated => "define_step"

/-- Refuses an argument under a name of the maker's own. -/
def check (maker : StepMaker) (names : List String) : Except Raised Unit :=
  match names.find? fun name => maker.ownNames.contains name with
  | some name =>
    .error (.typeError (maker.name ++ "() got multiple values for argument '" ++ name ++ "'"))
  | none => .ok ()

end StepMaker

mutual

inductive Script
  /-- A callback, which may have to be waited for. -/
  | script (name : String) (shown : Value) (isAwaited : Bool) (calls : List (List Instruction))

inductive Instruction
  | give (v : Value)
  | raise (e : Raised)
  | setItem (key value : Value)
  /-- Adds to the number kept under a key. -/
  | add (key n : Value)
  | giveItem (key : Value) (default : Option Value)
  | giveBelow (key bound : Value)
  | giveEqual (key value : Value)
  | fail (payload step : Value)
  | failWith (kind message step : Value)
  | focus (selector : String) (index : Option Number)
  | collect (selector : String) (indexes : List Number)
  | clearFocus
  | leaveScope
  | cancel (token : Token) (reason : Value)
  | giveHas (part : Part)
  | pick (index : Value)
  | giveExists (strategy : Strategy) (selector : String) (timeout : Value)
  | run (steps : List Plan) (token : Option Token)
  | read (what : Reading)
  /-- Asks what the callback was given. -/
  | ask (method : String) (args : List Value)
  | note (text : String)

inductive Plan
  /-- A value where a step is wanted. -/
  | bare (v : Value)
  | callback (body : Script)
  /-- A step around a script, or around a value in its place. -/
  | step (maker : StepMaker) (body : Script ⊕ Value) (name : Option String)
    (args : List (String × Argument))
  | chain (steps : List Plan)
  | chainStep (steps : List Plan) (name : Option String)
  /-- A step of the library, by its name. -/
  | call (function : String) (args : List (String × Argument))

inductive Argument
  | value (v : Value)
  | script (s : Script)
  | plan (p : Plan)

end

instance : Inhabited Script := ⟨.script "" .none false []⟩

instance : Inhabited Instruction := ⟨.give .none⟩

instance : Inhabited Plan := ⟨.bare .none⟩

instance : Inhabited Argument := ⟨.value .none⟩

end BrowserFlow.Rehearsal
