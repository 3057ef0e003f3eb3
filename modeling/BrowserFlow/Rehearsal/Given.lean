import BrowserFlow.Chain
import BrowserFlow.Rehearsal.Request
import BrowserFlow.Steps.Assert

/-!
# Arguments by name

What a step of a plan is given: values, scripted callbacks and other steps, each under a name. What
a scripted callback works on and gives back is a subject, of whatever sort; each step takes from it
what it needs.
-/
namespace BrowserFlow.Rehearsal

/-- What a scripted callback is given, and what it gives back. -/
inductive Subject
  | context (c : Context)
  | locator (l : Locator)
  | locators (ls : List Locator)
  | value (v : Value)

namespace Subject

def toValue : Subject → Value
  | context c => .other "Context" c.describe
  | locator l => .locator l.path
  | locators ls => .tuple (ls.map fun l => .locator l.path)
  | value v => v

def isTrue (s : Subject) : Bool := s.toValue.isTrue

def toAnswer : Subject → Answer
  | context c => .context c
  | s => .value s.toValue

def ofFocus : Focus → Subject
  | .element l => locator l
  | .value v => value v

/-- What a callback picks, unless that is nothing. -/
def toPicked : Subject → Option Focus
  | locator l => some (.element l)
  | s => if s.toValue.isNone then none else some (.value s.toValue)

/-- What errors call the type of a subject. -/
def typeName {σ : Type} : Subject → Action σ String
  | locator _ => Action.locatorType
  | context _ => pure "Context"
  | s => pure s.toValue.fullTypeName

end Subject

/-- A scripted callback. -/
abbrev Actor (σ : Type) : Type := Callback σ Subject Subject

namespace Actor

variable {σ α β : Type}

/-- An actor in a part: what it is given, and what is taken from what it gives back. -/
def playing (enter : α → Subject) (leave : Subject → β) (actor : Actor σ) :
    Callback σ α β :=
  { actor with body := fun k a => do return leave (← actor.body k (enter a)) }

def asBody : Actor σ → Callback σ Context Answer := playing .context Subject.toAnswer

def asPredicate : Actor σ → Callback σ Context Bool := playing .context Subject.isTrue

def asOperation : Actor σ → Callback σ Unit Bool :=
  playing (fun _ => .value .none) Subject.isTrue

def asValue : Actor σ → Callback σ Context Value := playing .context Subject.toValue

def asPick : Actor σ → Callback σ (List Locator) (Option Focus) :=
  playing .locators Subject.toPicked

def asElementAction : Actor σ → Callback σ Focus Subject := playing .ofFocus id

end Actor

/-- An argument that is ready for use. -/
inductive Given (σ : Type)
  | value (v : Value)
  | actor (a : Actor σ)
  | step (s : StepSource σ)

namespace Given

variable {σ : Type}

def shown : Given σ → Value
  | value v => v
  | actor a => a.shown
  | step _ => .none

end Given

/-- The arguments of a step by their names. -/
structure Arguments (σ : Type) where
  entries : List (String × Given σ)

namespace Arguments

variable {σ : Type} (args : Arguments σ)

def get? (name : String) : Option (Given σ) := args.entries.lookup name

def value (name : String) (default : Value := .none) : Value :=
  ((args.get? name).map Given.shown).getD default

/-- A text, or nothing where nothing is given. -/
def text? (name : String) : Option String :=
  let v := args.value name
  if v.isNone then none else some v.text

/-- A callback that may be missing; a value in its place is taken as it is. -/
def actor? (name : String) : Option (Actor σ) :=
  match args.get? name with
  | some (.actor a) => some a
  | some (.value v) => if v.isNone then none else some (.ofValue v (.value .none))
  | _ => none

/-- A step that may be missing; what is no step is refused. -/
def step? (name : String) : Except Raised (Option (Step σ)) :=
  match args.get? name with
  | none | some (.value .none) | some (.step (.value .none)) => .ok none
  | some (.step s) => s.toStep.map some
  | some (.value v) => (StepSource.value v).toStep.map some
  | some (.actor a) => .ok (some (.ofCallback a.asBody))

/-- A step that is needed. -/
def step (name : String) : Except Raised (Step σ) := do
  match ← args.step? name with
  | some s => return s
  | none => StepSource.toStep (.value .none)

def list (name : String) : List Value :=
  match args.value name with
  | .list items | .tuple items => items
  | _ => []

/-- A text is a message; anything else is called for one. -/
def message (name : String) : Message σ :=
  match args.get? name with
  | some (.value (.str s)) => .fixed s
  | some (.actor a) => .computed a.asValue
  | _ => .computed (.ofValue (args.value name) .none)

/-- A callable is called for a problem; anything else is one. -/
def problem (name : String) : Problem σ :=
  match args.get? name with
  | some (.actor a) => .computed a.asValue
  | _ =>
    let v := args.value name
    if v.isCallable then .computed (.ofValue v .none) else .fixed v

end Arguments

end BrowserFlow.Rehearsal
