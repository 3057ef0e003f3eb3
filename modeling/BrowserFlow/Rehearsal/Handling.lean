import BrowserFlow.Rehearsal.Catalog
import BrowserFlow.Rehearsal.Plan
import BrowserFlow.Value.Part

/-!
# Handling subjects

What instructions do with a subject and with the items of a store. Most instructions work on a
context; a subject that is none lacks what they ask of it, and the error names what that is.
-/
namespace BrowserFlow.Rehearsal

namespace Subject

variable {σ : Type}

/-- The context that an instruction works on; what is no context lacks the member that the
instruction needs. -/
def needContext (member : String) : Subject → Action σ Context
  | context c => pure c
  | s => do Action.raise (.noAttribute (← s.typeName) member)

/-- What is at a place of a subject. -/
def pick (index : Value) : Subject → Action σ Subject
  | locators ls => do return locator (← Action.ofExcept (Sequence.tuple.pick ls index))
  | value v => do return value (← Action.ofExcept (v.part index))
  | s => do Action.raise (.typeError ("'" ++ (← s.typeName) ++ "' object is not subscriptable"))

end Subject

namespace Items

variable {σ : Type}

/-- Reads an item of a store, which has to be there unless there is a default. -/
def read (store : Nat) (key : Value) (default : Option Value := none) : Action σ Value := do
  Action.ofExcept (ItemStore.checkKey key)
  let items ← Action.items store
  match default with
  | some v => return items.getD key v
  | none => Action.ofExcept (items.get key)

def write (store : Nat) (key value : Value) : Action σ Unit := do
  let kept ← Action.ofExcept ((← Action.items store).put key value)
  Action.changeItems store fun _ => kept

/-- A whole number and a number added up, as it is written. -/
def sum (n : Int) (addend : Value) : Except Raised String :=
  match addend.number? with
  | some (.real x) => do return (Number.real ((← floatOfInt n) + x)).text
  | some m => Numeral.write (n + (m.whole?).getD 0)
  | none => .error (.typeError
      ("unsupported operand type(s) for +: 'int' and '" ++ addend.fullTypeName ++ "'"))

end Items

namespace Part

def name : Part → String
  | focus => "has_focus"
  | collection => "has_collection"
  | failure => "has_failure"

def isIn (c : Context) : Part → Bool
  | focus => c.hasFocus
  | collection => c.hasCollection
  | failure => c.hasFailure

end Part

namespace Reading

def name : Reading → String
  | text => "text"
  | value => "value"
  | title => "title"

def through {σ : Type} (c : Context) : Reading → Action σ Value
  | text => c.text
  | value => c.value
  | title => do return .str (← c.title)

end Reading

namespace Subject

variable {σ : Type}

/-- What a subject reads as; a locator has a text and no more. -/
def read (what : Reading) : Subject → Action σ Value
  | context c => what.through c
  | locator l => if what = .text then Request.ofLocator l what.name [] else do
      Action.raise (.noAttribute (← Action.locatorType) what.name)
  | s => do Action.raise (.noAttribute (← s.typeName) what.name)

/-- Asks a subject by the name of a method. -/
def ask (method : String) (args : List Value) : Subject → Action σ Value
  | locator l => Request.ofLocator l method args
  | context c => do
    Action.ofExcept (Request.checkArguments Request.contextMethods "Context" method 1 args)
    match method with
    | "text" => c.text
    | "value" => c.value
    | "title" => return .str (← c.title)
    | method => Action.raise (.noAttribute "Context" method)
  | s => do Action.raise (.noAttribute (← s.typeName) method)

/-- Probes from a subject. On anything but a context the probe itself goes wrong, and finds no sink
to tell. -/
def probe (strategy : Strategy) (selector : String) (timeout : Value) : Subject → Action σ Bool
  | context c =>
    match strategy with
    | .style => c.exists selector timeout
    | .path => c.existsPath selector timeout
  | s => do
    let label := match strategy with
      | .style => "exists"
      | .path => "exists_xpath"
    let _ ← Action.timeout timeout Settings.existsTimeout
    let type ← s.typeName
    let e := Raised.noAttribute type "locate"
    Action.record .warning Probe.loggerName (← Action.ofExcept (Probe.trouble label selector e))
    Action.raise (.noAttribute type "trace")

/-- Runs a chain on a subject, which a chain without steps leaves as it is. -/
def runChain (chain : Chain σ) (token : Option Token) : Subject → Action σ Subject
  | context c => do return context (← chain.run c token)
  | value .none => Action.raise Chain.noContext
  | s =>
    if chain.steps.isEmpty then pure s
    else do Action.raise (.noAttribute (← s.typeName) Part.failure.name)

end Subject

end BrowserFlow.Rehearsal
