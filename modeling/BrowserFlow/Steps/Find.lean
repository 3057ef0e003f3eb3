import BrowserFlow.Chain
import BrowserFlow.Text.Search

/-!
# Finding elements

A finder waits until a match is attached, counts the matches, and then focuses one of them or
collects them all. No match is a failure, never an empty success. An index counts from the front, a
negative one from the end; an index with no match fails and names the range that has one. Global
finders look in the frame of the context, relative finders under the element in focus.
-/
namespace BrowserFlow

/-- Is a value part of a text? Only a text can be. -/
def Value.isPartOf (wanted : Value) (s : String) : Except Raised Bool :=
  match wanted with
  | .str needle => .ok (Text.contains s needle)
  | v => .error (.typeError ("'in <string>' requires string as left operand, not " ++ v.typeName))

/-- What a finder looks for, and the name it goes by in messages. The selector is shown as the
caller gave it. -/
structure Query where
  label : String
  shown : Value
  strategy : Strategy
  timeout : Value

namespace Query

variable {σ : Type}

def notFound (label shown : String) : Raised :=
  .resolution (label ++ ": '" ++ shown ++ "' not found")

def outOfRange (label : String) (index : Number) (count : Int) : Raised :=
  .resolution
    (label ++ ": index " ++ index.text ++ " out of range (0.." ++ toString (count - 1) ++ ")")

/-- The error of a step that needs an element in focus and has none. -/
def missingFocus (label : String) : Raised := .usage (label ++ ": missing context element")

/-- The place among `count` matches that an index means; a place that needs no counting keeps the
form of the index. -/
def resolveIndex (index : Number) (count : Int) (label : String) : Except Raised Number :=
  let place := if index.relate .below (.whole 0) then index.plus count else index
  if place.relate .below (.whole 0) || place.relate .atLeast (.whole count) then
    .error (outOfRange label index count)
  else .ok place

/-- An index has to be a number, since it is compared with one. -/
def readIndex (index : Value) : Except Raised Number :=
  match index.number? with
  | some n => .ok n
  | none => .error (Value.incomparable .below index (.int 0))

/-- Only a text that is not blank selects anything. -/
def requireSelector (selector : Value) (label : String) : Except Raised String :=
  let refused : Except Raised String :=
    .error (.usage (label ++ ": selector is required, got " ++ selector.quoted))
  match selector with
  | .str s => if s.toList.all Text.isBlank then refused else .ok s
  | _ => refused

/-- The selector in the form that locators take. -/
def selector (q : Query) : String :=
  match q.strategy with
  | .style => q.shown.text
  | .path => Selector.ofPath q.shown.text

/-- Waits for a first match and counts the matches, of which there is at least one. -/
def countAfterWait (q : Query) (l : Locator) : Action σ Int := do
  let timeout ← Action.timeout q.timeout Settings.findTimeout
  match ← Action.attempt (Action.call (.waitFor l timeout (.bool false))) with
  | .ok _ =>
    let count ← Action.call (.count l)
    if count ≤ 0 then Action.raise (notFound q.label q.shown.text) else return count
  | .error e => Action.raise (if e.cls = .driverTimeout then notFound q.label q.shown.text else e)

def one (q : Query) (index : Value) (l : Locator) : Action σ Locator := do
  let count ← q.countAfterWait l
  return l.nth (← Action.ofExcept do resolveIndex (← readIndex index) count q.label)

def all (q : Query) (l : Locator) : Action σ (List Locator) := do
  let count ← q.countAfterWait l
  return (List.range count.toNat).map fun i => l.nth (.whole (Int.ofNat i))

/-- Where a global finder looks. -/
def inScope (q : Query) (c : Context) : Action σ Locator := do
  let _ ← Action.ofExcept (requireSelector q.shown q.label)
  return c.locate q.selector

/-- Where a relative finder looks. -/
def underFocus (q : Query) (c : Context) : Action σ Locator := do
  let _ ← Action.ofExcept (requireSelector q.shown q.label)
  match c.focus with
  | some focus => return (← Action.ofExcept (focus.through "locator")).under q.selector
  | none => Action.raise (missingFocus q.label)

/-- The step that focuses one match. -/
def focusing (q : Query) (index : Value) (place : Query → Context → Action σ Locator) :
    Step σ :=
  .ofBody q.label [("selector", q.shown), ("index", index)] fun c => do
    return c.withFocus (← q.one index (← place q c))

/-- The step that collects every match. -/
def collecting (q : Query) (place : Query → Context → Action σ Locator) : Step σ :=
  .ofBody q.label [("selector", q.shown)] fun c => do
    return c.withCollection (← q.all (← place q c))

end Query

namespace Step

variable {σ : Type}

def find (selector : Value) (index : Value := .int 0) (timeout : Value := .none) : Step σ :=
  Query.focusing ⟨"find", selector, .style, timeout⟩ index Query.inScope

def findLast (selector : Value) (timeout : Value := .none) : Step σ :=
  Query.focusing ⟨"find_last", selector, .style, timeout⟩ (.int (-1)) Query.inScope

def findAll (selector : Value) (timeout : Value := .none) : Step σ :=
  Query.collecting ⟨"find_all", selector, .style, timeout⟩ Query.inScope

def findPath (path : Value) (index : Value := .int 0) (timeout : Value := .none) : Step σ :=
  Query.focusing ⟨"find_xpath", path, .path, timeout⟩ index Query.inScope

def findAllPath (path : Value) (timeout : Value := .none) : Step σ :=
  Query.collecting ⟨"find_all_xpath", path, .path, timeout⟩ Query.inScope

def findUnder (selector : Value) (index : Value := .int 0) (timeout : Value := .none) : Step σ :=
  Query.focusing ⟨"relative_find", selector, .style, timeout⟩ index Query.underFocus

def findAllUnder (selector : Value) (timeout : Value := .none) : Step σ :=
  Query.collecting ⟨"relative_find_all", selector, .style, timeout⟩ Query.underFocus

def findPathUnder (path : Value) (index : Value := .int 0) (timeout : Value := .none) : Step σ :=
  Query.focusing ⟨"relative_find_xpath", path, .path, timeout⟩ index Query.underFocus

def findAllPathUnder (path : Value) (timeout : Value := .none) : Step σ :=
  Query.collecting ⟨"relative_find_all_xpath", path, .path, timeout⟩ Query.underFocus

end Step

end BrowserFlow
