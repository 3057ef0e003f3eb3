import BrowserFlow.Driver.Basic
import BrowserFlow.Indexing
import BrowserFlow.Rehearsal.Page

/-!
# Driving a rehearsed page directly

The driver that answers calls from a rehearsed page. A locator leads to the matches under the
element of its parent, or in the frame it is confined to, or on the whole page; each use looks them
up again. Waiting takes no time: it attaches what is pending and looks once.
-/
namespace BrowserFlow.Rehearsal

namespace Page

def matchesIn (selector : String) (es : List Element) : List Element :=
  let (strategy, value) := Selector.split selector
  es.filter (Element.isMatch strategy value)

/-- The first frame on the page that matches a selector. -/
def frameFor (page : Page) (selector : String) : Option Element :=
  (matchesIn selector page.root.descendants).find? (·.isFrame)

/-- Where a look-up that is confined to a frame starts. -/
def base (page : Page) (scope : Option Frame) : Option Element :=
  match scope with
  | none => some page.root
  | some frame => page.frameFor frame.selector

/-- The match that an index means. -/
def pick (selector : String) (index : Option Number) (found : List Element) :
    Except Raised Element :=
  atIndex index found fun i => .driver ("'" ++ selector ++ "' has no element at " ++ i.text)

/-- The selector and index of a locator's last look-up. -/
def lastLookup : Locator → String × Option Number
  | .root _ selector index => (selector, index)
  | .child _ selector index => (selector, index)

/-- All matches of a locator, its own index aside. -/
def located (page : Page) : Locator → Except Raised (List Element)
  | .root scope selector _ =>
    .ok (matchesIn selector ((page.base scope).map Element.descendants |>.getD []))
  | .child parent selector _ => do
    let (above, index) := lastLookup parent
    let e ← pick above index (← page.located parent)
    return matchesIn selector e.descendants

def element (l : Locator) : Proc Page Element := do
  let page ← Proc.read
  let (selector, index) := lastLookup l
  Proc.ofExcept ((page.located l).bind (pick selector index))

/-- The element that an operation works on, after the turn of the operation. -/
def operate (l : Locator) (operation : String) : Proc Page Element := do
  let e ← element l
  turnOf e operation
  return e

/-- The next count that the page was told to give. -/
def nextCount : Proc Page (Option Int) := fun page =>
  match page.counts with
  | [] => (.done none, page)
  | n :: later => (.done n, { page with counts := later })

def count (l : Locator) : Proc Page Int := do
  turn "count"
  match ← nextCount with
  | some n => return n
  | none => return (← Proc.ofExcept ((← Proc.read).located l)).length

/-- Keeps the elements that read as visible; each is read once. -/
def visibleOf : List Element → Proc Page (List Element)
  | [] => pure []
  | e :: rest => do
    let seen ← readVisible e
    let later ← visibleOf rest
    return if seen then e :: later else later

def waitFor (l : Locator) (visible : Bool) : Proc Page Unit := do
  Proc.update attach
  turn "wait_for"
  let found ← match (← Proc.read).located l with
    | .ok found => pure found
    | .error e => if e.cls.isDriver then pure [] else Proc.raise e
  let found ← if visible then visibleOf found else pure found
  if found.isEmpty then Proc.raise (.driverTimeout ("'" ++ (lastLookup l).1 ++ "' not present"))
  else return ()

def selectOption (l : Locator) (value : Value) : Proc Page (List Value) := do
  let e ← operate l "select_option"
  if isOption e value then
    setValue e value
    return [value]
  else return []

def frame (selector : Value) : Proc Page Frame := do
  turn "frame"
  let selector ← Proc.ofExcept (Selector.ofValue selector)
  match (← Proc.read).frameFor selector with
  | some _ => return ⟨selector⟩
  | none => Proc.raise (.driver ("iframe '" ++ selector ++ "' not found"))

/-- The session that a page is driven in. -/
def session : Session := ⟨"fake", "s-fake"⟩

def answer : (c : Call) → Proc Page c.Reply
  | .launch .. => do turn "launch"; return session
  | .goto _ url => do turn "goto"; visit url
  | .frame _ selector => frame selector
  | .evaluate .. => do turn "evaluate"; return Value.none
  | .title _ => do turn "title"; return (← Proc.read).title
  | .waitForLoad .. => turn "wait_for_load"
  | .close _ => turn "close"
  | .count l => count l
  | .waitFor l _ visible => waitFor l visible.isTrue
  | .click l _ => do clicked (← operate l "click")
  | .doubleClick l => do let _ ← operate l "dbl_click"; return ()
  | .fill l text => do setValue (← operate l "fill") text
  | .press l _ => do let _ ← operate l "press"; return ()
  | .readAttribute l name => do readAttribute (← operate l "get_attribute") name
  | .text l => do return (← operate l "text").profile.text
  | .inputValue l => do valueOf (← operate l "input_value")
  | .tagName l => do return (← operate l "tag_name").tag
  | .evaluateOn l .. => do let _ ← operate l "evaluate"; return Value.none
  | .selectOption l value => selectOption l value

end Page

/-- Answers calls from a page, and sends nothing to any browser. -/
def pageDriver : Driver Page :=
  ⟨fun c => Rig.onWorld (Page.answer c), "FakeDriver", "FakeLocator"⟩

end BrowserFlow.Rehearsal
