import BrowserFlow.Remote.Keys
import BrowserFlow.Remote.Lookup
import BrowserFlow.Remote.Start

/-!
# Driving a remote browser

The driver that answers calls by commands to a remote browser.
-/
namespace BrowserFlow.Remote

namespace Line

variable {τ : Type} (line : Line τ)

def waitFor (l : Locator) (timeout : Value) (visible : Bool) : Work τ Unit :=
  line.waitUntil timeout (line.present l visible)
    ("'" ++ l.path ++ "' not present after " ++ timeout.text ++ "s") [.staleElement]

def isClickable (el : ElementRef) : Work τ Bool := do
  if ← line.send (.isDisplayed el) then line.send (.isEnabled el) else return false

/-- Waits until an element can be clicked, if a time is given for that, and clicks it. -/
def click (l : Locator) (timeout : Value) : Work τ Unit := do
  let el ← line.element l
  if timeout.isTrue then
    line.waitUntil timeout (line.isClickable el)
      ("'" ++ l.path ++ "' not clickable after " ++ timeout.text ++ "s")
  line.send (.click el)

def fill (l : Locator) (text : Value) : Work τ Unit := do
  let el ← line.element l
  line.send (.clear el)
  line.send (.sendKeys el text)

/-- Chooses an option by its text and tells the values of all that are chosen then; an option that
is not there is not an error. -/
def selectOption (l : Locator) (value : Value) : Work τ (List Value) := do
  let el ← line.element l
  line.send (.selectBox el)
  match ← (line.send (.selectByText el value)).attempt with
  | .ok _ => line.send (.selectedValues el)
  | .error e => if e.cls = .browser .noSuchElement then return [] else Proc.raise e

/-- A frame is found in the top-level document. -/
def frame (selector : Value) : Work τ Frame := do
  line.enterScope none
  let selector ← Proc.ofExcept (Selector.ofValue selector)
  let (how, value) := Selector.lookup selector
  let _ ← line.send (.findElement how value)
  return ⟨selector⟩

def readinessScript : String := "return document.readyState"

def isLoaded : Work τ Bool := do
  return match ← line.send (.executeScript (.str readinessScript) []) with
    | .str "complete" => true
    | _ => false

def waitForLoad (timeout : Value) : Work τ Unit :=
  line.waitUntil timeout line.isLoaded ("Page not loaded after " ++ timeout.text ++ "s")

/-- Types the code of a key that has one; the name of a key is a text. -/
def press (l : Locator) (key : Value) : Work τ Unit := do
  let keys ← Proc.ofExcept (keysFor key)
  line.send (.sendKeys (← line.element l) keys)

/-- The work that answers a call on a session or a locator. -/
def work : (c : Call) → Work τ c.Reply
  | .launch brand headless => line.launch brand headless
  | .goto _ url => line.send (.visit url)
  | .frame _ selector => line.frame selector
  | .evaluate _ scope source args => do
    line.enterScope scope
    line.send (.executeScript source args)
  | .title _ => do line.enterScope none; line.send .title
  | .waitForLoad _ timeout => line.waitForLoad timeout
  | .close _ => line.send .quit
  | .count l => do return (← line.elements l).length
  | .waitFor l timeout visible => line.waitFor l timeout visible.isTrue
  | .click l timeout => line.click l timeout
  | .doubleClick l => do line.send (.doubleClick (← line.element l))
  | .fill l text => line.fill l text
  | .press l key => line.press l key
  | .readAttribute l name => do line.send (.readAttribute (← line.element l) name)
  | .text l => do line.send (.text (← line.element l))
  | .inputValue l => do line.send (.readAttribute (← line.element l) (.str "value"))
  | .tagName l => do return Text.lower (← line.send (.tagName (← line.element l)))
  | .evaluateOn l source args => do
    let el ← line.element l
    line.send (.executeScript source (.element el.label :: args))
  | .selectOption l value => line.selectOption l value

/-- A launch has its own way to tell what went wrong; all other work is guarded. -/
def answer : (c : Call) → Work τ c.Reply
  | .launch brand headless => line.work (.launch brand headless)
  | c => guarded (line.work c)

end Line

def driver {τ : Type} (line : Line τ) : Driver (Station τ) :=
  ⟨line.answer, "SeleniumDriver", "SeleniumLocator"⟩

end BrowserFlow.Remote
