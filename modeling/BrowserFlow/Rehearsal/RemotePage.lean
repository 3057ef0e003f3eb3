import BrowserFlow.Rehearsal.Page
import BrowserFlow.Remote.Work
import BrowserFlow.Text.Case

/-!
# A remote browser on a rehearsed page

A remote browser that shows a rehearsed page. One document is current: the top-level one, or the
content of a frame; look-ups start there. Elements are known by their labels. What is pending on the
page is attached while time passes.
-/
namespace BrowserFlow.Rehearsal

structure RemotePage where
  page : Page
  /-- The label of the frame whose content is the current document. -/
  current : Option String := none

namespace RemotePage

open Remote (ElementRef Command Browser)

variable {α : Type}

def onPage (p : Proc Page α) : Proc RemotePage α := fun r =>
  let (outcome, page) := p r.page
  (outcome, { r with page })

/-- The element with a label. -/
def resolve? (r : RemotePage) (label : String) : Option Element :=
  r.page.root.everything.find? (·.label == label)

/-- The element behind a reference; one that the page does not hold is gone. -/
def resolve (el : ElementRef) : Proc RemotePage Element := do
  match (← Proc.read).resolve? el.label with
  | some e => return e
  | none => Proc.raise (.browser .staleElement "stale element reference")

/-- The root of the current document. -/
def document (r : RemotePage) : Element :=
  match r.current with
  | none => r.page.root
  | some label => (r.resolve? label).getD r.page.root

/-- Where a look-up from a base searches. An absolute path searches the current document, a path
that starts at the base what is below it, and any other path only its children. -/
def searched (r : RemotePage) (base : Element) (how : Strategy) (value : String) : List Element :=
  match how, value.toList with
  | .style, _ => base.descendants
  | .path, '/' :: _ => r.document.descendants
  | .path, '.' :: _ => base.descendants
  | .path, _ => base.children

def found (r : RemotePage) (base : Element) (how : Strategy) (value : String) : List Element :=
  (r.searched base how value).filter (Element.isMatch how value)

def refs (es : List Element) : List ElementRef := es.map fun e => ⟨e.label⟩

/-- The element behind a reference, after the turn of an operation on it. -/
def operate (el : ElementRef) (operation : String) : Proc RemotePage Element := do
  let e ← resolve el
  onPage (Page.turnOf e operation)
  return e

def findElement (how : Strategy) (value : String) : Proc RemotePage ElementRef := do
  onPage (Page.turn "find_element")
  let r ← Proc.read
  match r.found r.document how value with
  | e :: _ => return ⟨e.label⟩
  | [] => Proc.raise (.browser .noSuchElement ("no such element: " ++ value))

def executeScript (source : Value) : Proc RemotePage Value := do
  onPage (Page.turn "execute_script")
  if source.isText (some "return document.readyState") then return .str (← onPage Page.readReady)
  else return .none

def readAttribute (el : ElementRef) (name : Value) : Proc RemotePage Value := do
  let e ← operate el "get_attribute"
  onPage (if name.isText (some "value") then Page.valueOf e else Page.readAttribute e name)

/-- Only text can be typed after text. -/
def typedAfter (before keys : Value) : Except Raised Value :=
  match if before.isTrue then before else .str "", keys with
  | .str s, .str t => .ok (.str (s ++ t))
  | .str _, keys =>
    .error (.typeError ("can only concatenate str (not \"" ++ keys.typeName ++ "\") to str"))
  | before, keys => .error (.typeError
      ("unsupported operand type(s) for +: '" ++ before.typeName ++ "' and '" ++
        keys.typeName ++ "'"))

def sendKeys (el : ElementRef) (keys : Value) : Proc RemotePage Unit := do
  let e ← operate el "send_keys"
  let typed ← Proc.ofExcept (typedAfter (← onPage (Page.valueOf e)) keys)
  onPage (Page.setValue e typed)

def selectBox (el : ElementRef) : Proc RemotePage Unit := do
  let e ← operate el "Select"
  if Text.lower e.tag = "select" then return ()
  else
    Proc.raise
      (.browser .unexpectedTag ("Select only works on <select> elements, not on " ++ e.tag))

def selectByText (el : ElementRef) (text : Value) : Proc RemotePage Unit := do
  let e ← operate el "select_by_visible_text"
  if Page.isOption e text then onPage (Page.setValue e text)
  else
    Proc.raise
      (.browser .noSuchElement ("Could not locate element with visible text: " ++ text.text))

def perform : (c : Command) → Proc RemotePage c.Reply
  | .start .. => onPage (Page.turn "start")
  | .setPageLoadTimeout _ => onPage (Page.turn "set_page_load_timeout")
  | .defaultContent => do
    onPage (Page.turn "default_content")
    Proc.update fun r => { r with current := none }
  | .enterFrame el => do
    onPage (Page.turn "frame")
    Proc.update fun r => { r with current := some el.label }
  | .findElement how value => findElement how value
  | .findElements how value => do
    onPage (Page.turn "find_elements")
    let r ← Proc.read
    return refs (r.found r.document how value)
  | .visit url => onPage do Page.turn "get"; Page.visit url
  | .title => onPage do Page.turn "title"; return (← Proc.read).title
  | .executeScript source _ => executeScript source
  | .quit => onPage (Page.turn "quit")
  | .findUnder el how value => do
    let e ← operate el "find_elements"
    return refs ((← Proc.read).found e how value)
  | .click el => do
    let e ← operate el "click"
    onPage (Page.clicked e)
  | .doubleClick el => do let _ ← operate el "dbl_click"; return ()
  | .clear el => do
    let e ← operate el "clear"
    onPage (Page.setValue e (.str ""))
  | .sendKeys el keys => sendKeys el keys
  | .readAttribute el name => readAttribute el name
  | .text el => do return (← operate el "text").profile.text
  | .tagName el => do return (← operate el "tag_name").tag
  | .isDisplayed el => do
    let e ← operate el "is_displayed"
    onPage (Page.readVisible e)
  | .isEnabled el => do
    let e ← operate el "is_enabled"
    onPage (Page.readEnabled e)
  | .selectBox el => selectBox el
  | .selectByText el text => selectByText el text
  | .selectedValues el => do
    let e ← resolve el
    return [← onPage (Page.valueOf e)]
  | .sleep _ => onPage (Proc.update Page.attach)

def browser : Browser RemotePage := ⟨perform⟩

end RemotePage

end BrowserFlow.Rehearsal
