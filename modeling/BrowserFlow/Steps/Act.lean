import BrowserFlow.Redaction
import BrowserFlow.Steps.Find

/-!
# Acting on the page

Steps that navigate, click, type, choose, run scripts, change frames and keep texts in the item
store. An action works on the element in focus unless it is given a selector, which it then finds
first. A missing focus is a usage error; an error of the driver in the middle of an action becomes
an interaction error that names the action.
-/
namespace BrowserFlow

/-- How many parts a value has; what has no parts has no length. -/
def Value.length : Value → Except Raised Nat
  | .str s | .secret s => .ok s.length
  | .bytes bs | .secretBytes bs => .ok bs.length
  | .list items | .tuple items => .ok items.length
  | .dict entries => .ok entries.length
  | v => .error (.typeError ("object of type '" ++ v.fullTypeName ++ "' has no len()"))

/-- What is typed for a value: a secret is typed as it is, though it shows nowhere. -/
def Value.typed : Value → Value
  | .secret s => .str s
  | v => v

namespace Interact

variable {σ α : Type}

def focus (c : Context) (label : String) : Action σ Focus :=
  match c.focus with
  | some focus => pure focus
  | none => Action.raise (Query.missingFocus label)

/-- The element in focus, for an operation on it. -/
def element (f : Focus) (operation : String) : Action σ Locator :=
  Action.ofExcept (f.through operation)

/-- Turns an error of the driver into one that names the action; other errors pass. -/
def naming (label : String) (p : Action σ α) : Action σ α := do
  match ← p.attempt with
  | .ok a => return a
  | .error e =>
    if e.cls.isDriver then
      Action.raise (.interaction (label ++ ": " ++ (← Action.ofExcept e.readText)))
    else Action.raise e

/-- Finds the selector first if there is one, and goes on unless that failed. -/
def afterFinding (selector index : Value) (c : Context) (act : Context → Action σ Context) :
    Action σ Context := do
  let c ← if selector.isNone then pure c else (Step.find selector index).execute c
  if c.hasFailure then return c else act c

/-- Keeps the text of a value under a key; a value that has no text is an error. -/
def keepText (c : Context) (key value : Value) : Action σ Context := do
  let kept ← Action.ofExcept ((← Action.items c.items).put key value)
  Action.changeItems c.items fun _ => kept
  return c

/-- What counts as false stands for an empty text. -/
def orEmpty (v : Value) : Value := if v.isTrue then v else .str ""

end Interact

namespace Step

open Interact

variable {σ : Type}

/-- Opens a page; frame, focus and collection are dropped. -/
def goto (url : Value) : Step σ :=
  .ofBody "goto" [("url", url)] fun c => do
    let url ← requireValue url "goto" "url"
    Action.call (.goto c.session url)
    return c.withoutScope

def click (selector : Value := .none) (index : Value := .int 0)
    (timeout : Value := .none) : Step σ :=
  .ofBody "click" [("selector", selector), ("index", index)] fun c =>
    afterFinding selector index c fun c => do
      let f ← focus c "click"
      naming "click" do
        let l ← element f "click"
        let timeout ← Action.timeout timeout Settings.actionTimeout
        Action.call (.click l timeout)
      return c

def doubleClick (selector : Value := .none) : Step σ :=
  .ofBody "dbl_click" [("selector", selector)] fun c =>
    afterFinding selector (.int 0) c fun c => do
      let f ← focus c "dbl_click"
      naming "dbl_click" do Action.call (.doubleClick (← element f "dbl_click"))
      return c

/-- Types a text, or chooses the option of a select box. -/
def typing (text : Value) (c : Context) : Action σ Context := do
  let text ← requireValue text "set_text" "text"
  let f ← focus c "set_text"
  naming "set_text" do
    let l ← element f "tag_name"
    if (← Action.call (.tagName l)) = "select" then
      Action.call (.click l .none)
      let _ ← Action.call (.selectOption l text.typed)
    else
      Action.call (.fill l text.typed)
  return c

/-- Types a text into an element. The line of the step shows only the length of the text, so only
what has a length can be typed. -/
def setText (text : Value) (selector : Value := .none) : Except Raised (Step σ) := do
  let chars ← if text.isNone then pure Value.none else do pure (Value.int (← text.length))
  return .ofBody "set_text" [("selector", selector), ("chars", chars)] fun c =>
    afterFinding selector (.int 0) c (typing text)

/-- The body of the steps that press a key. -/
def pressing (key : Value) (c : Context) : Action σ Context := do
  let key ← requireValue key "press" "key"
  let f ← focus c "press"
  naming ("press " ++ key.text) do Action.call (.press (← element f "press") key)
  return c

def press (key : Value) : Step σ := .ofBody "press" [("key", key)] (pressing key)

def pressEnter : Step σ := .ofBody "press_enter" [] (pressing (.str "Enter"))

/-- Chooses the option with a visible text; an option that is not there is an assertion error. -/
def selectComboText (value : Value) (selector : Value := .none) : Step σ :=
  .ofBody "select_combo_text" [("selector", selector), ("value", value)] fun c =>
    afterFinding selector (.int 0) c fun c => do
      let value ← requireValue value "select_combo_text" "value"
      let f ← focus c "select_combo_text"
      let chosen ← naming "select_combo_text" do
        Action.call (.selectOption (← element f "select_option") value)
      if chosen.isEmpty then
        Action.raise (.assertion ("Can't find combo text '" ++ value.text ++ "'"))
      else return c

def script (source : Value) (args : List Value := []) : Step σ :=
  .ofBody "script" [("source", source), ("args", .list args)] fun c => do
    let source ← requireValue source "script" "source"
    let _ ← naming "script" (Action.call (.evaluate c.session c.scope source args))
    return c

/-- Confines later look-ups to a frame of the page. -/
def switchToFrame (selector : Value) : Step σ :=
  .ofBody "switch_to_frame" [("selector", selector)] fun c => do
    let selector ← requireValue selector "switch_to_frame" "iframe selector"
    return c.withScope (← naming "switch_to_frame" (Action.call (.frame c.session selector)))

def switchToDefault : Step σ := .ofBody "switch_to_default" [] fun c => pure c.withoutScope

/-- The error of a title that is not the expected one. -/
def otherTitle (expected : Value) (actual : String) : Raised :=
  .assertion ("Expected title '" ++ expected.text ++ "', actual '" ++ actual ++ "'")

/-- Clicks a link, waits for the page to load, and checks its title. -/
def followLink (selector title : Value) (timeout : Value := .none) : Step σ :=
  .ofBody "follow_link" [("selector", selector), ("title", title)] fun c => do
    let selector ← requireValue selector "follow_link" "selector"
    let title ← requireValue title "follow_link" "target title"
    let clicked ← (click selector).execute c
    if clicked.hasFailure then return clicked
    else
      let wait ← Action.timeout timeout Settings.loadTimeout
      naming "follow_link" (Action.call (.waitForLoad c.session wait))
      let actual ← Action.call (.title c.session)
      if title.isText (some actual) then return clicked else Action.raise (otherTitle title actual)

/-- Keeps the text of the element in focus. -/
def storeText (key : Value) : Step σ :=
  .ofBody "store_text" [("key", key)] fun c => do
    let key ← requireValue key "store_text" "key"
    let f ← focus c "store_text"
    keepText c key (orEmpty (.ofOption (← Action.call (.text (← element f "text")))))

/-- Keeps the value of the element in focus. -/
def storeValue (key : Value) : Step σ :=
  .ofBody "store_value" [("key", key)] fun c => do
    let key ← requireValue key "store_value" "key"
    let _ ← focus c "store_value"
    keepText c key (orEmpty (← c.value))

/-- Stores the text of a value; under a sensitive key it is masked in the line of the step. -/
def setItem (key value : Value) : Step σ :=
  let shown := if !key.isNone && Redaction.isSensitiveKey key.text then .str mask else value
  .ofBody "set_item" [("key", key), ("value", shown)] fun c => do
    let key ← requireValue key "set_item" "key"
    let value ← requireValue value "set_item" "value"
    keepText c key value

/-- A step that stores a value is made of the text of its key, so only a key that has a text makes
one. -/
def storing (key value : Value) : Except Raised (Step σ) := do
  let _ ← if key.isNone then pure "" else key.readText
  return setItem key value

/-- Removes one item, or all of them. -/
def clearItem (key : Value := .none) : Step σ :=
  .ofBody "clear_item" [("key", key)] fun c => do
    if key.isNone then Action.changeItems c.items fun _ => .empty
    else
      let left ← Action.ofExcept ((← Action.items c.items).remove key)
      Action.changeItems c.items fun _ => left
    return c

end Step

end BrowserFlow
