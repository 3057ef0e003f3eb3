import BrowserFlow.Selector
import BrowserFlow.Value

/-!
# Commands to a remote browser

The requests that a remote browser understands and what it replies to each. The browser has one
current document; its elements are known by references. Reading the values of the options that are
chosen in a select box is a command of its own that leaves no trace, and so does sleeping, which
lets time pass for the browser.
-/
namespace BrowserFlow.Remote

/-- A reference to an element that the browser gave out. -/
structure ElementRef where
  label : String
deriving DecidableEq, Repr

inductive Command
  | start (program : String) (options : Option (List String)) (acceptInsecure : Option Bool)
  | setPageLoadTimeout (timeout : Value)
  | defaultContent
  | enterFrame (el : ElementRef)
  | findElement (how : Strategy) (value : String)
  | findElements (how : Strategy) (value : String)
  | visit (url : Value)
  | title
  | executeScript (source : Value) (args : List Value)
  | quit
  | findUnder (el : ElementRef) (how : Strategy) (value : String)
  | click (el : ElementRef)
  | doubleClick (el : ElementRef)
  | clear (el : ElementRef)
  | sendKeys (el : ElementRef) (keys : Value)
  | readAttribute (el : ElementRef) (name : Value)
  | text (el : ElementRef)
  | tagName (el : ElementRef)
  | isDisplayed (el : ElementRef)
  | isEnabled (el : ElementRef)
  | selectBox (el : ElementRef)
  | selectByText (el : ElementRef) (text : Value)
  | selectedValues (el : ElementRef)
  | sleep (duration : Number)
deriving BEq, Repr

/-- What the browser replies to a command. -/
@[reducible] def Command.Reply : Command → Type
  | findElement .. => ElementRef
  | findElements .. | findUnder .. => List ElementRef
  | title | tagName _ => String
  | executeScript .. | readAttribute .. => Value
  | selectedValues _ => List Value
  | text _ => Option String
  | isDisplayed _ | isEnabled _ => Bool
  | _ => Unit

end BrowserFlow.Remote
