import BrowserFlow.Failure.Raised
import BrowserFlow.Text.Blank
import BrowserFlow.Text.Case

/-!
# Browser brands

The browsers that a session can be started with. A brand is named in any letter case, with blanks
around it.
-/
namespace BrowserFlow

inductive Brand
  | chromium | chrome | edge | firefox | webkit
deriving DecidableEq, Repr

namespace Brand

def word : Brand → String
  | chromium => "chromium"
  | chrome => "chrome"
  | edge => "edge"
  | firefox => "firefox"
  | webkit => "webkit"

def all : List Brand := [chromium, chrome, edge, firefox, webkit]

def ofWord? (s : String) : Option Brand := all.find? (·.word = s)

theorem ofWord?_word (brand : Brand) : ofWord? brand.word = some brand := by
  cases brand <;> decide

/-- The error that names what was asked for as it was written. -/
def unsupported (shown : String) : Raised :=
  .ofText .unsupportedBrowser ("Browser brand " ++ shown ++ " not supported.")

def read (v : Value) : Except Raised Brand := do
  match ofWord? (Text.lower (Text.trim (← v.readText))) with
  | some brand => return brand
  | none => throw (unsupported v.quoted)

end Brand

end BrowserFlow
