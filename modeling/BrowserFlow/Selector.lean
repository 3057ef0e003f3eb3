import BrowserFlow.Failure.Raised
import BrowserFlow.Text.Blank

/-!
# Selectors

A selector with a marker in front is a path expression; any other is a style selector. Under an
element, a path that starts at the root of the document is made to start at the element instead.
-/
namespace BrowserFlow

/-- The two ways to look an element up. -/
inductive Strategy
  | style | path
deriving DecidableEq, Repr

namespace Strategy

/-- What the selector operation of the library calls the strategy. -/
def word : Strategy → String
  | style => "css"
  | path => "xpath"

/-- What a remote browser calls the strategy. -/
def remoteWord : Strategy → String
  | style => "css selector"
  | path => "xpath"

end Strategy

namespace Selector

def pathMarker : String := "xpath="

/-- Marks a path expression as one. -/
def ofPath (path : String) : String := pathMarker ++ path

def split (selector : String) : Strategy × String :=
  let chars := selector.toList
  if pathMarker.toList.isPrefixOf chars then
    (.path, String.ofList (chars.drop pathMarker.toList.length))
  else (.style, selector)

/-- A selector has to be a text, since its start is looked at. -/
def ofValue (v : Value) : Except Raised String :=
  match v with
  | .str s => .ok s
  | .bytes _ =>
    .error (.typeError "startswith first arg must be bytes or a tuple of bytes, not str")
  | v => .error (.noAttribute v.fullTypeName "startswith")

/-- The look-up in the whole document. -/
def lookup (selector : String) : Strategy × String := split selector

/-- The look-up under an element. -/
def lookupUnder (selector : String) : Strategy × String :=
  match split selector with
  | (.path, path) => (.path, if "/".toList.isPrefixOf path.toList then "." ++ path else path)
  | found => found

theorem split_ofPath (path : String) : split (ofPath path) = (.path, path) := by
  simp [split, ofPath, pathMarker]

end Selector

end BrowserFlow
