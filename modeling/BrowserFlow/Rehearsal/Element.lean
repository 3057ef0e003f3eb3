import BrowserFlow.Selector

/-!
# Elements of a rehearsed page

A page is a tree of elements. What an element is never changes: its tag, text, marks, attributes,
options and children. What lies below an element is listed in document order; the content of a frame
is not part of what lies around the frame, but is found when the search starts at the frame itself.
-/
namespace BrowserFlow.Rehearsal

structure Profile where
  label : String
  tag : String
  text : Option String
  id : Option String
  classes : List String
  attributes : List (String × String)
  options : List String
  /-- The title that a click gives to the page. -/
  clickTitle : Option String
deriving DecidableEq, Repr, Inhabited

inductive Element
  | node (profile : Profile) (children : List Element)
deriving Inhabited

namespace Element

def profile : Element → Profile
  | node profile _ => profile

def children : Element → List Element
  | node _ children => children

def label (e : Element) : String := e.profile.label

def tag (e : Element) : String := e.profile.tag

def isFrame (e : Element) : Bool := e.tag == "iframe"

mutual

/-- What a search from an element finds, in document order. -/
def descendants : Element → List Element
  | node _ children => descendantsIn children

def descendantsIn : List Element → List Element
  | [] => []
  | e :: rest => e :: (if e.isFrame then [] else e.descendants) ++ descendantsIn rest

end

mutual

/-- An element and everything in it, the content of frames too. -/
def everything : Element → List Element
  | node profile children => node profile children :: everythingIn children

def everythingIn : List Element → List Element
  | [] => []
  | e :: rest => e.everything ++ everythingIn rest

end

/-- The tag that a path expression asks for. -/
def pathTag (path : String) : String :=
  String.ofList (path.toList.dropWhile fun c => c == '.' || c == '/')

/-- Does a style selector match? It asks for an id, a class or a tag. -/
def matchesStyle (selector : String) (e : Element) : Bool :=
  match selector.toList with
  | '#' :: id => e.profile.id == some (String.ofList id)
  | '.' :: name => e.profile.classes.contains (String.ofList name)
  | _ => e.tag == selector

def matchesPath (path : String) (e : Element) : Bool := e.tag == pathTag path

def isMatch (strategy : Strategy) (value : String) (e : Element) : Bool :=
  match strategy with
  | .style => matchesStyle value e
  | .path => matchesPath value e

/-- Adds children after those that are there. -/
def append (e : Element) (more : List Element) : Element := node e.profile (e.children ++ more)

end Element

end BrowserFlow.Rehearsal
