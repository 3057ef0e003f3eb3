import BrowserFlow.Text.Case

/-!
# Variables

Variables in the order in which they were first named. One can be named and yet have no value. A
name can be looked up as it is, or without regard to letter case; then the last of several spellings
counts, whether it has a value or not.
-/
namespace BrowserFlow.Config

structure Variables where
  entries : List (String × Option String)
deriving DecidableEq, Repr

namespace Variables

def empty : Variables := ⟨[]⟩

def get? (vars : Variables) (name : String) : Option String := (vars.entries.lookup name).join

def put (name : String) (value : Option String) :
    List (String × Option String) → List (String × Option String)
  | [] => [(name, value)]
  | (n, old) :: rest => if n = name then (n, value) :: rest else (n, old) :: put name value rest

/-- Names a variable, with a value or without; a variable that was named before keeps its place. -/
def define (vars : Variables) (name : String) (value : Option String) : Variables :=
  ⟨put name value vars.entries⟩

def set (vars : Variables) (name value : String) : Variables := vars.define name (some value)

def erase (vars : Variables) (name : String) : Variables :=
  ⟨vars.entries.filter (·.1 ≠ name)⟩

/-- The value of the last variable whose name in lower case is this. -/
def getFolded? (vars : Variables) (name : String) : Option String :=
  (vars.entries.reverse.find? fun entry => Text.lower entry.1 = name).bind (·.2)

/-- The variables without those that have an empty value. -/
def withoutEmpty (vars : Variables) : Variables := ⟨vars.entries.filter (·.2 ≠ some "")⟩

end Variables

end BrowserFlow.Config
