import BrowserFlow.Value

/-!
# Raised errors

An error on its way up: its class, its arguments, and for an error of a step the name of the step it
blames. The text of an error is the text of it as a value.
-/
namespace BrowserFlow

structure Raised where
  cls : ErrorClass
  args : List Value
  step : Option String := none
deriving BEq, Repr, Inhabited

namespace Raised

def toValue (e : Raised) : Value := .raised e.cls e.args e.step

def text (e : Raised) : String := e.toValue.text

def ofText (cls : ErrorClass) (message : String) : Raised := { cls, args := [.str message] }

def resolution (message : String) : Raised := ofText (.step .resolution) message

def interaction (message : String) : Raised := ofText (.step .interaction) message

def assertion (message : String) : Raised := ofText (.step .assertion) message

def usage (message : String) : Raised := ofText (.step .usage) message

def driver (message : String) : Raised := ofText .driver message

def driverTimeout (message : String) : Raised := ofText .driverTimeout message

def session (message : String) : Raised := ofText .session message

def typeError (message : String) : Raised := ofText (.foreign "TypeError") message

def valueError (message : String) : Raised := ofText (.foreign "ValueError") message

/-- A text is asked for and something else is given. -/
def noText (type : String) : Raised :=
  typeError ("__str__ returned non-string (type " ++ type ++ ")")

end Raised

/-- The text of a value, if it has one. -/
def Value.readText (v : Value) : Except Raised String :=
  match v.textObstacle with
  | .some type => .error (Raised.noText type)
  | .none => .ok v.text

namespace Raised

/-- The text of an error, if it has one. -/
def readText (e : Raised) : Except Raised String := e.toValue.readText

/-- What a thing is asked for that it does not have. -/
def noAttribute (type member : String) : Raised :=
  ofText (.foreign "AttributeError") ("'" ++ type ++ "' object has no attribute '" ++ member ++ "'")

/-- What is not callable is called. -/
def notCallable (v : Value) : Raised :=
  typeError ("'" ++ v.fullTypeName ++ "' object is not callable")

def browser (kind : BrowserErrorClass) (message : String) : Raised := ofText (.browser kind) message

/-- Fields with unacceptable values, each with what is wrong with it. -/
def validation (problems : List String) : Raised :=
  { cls := .validation, args := problems.map .str }

/-- The message of a remote browser's error as its holder keeps it, if it was given one or has a
pointer to add. -/
def browserMessage? (kind : BrowserErrorClass) (args : List Value) : Option String :=
  match args with
  | [] | .none :: _ => if kind.isExplained then some (Value.browserMessage kind "None") else none
  | given :: _ => some (Value.browserMessage kind given.text)

end Raised

/-- A word that names none of the members of a closed list of words. -/
def notAMember (v : Value) (type : String) : Raised :=
  .valueError (v.quoted ++ " is not a valid " ++ type)

end BrowserFlow
