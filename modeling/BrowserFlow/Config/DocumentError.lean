import BrowserFlow.Failure.Raised

/-!
# Errors of documents

What can be wrong with a configuration document: its shape, or a scalar that has the form of a
number, a date or a character and stands for none. An error of the second sort keeps its own class.
-/
namespace BrowserFlow.Config

inductive DocumentError
  | unparsable (problem : String)
  | refused (e : Raised)

namespace DocumentError

def unclosed : DocumentError := unparsable "a bracket or a quote is not closed"

def unexpected : DocumentError := unparsable "a character has no place here"

def misplaced : DocumentError := unparsable "a line is indented wrongly"

def unprintable : DocumentError := unparsable "a character cannot be printed"

def unhashable : DocumentError := unparsable "a list or a mapping cannot be a key"

/-- The error as the reader of a document raises it. -/
def toRaised (documentName : String) : DocumentError → Raised
  | unparsable problem =>
    .ofText .configuration ("Failed to parse " ++ documentName ++ ": " ++ problem)
  | refused e => e

end DocumentError

end BrowserFlow.Config
