/-!
# Kinds of failure

The categories that a failure of a chain falls into, and the words they are written with.
-/
namespace BrowserFlow

inductive FailureKind
  | resolution | interaction | assertion | usage | driver | cancelled | unexpected
deriving DecidableEq, Repr

namespace FailureKind

def word : FailureKind → String
  | resolution => "resolution"
  | interaction => "interaction"
  | assertion => "assertion"
  | usage => "usage"
  | driver => "driver"
  | cancelled => "cancelled"
  | unexpected => "unexpected"

def all : List FailureKind :=
  [resolution, interaction, assertion, usage, driver, cancelled, unexpected]

/-- Reads a word exactly: case and blanks count. -/
def ofWord? (s : String) : Option FailureKind := all.find? (·.word = s)

theorem ofWord?_word (kind : FailureKind) : ofWord? kind.word = some kind := by
  cases kind <;> decide

end FailureKind

end BrowserFlow
