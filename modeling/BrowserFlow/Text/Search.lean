/-!
# Searching in text

A text contains another when its characters occur in it as a run of neighbours.
-/
namespace BrowserFlow.Text

/-- Does `needle` occur in `s` as a run of neighbours? -/
def occursIn (needle : List Char) : List Char → Bool
  | [] => needle.isEmpty
  | c :: rest => needle.isPrefixOf (c :: rest) || occursIn needle rest

def contains (s needle : String) : Bool := occursIn needle.toList s.toList

end BrowserFlow.Text
