/-!
# Line ends

A line may end with a carriage return, a line feed, or both; each stands for one line feed.
-/
namespace BrowserFlow.Text

/-- Every line end as one line feed; a line feed after a carriage return ends nothing more. -/
def unifyFrom (afterReturn : Bool) : List Char → List Char
  | [] => []
  | c :: rest =>
    if c = '\r' then '\n' :: unifyFrom true rest
    else if c = '\n' ∧ afterReturn then unifyFrom false rest
    else c :: unifyFrom false rest

def unifyLineEnds (s : List Char) : List Char := unifyFrom false s

/-- What comes after the end of the line. -/
def afterLine (s : List Char) : List Char := (s.dropWhile (· != '\n')).tail

/-- Takes one byte order mark off the front. -/
def withoutMark : List Char → List Char
  | '\ufeff' :: rest => rest
  | s => s

end BrowserFlow.Text
