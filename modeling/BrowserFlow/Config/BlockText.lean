import BrowserFlow.Config.DocumentError
import BrowserFlow.Text.Digit

/-!
# Block text of documents

A text can stand on lines of its own under an indicator, deeper than what it belongs to. The first
line that is not blank tells how deep, unless the indicator does. Line ends count as they are; if
the text is folded, one between two lines that start with no blank counts as a blank. The line end
of the last line counts unless it is stripped, and blank lines after that only if they are kept.
-/
namespace BrowserFlow.Config.BlockText

/-- What an indicator says: whether lines are folded, whether line ends at the end are kept or
stripped, and how much deeper the text stands than what it belongs to. -/
structure Style where
  folds : Bool
  keeps : Option Bool := none
  depth : Option Nat := none
deriving DecidableEq, Repr

def linesOf : List Char → List (List Char)
  | [] => [[]]
  | c :: rest =>
    if c = '\n' then [] :: linesOf rest
    else
      match linesOf rest with
      | line :: more => (c :: line) :: more
      | [] => [[c]]

/-- Lines as they stand in a text after the end of another line. -/
def unread (lines : List (List Char)) : List Char := lines.flatMap ('\n' :: ·)

def readSign : List Char → Option Bool × List Char
  | '+' :: rest => (some true, rest)
  | '-' :: rest => (some false, rest)
  | s => (none, s)

/-- A depth is one digit and not nought. -/
def readDepth : List Char → Except DocumentError (Option Nat × List Char)
  | c :: rest =>
    if c = '0' then .error .unexpected
    else if c.isDigit then .ok (some (c.toNat - '0'.toNat), rest)
    else .ok (none, c :: rest)
  | [] => .ok (none, [])

/-- What stands after an indicator on its line: a sign and a depth, in either order, and a
comment. -/
def readStyle (folds : Bool) (s : List Char) : Except DocumentError Style := do
  let (before, s) := readSign s
  let (depth, s) ← readDepth s
  let (after, s) := if before.isSome then (none, s) else readSign s
  let words := s.dropWhile (· == ' ')
  if !words.isEmpty && (s.head? != some ' ' || words.head? != some '#') then throw .unexpected
  return { folds, keeps := before <|> after, depth }

def leadingBlanks (line : List Char) : Nat := (line.takeWhile (· == ' ')).length

def isAllBlanks (line : List Char) : Bool := line.all (· == ' ')

/-- How many blank lines come first, and the lines after them. A line that nothing ends is not
passed over. -/
def passBlank (isPassed : List Char → Bool) : List (List Char) → Nat × List (List Char)
  | line :: next :: more =>
    if isPassed line then
      let (n, rest) := passBlank isPassed (next :: more)
      (n + 1, rest)
    else (0, line :: next :: more)
  | lines => (0, lines)

/-- Is a line blank as far as the text is concerned: no deeper than the text, and empty there? -/
def isBlankAt (depth : Nat) (line : List Char) : Bool := isAllBlanks line && line.length ≤ depth

/-- Where the text begins: how deep it stands, how many blank lines come first, and the lines after
them. -/
def start (least : Nat) (given : Option Nat) (lines : List (List Char)) :
    Nat × Nat × List (List Char) :=
  match given with
  | some more =>
    let depth := least + more - 1
    (depth, passBlank (isBlankAt depth) lines)
  | none =>
    let (n, rest) := passBlank isAllBlanks lines
    let seen := lines.take n ++ rest.take 1
    ((seen.map leadingBlanks).foldl max least, n, rest)

def startsWithBlank (line : List Char) : Bool := line.head?.any fun c => c == ' ' || c == '\t'

/-- What stands between two lines of the text with so many blank lines between them. -/
def joint (style : Style) (line next : List Char) (blanks : Nat) : List Char :=
  let first := if !style.folds || startsWithBlank line || startsWithBlank next then ['\n']
    else if blanks = 0 then [' ']
    else []
  first ++ List.replicate blanks '\n'

/-- What counts of the line end of the last line and of the blank lines after it. -/
def ending (style : Style) (isEnded : Bool) (blanks : Nat) : List Char :=
  (if isEnded && style.keeps != some false then ['\n'] else []) ++
    (if style.keeps == some true then List.replicate blanks '\n' else [])

/-- The lines of the text, of which there is at least one, and what comes after it. -/
def readLines (style : Style) (depth : Nat) :
    Nat → List (List Char) → List Char × List (List Char)
  | 0, lines => ([], lines)
  | _, [] => ([], [])
  | fuel + 1, line :: more =>
    let words := line.drop depth
    let (blanks, rest) := passBlank (isBlankAt depth) more
    let next := rest.headD []
    if depth ≤ leadingBlanks next && depth < next.length then
      let (text, rest) := readLines style depth fuel rest
      (words ++ joint style words (next.drop depth) blanks ++ text, rest)
    else (words ++ ending style (!more.isEmpty) blanks, rest)

/-- The text under an indicator, and what comes after it. -/
def read (folds : Bool) (parent : Int) (s : List Char) :
    Except DocumentError (String × List Char) :=
  match linesOf s with
  | [] => .error .unclosed
  | head :: lines => do
    let style ← readStyle folds head
    let least := max 1 (parent + 1).toNat
    let (depth, blanks, lines) := start least style.depth lines
    let first := lines.headD []
    if depth ≤ leadingBlanks first && depth < first.length then
      let (text, rest) := readLines style depth lines.length lines
      return (String.ofList (List.replicate blanks '\n' ++ text), unread rest)
    else return (String.ofList (ending style false blanks), unread lines)

end BrowserFlow.Config.BlockText
