import BrowserFlow.Config.DocumentError
import BrowserFlow.Text.Digit
import BrowserFlow.Text.LineEnd

/-!
# Quoted text of documents

A quoted text can go over several lines. A line end inside it counts as one blank, and blank lines
after it as line ends; what is escaped is not folded. Inside single quotes the quote is written
twice; inside double quotes a backslash escapes, and before a line end it joins the lines.
-/
namespace BrowserFlow.Config.Quotation

/-- A part of a quoted text: a character as it is written, one that an escape stands for, or a joint
of two lines. -/
inductive Piece
  | written (c : Char)
  | escaped (c : Char)
  | joint
deriving DecidableEq, Repr

/-- Where folding stands: after some blanks that may still count, or after a line end and so many
blank lines. -/
inductive Fold
  | blanks (pending : List Char)
  | lines (joined : Bool) (empty : Nat)

/-- What counts of the blanks and line ends passed. -/
def Fold.passed : Fold → List Char
  | blanks pending => pending
  | lines joined 0 => if joined then [] else [' ']
  | lines _ n => List.replicate n '\n'

def folded (state : Fold) : List Piece → List Char
  | [] => state.passed
  | .escaped c :: rest => state.passed ++ c :: folded (.blanks []) rest
  | .joint :: rest => state.passed ++ folded (.lines true 0) rest
  | .written c :: rest =>
    match state with
    | .blanks pending =>
      if c = '\n' then folded (.lines false 0) rest
      else if c = ' ' ∨ c = '\t' then folded (.blanks (pending ++ [c])) rest
      else pending ++ c :: folded (.blanks []) rest
    | .lines joined empty =>
      if c = '\n' then folded (.lines joined (empty + 1)) rest
      else if c = ' ' ∨ c = '\t' then folded (.lines joined empty) rest
      else state.passed ++ c :: folded (.blanks []) rest

/-- The text that pieces make. -/
def text (pieces : List Piece) : String := String.ofList (folded (.blanks []) pieces)

/-- A line that begins a document or ends one. -/
def isMarker (line : List Char) : Bool :=
  let mark := line.take 3
  (mark == ['-', '-', '-'] || mark == ['.', '.', '.']) &&
    (line.drop 3).head?.all fun c => c == ' ' || c == '\t' || c == '\n'

abbrev Result : Type := Except DocumentError (List Piece × List Char)

def Result.push (p : Piece) (r : Result) : Result := r.map fun (pieces, rest) => (p :: pieces, rest)

/-- The pieces up to a closing single quote, and what comes after. -/
def readSingle : List Char → Result
  | [] => .error .unclosed
  | '\'' :: '\'' :: rest => Result.push (.escaped '\'') (readSingle rest)
  | '\'' :: rest => .ok ([], rest)
  | c :: rest =>
    if c = '\n' ∧ isMarker rest then .error .misplaced
    else Result.push (.written c) (readSingle rest)

/-- The character that an escape of one letter stands for. -/
def escapes : List (Char × Char) :=
  [('0', '\x00'), ('a', '\x07'), ('b', '\x08'), ('t', '\t'), ('\t', '\t'), ('n', '\n'),
    ('v', '\x0b'), ('f', '\x0c'), ('r', '\r'), ('e', '\x1b'), (' ', ' '), ('"', '"'), ('/', '/'),
    ('\\', '\\'), ('N', '\u0085'), ('_', '\u00a0'), ('L', '\u2028'), ('P', '\u2029')]

/-- The character with a code point; there are no more than there are. -/
def coded (code : Nat) : Except DocumentError Char :=
  if 0x7fffffff < code then
    .error (.refused
      (.ofText (.foreign "OverflowError") "Python int too large to convert to C int"))
  else if 0x10ffff < code then .error (.refused (.valueError "chr() arg not in range(0x110000)"))
  else .ok (Char.ofNat code)

/-- A character by its code point in hexadecimal digits, and the rest after it. -/
def readCode (digits : List Char) (after : Result) : Result :=
  match digits.mapM Text.hexValue? with
  | some values => do
    let c ← coded (values.foldl (fun n d => 16 * n + d) 0)
    Result.push (.escaped c) after
  | none => .error .unexpected

/-- The pieces up to a closing double quote, and what comes after. -/
def readDouble : List Char → Result
  | [] => .error .unclosed
  | '"' :: rest => .ok ([], rest)
  | '\\' :: 'x' :: a :: b :: rest => readCode [a, b] (readDouble rest)
  | '\\' :: 'u' :: a :: b :: c :: d :: rest => readCode [a, b, c, d] (readDouble rest)
  | '\\' :: 'U' :: a :: b :: c :: d :: e :: f :: g :: h :: rest =>
    readCode [a, b, c, d, e, f, g, h] (readDouble rest)
  | '\\' :: c :: rest =>
    if c = '\n' then
      if isMarker rest then .error .misplaced else Result.push .joint (readDouble rest)
    else
      match escapes.lookup c with
      | some e => Result.push (.escaped e) (readDouble rest)
      | none => .error .unexpected
  | c :: rest =>
    if c = '\n' ∧ isMarker rest then .error .misplaced
    else Result.push (.written c) (readDouble rest)

end BrowserFlow.Config.Quotation
