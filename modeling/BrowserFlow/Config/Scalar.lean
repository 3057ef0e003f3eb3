import BrowserFlow.Config.Moment
import BrowserFlow.Numeral

/-!
# Plain scalars

What an unquoted word in a configuration document stands for: nothing, a truth value, a number, a
date, or the text itself. Whole numbers are decimal, binary, octal, hexadecimal or sexagesimal;
other numbers have a point, or are the words for an infinity and for what is not a number.
Underscores between digits count for nothing.
-/
namespace BrowserFlow.Config.Scalar

def isNoneWord (s : String) : Bool := ["", "~", "null", "Null", "NULL"].contains s

def truth? (s : String) : Option Bool :=
  if ["yes", "Yes", "YES", "true", "True", "TRUE", "on", "On", "ON"].contains s then some true
  else if ["no", "No", "NO", "false", "False", "FALSE", "off", "Off", "OFF"].contains s then
    some false
  else none

/-- The value of digits in a base; underscores are passed over. -/
def digitsIn? (base : Nat) (s : List Char) : Option Nat :=
  s.foldlM (fun n c =>
    if c = '_' then some n
    else do
      let d ← Text.hexValue? c
      if d < base then some (base * n + d) else none) 0

def isGap (c : Char) : Bool := c == '_'

/-- The value of a prefixed number; one without digits has the form of a number and is none. -/
def prefixed? (base : Nat) (s : List Char) : Option (Except DocumentError Nat) :=
  if s.isEmpty then none
  else if s.all isGap then some (.error (.refused (Numeral.malformed base (Text.quoted ""))))
  else (digitsIn? base s).map .ok

/-- The parts of a text between colons. -/
def colonParts (s : List Char) : List (List Char) :=
  s.foldr (fun c parts =>
    match c, parts with
    | ':', parts => [] :: parts
    | c, part :: rest => (c :: part) :: rest
    | c, [] => [[c]]) [[]]

/-- A part of a sexagesimal number after the first: one digit, or two below sixty. -/
def sixtieth? (s : List Char) : Option Nat :=
  match s with
  | [d] => if d.isDigit then Text.hexValue? d else none
  | [t, d] => if '0' ≤ t ∧ t ≤ '5' ∧ d.isDigit then digitsIn? 10 [t, d] else none
  | _ => none

def startsWithDigit (s : List Char) (fromOne : Bool) : Bool :=
  match s with
  | c :: _ => c.isDigit && !(fromOne && c == '0')
  | [] => false

/-- The value of decimal digits, unless there are too many of them. -/
def decimal? (s : List Char) : Option (Except DocumentError Nat) :=
  let digits := s.filter (!isGap ·)
  (digitsIn? 10 digits).map fun n =>
    if Numeral.digitLimit < digits.length then
      .error (.refused (Numeral.tooLongToRead digits.length))
    else .ok n

def unsigned? (s : List Char) : Option (Except DocumentError Nat) :=
  match s with
  | ['0'] => some (.ok 0)
  | '0' :: 'b' :: rest => prefixed? 2 rest
  | '0' :: 'x' :: rest => prefixed? 16 rest
  | '0' :: rest => prefixed? 8 ('0' :: rest)
  | _ =>
    match colonParts s with
    | first :: rest =>
      if startsWithDigit first true then do
        let parts ← rest.mapM sixtieth?
        let n ← decimal? first
        some (n.map fun n => parts.foldl (fun n p => 60 * n + p) n)
      else none
    | [] => none

def int? (s : List Char) : Option (Except DocumentError Int) :=
  let (negative, rest) := Decimal.takeSign s
  (unsigned? rest).map fun n => n.map fun n => if negative then -Int.ofNat n else Int.ofNat n

/-- A sign and digits, as an exponent has to be written. -/
def isExponent (s : List Char) : Bool :=
  match s with
  | [] => true
  | e :: sign :: d :: rest =>
    (e == 'e' || e == 'E') && (sign == '+' || sign == '-') && (d :: rest).all Char.isDigit
  | _ => false

def isDigitOrGap (c : Char) : Bool := c.isDigit || isGap c

/-- Digits, a point, perhaps more digits, perhaps an exponent. -/
def positional? (s : List Char) : Option Float :=
  match s.dropWhile isDigitOrGap with
  | '.' :: rest =>
    let whole := s.takeWhile isDigitOrGap
    let wellFormed :=
      if whole.isEmpty then startsWithDigit rest false else startsWithDigit whole false
    if wellFormed && isExponent (rest.dropWhile isDigitOrGap) then
      Decimal.readUnsigned? (s.filter (!isGap ·))
    else none
  | _ => none

/-- A number with a point whose whole part is sexagesimal. The parts are added up from the last
one. -/
def sexagesimal? (s : List Char) : Option Float :=
  match colonParts s with
  | first :: middle@(_ :: _) =>
    let last := middle.getLastD []
    if startsWithDigit first false && first.all isDigitOrGap && last.contains '.' &&
        (last.dropWhile (· != '.')).tail.all isDigitOrGap then do
      let _ ← middle.dropLast.mapM sixtieth?
      let _ ← sixtieth? (last.takeWhile (· != '.'))
      let parts ← (first :: middle).mapM fun part =>
        Decimal.readUnsigned? (part.filter (!isGap ·))
      some (parts.reverse.zipIdx.foldl
        (fun sum (part, place) => sum + part * Float.ofNat (Nat.pow 60 place)) 0)
    else none
  | _ => none

def float? (s : List Char) : Option Float :=
  let text := String.ofList s
  if [".nan", ".NaN", ".NAN"].contains text then some (0.0 / 0.0)
  else
    let (negative, rest) := Decimal.takeSign s
    let signed := rest.length != s.length
    let size :=
      if [".inf", ".Inf", ".INF"].contains (String.ofList rest) then some (1.0 / 0.0)
      else if signed && rest.head? == some '.' then none
      else positional? rest <|> sexagesimal? rest
    size.map fun x => if negative then -x else x

/-- The words that have a meaning as keys only. -/
def isKeyWord (s : String) : Bool := s = "=" ∨ s = "<<"

def read (s : String) : Except DocumentError Value :=
  if isNoneWord s then .ok .none
  else if isKeyWord s then .error .unexpected
  else
    match truth? s, float? s.toList, int? s.toList, Moment.read? s.toList with
    | some b, _, _, _ => .ok (.bool b)
    | none, some x, _, _ => .ok (.float x)
    | none, none, some n, _ => n.map .int
    | none, none, none, some moment => moment
    | none, none, none, none => .ok (.str s)

end BrowserFlow.Config.Scalar
