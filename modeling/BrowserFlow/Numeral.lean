import BrowserFlow.Decimal.Reader
import BrowserFlow.Failure.Raised
import BrowserFlow.Text.Blank
import BrowserFlow.Text.Digit

/-!
# Numerals

A numeral is a sign, if any, and digits of any script, single underscores between them, with blanks
around it. A value that stands for a whole number is a number, cut toward zero, or a numeral; one
that stands for a float is a number, or a numeral that can have a point and an exponent. Reading a
numeral stops at a count of digits that no useful number has, and so does writing one for others to
read. That is a limit on numerals alone: a text that shows a value takes whole numbers of any length.
-/
namespace BrowserFlow.Numeral

/-- The most digits that are read or written. -/
def digitLimit : Nat := 4300

def tooLongToRead (count : Nat) : Raised :=
  .valueError ("Exceeds the limit (" ++ toString digitLimit ++
    " digits) for integer string conversion: value has " ++
    toString count ++ " digits; use sys.set_int_max_str_digits() to increase the limit")

def tooLongToWrite : Raised :=
  .valueError ("Exceeds the limit (" ++ toString digitLimit ++ " digits) for integer string " ++
    "conversion; use sys.set_int_max_str_digits() to increase the limit")

/-- The error shows what was given, as far as two hundred characters go. -/
def malformed (base : Nat) (shown : String) : Raised :=
  .valueError ("invalid literal for int() with base " ++ toString base ++ ": " ++
    String.ofList (shown.toList.take 200))

/-- The blanks of ASCII, without the separator controls. -/
def isPlainBlank (c : Char) : Bool := c == ' ' || (0x09 ≤ c.toNat && c.toNat ≤ 0x0d)

/-- A text with other than ASCII in it counts with the digits and blanks of all scripts. -/
def simplified (s : List Char) : List Char :=
  if s.all fun c => c.toNat < 0x80 then s
  else s.map fun c =>
    if c.toNat < 0x7f then c
    else if Text.isBlank c then ' '
    else
      match Text.digitValue? c with
      | some d => Char.ofNat ('0'.toNat + d)
      | none => '?'

/-- Do underscores stand one at a time and between digits only? -/
def isGrouped (run : List Char) : Bool :=
  run.head? != some '_' && run.getLast? != some '_' &&
    !(run.zip run.tail).any fun (a, b) => a == '_' && b == '_'

/-- The number that a text is the numeral of; `shown` is how an error shows the text. -/
def read (s : List Char) (shown : String) : Except Raised Int :=
  let (negative, unsigned) := Decimal.takeSign (s.dropWhile isPlainBlank)
  let isPart := fun (c : Char) => c.isDigit || c == '_'
  let run := unsigned.takeWhile isPart
  let digits := run.filter (· != '_')
  if digits.isEmpty || !isGrouped run then .error (malformed 10 shown)
  else if digitLimit < digits.length then .error (tooLongToRead digits.length)
  else if (unsigned.drop run.length).all isPlainBlank then
    match Decimal.digitsValue? 0 digits with
    | some n => .ok (if negative then -Int.ofNat n else Int.ofNat n)
    | none => .error (malformed 10 shown)
  else .error (malformed 10 shown)

/-- Do underscores stand between digits only? -/
def areGaps (before : Char) : List Char → Bool
  | [] => before != '_'
  | c :: rest =>
    (if c = '_' then before.isDigit else before != '_' || c.isDigit) && areGaps c rest

/-- The float that a text is the numeral of; `shown` is how an error shows the text. -/
def readReal (s : List Char) (shown : String) : Except Raised Float :=
  let numeral := Text.stripBy isPlainBlank s
  let digits :=
    if areGaps ' ' numeral then Decimal.readFloat? (String.ofList (numeral.filter (· != '_')))
    else none
  match digits with
  | some x => .ok x
  | none => .error (.valueError ("could not convert string to float: " ++ shown))

/-- The numeral of a number. -/
def write (n : Int) : Except Raised String :=
  let s := toString n
  if digitLimit < s.length - (if n < 0 then 1 else 0) then .error tooLongToWrite else .ok s

end BrowserFlow.Numeral

namespace BrowserFlow

/-- Is a whole number past the range of floats? The last of them is `2 ^ 1024 - 2 ^ 971`, and what
lies at least halfway from there to `2 ^ 1024` is past it. -/
def isPastFloats (n : Int) : Bool := 1 <<< 54 - 1 ≤ n.natAbs >>> 970

/-- The nearest float to a whole number; one past the range of floats has none. -/
def floatOfInt (n : Int) : Except Raised Float :=
  if isPastFloats n then
    .error (.ofText (.foreign "OverflowError") "int too large to convert to float")
  else .ok (Float.ofInt n)

/-- The whole number that a value stands for. -/
def Value.toWhole : Value → Except Raised Int
  | .int n => .ok n
  | .bool b => .ok (Number.ofBool b)
  | .float x =>
    if x.isNaN then .error (.valueError "cannot convert float NaN to integer")
    else if x.isInf then
      .error (.ofText (.foreign "OverflowError") "cannot convert float infinity to integer")
    else .ok (Decimal.truncated x)
  | .str s => Numeral.read (Numeral.simplified s.toList) (Value.str s).quoted
  | .bytes bs =>
    Numeral.read (bs.map fun b => Char.ofNat b.toNat) (Value.bytes (bs.take 200)).quoted
  | v => .error (.typeError
      ("int() argument must be a string, a bytes-like object or a real number, not '" ++
        v.fullTypeName ++ "'"))

/-- The float that a value stands for. -/
def Value.toFloat : Value → Except Raised Float
  | .int n => floatOfInt n
  | .bool b => floatOfInt (Number.ofBool b)
  | .float x => .ok x
  | .str s => Numeral.readReal (Numeral.simplified s.toList) (Value.str s).quoted
  | .bytes bs => Numeral.readReal (bs.map fun b => Char.ofNat b.toNat) (Value.bytes bs).quoted
  | v =>
    .error (.typeError
      ("float() argument must be a string or a real number, not '" ++ v.fullTypeName ++ "'"))

end BrowserFlow
