/-!
# Reading a number

A decimal numeral is an optional sign, digits with an optional point, and an optional exponent; its
value is the nearest float. The words for what is not finite are read in any letter case.
-/
namespace BrowserFlow.Decimal

/-- The value of a run of digits, continuing from `acc`; none at a character that is no digit. -/
def digitsValue? (acc : Nat) : List Char → Option Nat
  | [] => some acc
  | c :: rest => if c.isDigit then digitsValue? (10 * acc + (c.toNat - '0'.toNat)) rest else none

/-- Takes a sign off the front; true for minus. -/
def takeSign : List Char → Bool × List Char
  | '-' :: rest => (true, rest)
  | '+' :: rest => (false, rest)
  | s => (false, s)

/-- A signed whole number, of at least one digit. -/
def readInt? (s : List Char) : Option Int :=
  let (negative, rest) := takeSign s
  if rest.isEmpty then none
  else (digitsValue? 0 rest).map fun n => if negative then -Int.ofNat n else Int.ofNat n

/-- The nearest float to `mantissa · 10 ^ exponent`; exponents past the range of floats are not
raised. -/
def toFloat (mantissa : Nat) (exponent : Int) : Float :=
  let size := exponent + (toString mantissa).length
  if mantissa = 0 then 0
  else if 400 < size then 1.0 / 0.0
  else if size < -400 then 0
  else Float.ofScientific mantissa (exponent < 0) exponent.natAbs

/-- The unsigned part of a numeral: digits with at most one point, at least one digit, then perhaps
an exponent. -/
def readUnsigned? (s : List Char) : Option Float :=
  let whole := s.takeWhile Char.isDigit
  let afterWhole := s.dropWhile Char.isDigit
  let (fraction, afterFraction) :=
    match afterWhole with
    | '.' :: rest => (rest.takeWhile Char.isDigit, rest.dropWhile Char.isDigit)
    | _ => ([], afterWhole)
  if whole.isEmpty && fraction.isEmpty then none
  else
    let exponent? :=
      match afterFraction with
      | [] => some 0
      | c :: rest => if c = 'e' ∨ c = 'E' then readInt? rest else none
    match digitsValue? 0 (whole ++ fraction), exponent? with
    | some mantissa, some exponent => some (toFloat mantissa (exponent - fraction.length))
    | _, _ => none

/-- A numeral or a word for an infinity or for what is not a number. -/
def readFloat? (s : String) : Option Float :=
  let (negative, rest) := takeSign s.toList
  let word := (String.ofList rest).toLower
  let magnitude :=
    if word = "inf" ∨ word = "infinity" then some (1.0 / 0.0)
    else if word = "nan" then some (0.0 / 0.0)
    else readUnsigned? rest
  magnitude.map fun x => if negative then -x else x

end BrowserFlow.Decimal
