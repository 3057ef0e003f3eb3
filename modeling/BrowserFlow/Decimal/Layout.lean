import BrowserFlow.Decimal.Shortest

/-!
# Writing a number

How the shortest digits of a number are laid out is one record: between which exponents the notation
is positional, how wide an exponent is at least, and the words for what is not finite. Positional
numbers keep a fraction of at least one digit.
-/
namespace BrowserFlow.Decimal

/-- The choices in writing a number down. -/
structure Layout where
  lowestPositional : Int
  highestPositional : Int
  exponentWidth : Nat
  infinity : String
  notANumber : String

/-- Positional from `0.0001` up to sixteen digits before the point; an exponent has a sign and two
digits or more. -/
def Layout.plain : Layout := ⟨-4, 15, 2, "inf", "nan"⟩

/-- The same with the words that records in object notation use. -/
def Layout.record : Layout := ⟨-4, 15, 2, "Infinity", "NaN"⟩

def zeros (n : Nat) : String := String.ofList (List.replicate n '0')

def padLeft (width : Nat) (s : String) : String := zeros (width - s.length) ++ s

/-- Digits with the power of ten of the first one at `lead`. -/
def Layout.writeDigits (layout : Layout) (x : Digits) : String :=
  let text := toString x.digits
  let count := text.length
  let lead := x.exponent + count - 1
  let cut := fun k => (String.ofList (text.toList.take k), String.ofList (text.toList.drop k))
  if layout.lowestPositional ≤ lead ∧ lead ≤ layout.highestPositional then
    if lead < 0 then "0." ++ zeros (-lead - 1).toNat ++ text
    else if x.exponent ≥ 0 then text ++ zeros x.exponent.toNat ++ ".0"
    else let (whole, rest) := cut (lead + 1).toNat; whole ++ "." ++ rest
  else
    let (first, rest) := cut 1
    let sign := if lead < 0 then "-" else "+"
    first ++ (if rest.isEmpty then "" else "." ++ rest) ++ "e" ++ sign ++
      padLeft layout.exponentWidth (toString lead.natAbs)

/-- The written form of a float: the fewest digits that read back as it. -/
def Layout.write (layout : Layout) (x : Float) : String :=
  let sign := if isNegative x then "-" else ""
  if x.isNaN then layout.notANumber
  else if x.isInf then sign ++ layout.infinity
  else if x == 0 then sign ++ "0.0"
  else sign ++ layout.writeDigits (ofFloat x).shortest

end BrowserFlow.Decimal
