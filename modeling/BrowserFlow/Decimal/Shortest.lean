/-!
# The shortest decimal of a binary number

A finite number of 64 bits stands for every real that rounds to it. Among the decimals in that
interval the shortest is the one with the fewest digits, of these the nearest to the number, and of
two as near the even one. Everything is exact arithmetic on natural numbers: a decimal grid of one
digit count after the other is tried, and only the two grid points on either side of the number need
a look.
-/
namespace BrowserFlow.Decimal

/-- A nonnegative fraction. -/
structure Fraction where
  num : Nat
  den : Nat

/-- The fraction `n · 2 ^ two · 10 ^ ten`. -/
def Fraction.scaled (n : Nat) (two ten : Int) : Fraction where
  num := n * Nat.pow 2 two.toNat * Nat.pow 10 ten.toNat
  den := Nat.pow 2 (-two).toNat * Nat.pow 10 (-ten).toNat

def Fraction.lt (a b : Fraction) : Bool := a.num * b.den < b.num * a.den

def Fraction.le (a b : Fraction) : Bool := a.num * b.den ≤ b.num * a.den

/-- A positive number `mantissa · 2 ^ exponent`; `narrow` says that the gap below it is half the
gap above. -/
structure Binary where
  mantissa : Nat
  exponent : Int
  narrow : Bool

/-- The number `digits · 10 ^ exponent`. -/
structure Digits where
  digits : Nat
  exponent : Int
deriving DecidableEq, Repr

/-- How many decimal digits a natural number has; zero has none. -/
def digitCount (n : Nat) : Nat := if n = 0 then 0 else digitCount (n / 10) + 1

/-- Does `d · 10 ^ e` round to the number? The ends of its interval do when the mantissa is
even. -/
def Binary.holds (b : Binary) (d : Nat) (e : Int) : Bool :=
  let low := Fraction.scaled (4 * b.mantissa - if b.narrow then 1 else 2) (b.exponent - 2) 0
  let high := Fraction.scaled (4 * b.mantissa + 2) (b.exponent - 2) 0
  let x := Fraction.scaled d 0 e
  if b.mantissa % 2 = 0 then low.le x && x.le high else low.lt x && x.lt high

/-- The least `p` with the number below `10 ^ p`. -/
def Binary.magnitude (b : Binary) : Int :=
  let f := Fraction.scaled b.mantissa b.exponent 0
  if f.den ≤ f.num then digitCount (f.num / f.den)
  else 1 - Int.ofNat (digitCount ((f.den - 1) / f.num))

/-- The grid point of `count` digits that reads back as the number, if one does; the nearer of
two. -/
def Binary.onGrid (b : Binary) (count : Nat) : Option Digits :=
  let e := b.magnitude - count
  let f := Fraction.scaled b.mantissa b.exponent (-e)
  let d := f.num / f.den
  match b.holds d e, b.holds (d + 1) e with
  | true, true =>
    let twice := 2 * (f.num % f.den)
    if twice < f.den || (twice = f.den && d % 2 = 0) then some ⟨d, e⟩ else some ⟨d + 1, e⟩
  | true, false => some ⟨d, e⟩
  | false, true => some ⟨d + 1, e⟩
  | false, false => none

/-- Takes trailing zeros off the digits. -/
def Digits.normal (x : Digits) : Digits :=
  if h : x.digits ≠ 0 ∧ x.digits % 10 = 0 then normal ⟨x.digits / 10, x.exponent + 1⟩ else x
termination_by x.digits
decreasing_by exact Nat.div_lt_self (Nat.pos_of_ne_zero h.1) (by decide)

/-- Seventeen digits always suffice for 64 bits. -/
def Binary.shortest (b : Binary) : Digits :=
  (((List.range 17).findSome? fun k => b.onGrid (k + 1)).getD ⟨0, 0⟩).normal

/-- The mantissa and exponent of the absolute value of a finite nonzero float. -/
def ofFloat (x : Float) : Binary :=
  let bits := x.toBits.toNat
  let fraction := bits % Nat.pow 2 52
  let biased := bits / Nat.pow 2 52 % Nat.pow 2 11
  if biased = 0 then ⟨fraction, -1074, false⟩
  else ⟨Nat.pow 2 52 + fraction, Int.ofNat biased - 1075, fraction = 0 && 1 < biased⟩

/-- The sign bit, which negative zero has too. -/
def isNegative (x : Float) : Bool := Nat.pow 2 63 ≤ x.toBits.toNat

/-- The whole part of a finite float, rounded toward zero. -/
def truncated (x : Float) : Int :=
  let b := ofFloat x
  let size := b.mantissa * Nat.pow 2 b.exponent.toNat / Nat.pow 2 (-b.exponent).toNat
  if isNegative x then -Int.ofNat size else Int.ofNat size

/-- Has a finite float no fraction? -/
def isWhole (x : Float) : Bool :=
  let b := ofFloat x
  b.mantissa % Nat.pow 2 (-b.exponent).toNat = 0

/-- The greatest whole number that is not above a finite float. -/
def floor (x : Float) : Int := if isNegative x && !isWhole x then truncated x - 1 else truncated x

end BrowserFlow.Decimal
