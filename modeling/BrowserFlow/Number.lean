import BrowserFlow.Decimal.Layout

/-!
# Numbers as they are given

A number is given as a whole number, as a float, or as a truth value, which counts as one or zero;
it keeps the form that it was given in, since that is how it is shown. Comparing is exact: no whole
number is rounded to a float for it. What is not a number compares with nothing.
-/
namespace BrowserFlow

/-- The ways to ask how two things compare. -/
inductive Relation
  | below | atMost | above | atLeast
deriving DecidableEq, Repr

namespace Relation

def symbol : Relation → String
  | below => "<"
  | atMost => "<="
  | above => ">"
  | atLeast => ">="

def holds : Relation → Ordering → Bool
  | below, o => o == .lt
  | atMost, o => o != .gt
  | above, o => o == .gt
  | atLeast, o => o != .lt

end Relation

inductive Number
  | whole (n : Int)
  | truth (b : Bool)
  | real (x : Float)
deriving DecidableEq, Repr

namespace Number

def ofBool (b : Bool) : Int := if b then 1 else 0

/-- The written form: a truth value is a word. -/
def text : Number → String
  | whole n => toString n
  | truth b => if b then "True" else "False"
  | real x => Decimal.Layout.plain.write x

/-- A whole number against a float; the float is looked at on both sides of its fraction. -/
def compareToFloat (n : Int) (x : Float) : Option Ordering :=
  if x.isNaN then none
  else if x.isInf then some (if Decimal.isNegative x then .gt else .lt)
  else if Decimal.floor x < n then some .gt
  else if Decimal.floor x = n ∧ Decimal.isWhole x then some .eq
  else some .lt

def compareFloats (x y : Float) : Option Ordering :=
  if x < y then some .lt else if x == y then some .eq else if y < x then some .gt else none

/-- How two numbers compare, unless one of them is not a number. -/
def compare? (a b : Number) : Option Ordering :=
  match a, b with
  | real x, real y => compareFloats x y
  | real x, whole n => (compareToFloat n x).map Ordering.swap
  | real x, truth b => (compareToFloat (ofBool b) x).map Ordering.swap
  | whole n, real y => compareToFloat n y
  | truth b, real y => compareToFloat (ofBool b) y
  | whole m, whole n => some (compare m n)
  | whole m, truth b => some (compare m (ofBool b))
  | truth a, whole n => some (compare (ofBool a) n)
  | truth a, truth b => some (compare (ofBool a) (ofBool b))

def equals (a b : Number) : Bool := a.compare? b == some .eq

def relate (r : Relation) (a b : Number) : Bool := (a.compare? b).any r.holds

/-- The number as a whole number, if it was not given as a float. -/
def whole? : Number → Option Int
  | whole n => some n
  | truth b => some (ofBool b)
  | real _ => none

/-- Adds a whole number to another number; a float stays a float. -/
def plus (n : Int) : Number → Number
  | whole m => whole (n + m)
  | truth b => whole (n + ofBool b)
  | real x => real (Float.ofInt n + x)

/-- Zero is the one number that counts as false. -/
def isTrue : Number → Bool
  | whole n => n != 0
  | truth b => b
  | real x => x != 0

end Number

end BrowserFlow
