import BrowserFlow.Failure.Raised

/-!
# Equality and order of values

Numbers are equal by size, whatever form they were given in; texts, bytes and secrets by content;
sequences part by part. Errors, functions and callable things are equal to nothing, since each one
that is given is a thing of its own. Numbers, texts, bytes and sequences have an order among
themselves; nothing else has.
-/
namespace BrowserFlow.Value

mutual

def equals : Value → Value → Bool
  | none, none => true
  | str a, str b => a == b
  | bytes a, bytes b => a == b
  | secret a, secret b => a == b
  | secretBytes a, secretBytes b => a == b
  | list xs, list ys => equalsAll xs ys
  | tuple xs, tuple ys => equalsAll xs ys
  | dict xs, dict ys => xs == ys
  | failure kind message step errorType, failure kind' message' step' errorType' =>
    kind == kind' && message == message' && step == step' && errorType == errorType'
  | locator a, locator b => a == b
  | element a, element b => a == b
  | other kind text, other kind' text' => kind == kind' && text == text'
  | bool a, v => numberEquals (.truth a) v
  | int a, v => numberEquals (.whole a) v
  | float a, v => numberEquals (.real a) v
  | _, _ => false
where
  numberEquals (n : Number) (v : Value) : Bool := v.number?.any n.equals

def equalsAll : List Value → List Value → Bool
  | [], [] => true
  | x :: xs, y :: ys => x.equals y && equalsAll xs ys
  | _, _ => false

end

def incomparable (r : Relation) (a b : Value) : Raised :=
  .typeError ("'" ++ r.symbol ++ "' not supported between instances of '" ++ a.fullTypeName ++
    "' and '" ++ b.fullTypeName ++ "'")

def orderOf {α : Type} [Ord α] (r : Relation) (a b : α) : Except Raised Bool :=
  .ok (r.holds (compare a b))

/-- Bytes as the numbers that they are ordered by. -/
def byteNumbers (bs : List UInt8) : List Nat := bs.map (·.toNat)

mutual

/-- Does the relation hold? Two sequences compare by the first of their parts that differ, or by
length. -/
def relate (r : Relation) : Value → Value → Except Raised Bool
  | str a, str b => .ok (r.holds (compareOfLessAndEq a b))
  | bytes a, bytes b => .ok (r.holds (compareOfLessAndEq (byteNumbers a) (byteNumbers b)))
  | list xs, list ys => relateAll r xs ys
  | tuple xs, tuple ys => relateAll r xs ys
  | a, b =>
    match a.number?, b.number? with
    | .some m, .some n => .ok (m.relate r n)
    | _, _ => .error (incomparable r a b)

def relateAll (r : Relation) : List Value → List Value → Except Raised Bool
  | [], [] => orderOf r 0 0
  | [], _ :: _ => orderOf r 0 1
  | _ :: _, [] => orderOf r 1 0
  | x :: xs, y :: ys => if x.equals y then relateAll r xs ys else x.relate r y

end

/-! ### Sorting -/

/-- How many values at the front are in order already, each at least as great as the one before it,
or each less. -/
def runLength (descending : Bool) : List Value → Except Raised Nat
  | [] => .ok 0
  | [_] => .ok 1
  | a :: b :: rest => do
    if (← b.relate .below a) == descending then return 1 + (← runLength descending (b :: rest))
    else return 1

/-- The place among sorted values after all that a value is not below, found by halving between two
bounds. -/
def insertionPlace (v : Value) (sorted : List Value) : Nat → Nat → Nat → Except Raised Nat
  | 0, low, _ => .ok low
  | fuel + 1, low, high =>
    if high ≤ low then .ok low
    else do
      let middle := low + (high - low) / 2
      if ← v.relate .below (sorted.getD middle none) then insertionPlace v sorted fuel low middle
      else insertionPlace v sorted fuel (middle + 1) high

def insertSorted (sorted : List Value) (v : Value) : Except Raised (List Value) := do
  let place ← insertionPlace v sorted sorted.length 0 sorted.length
  return sorted.take place ++ v :: sorted.drop place

/-- Values in ascending order, if they have one. The run at the front is kept, turned round if it
descends, and every other value is inserted into it. -/
def sorted (vs : List Value) : Except Raised (List Value) :=
  match vs with
  | [] => .ok []
  | [v] => .ok [v]
  | a :: b :: _ => do
    let descending ← b.relate .below a
    let count ← runLength descending vs
    let run := vs.take count
    (vs.drop count).foldlM insertSorted (if descending then run.reverse else run)

end BrowserFlow.Value
