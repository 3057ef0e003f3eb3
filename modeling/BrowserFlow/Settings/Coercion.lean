import BrowserFlow.Decimal.Reader
import BrowserFlow.Settings.Basic
import BrowserFlow.Text.Blank
import BrowserFlow.Value

/-!
# Coercion of settings

What a raw value from a file or an environment is taken for, by the type of its field: numbers may
be given as texts, truth values as words. What cannot be taken for anything is refused with a word
for the reason.
-/
namespace BrowserFlow.Coercion

/-- Takes single underscores out from between the characters of a numeral; none if they stand
elsewhere. -/
def withoutGroups (s : List Char) : Option (List Char) :=
  let doubled := (s.zip s.tail).any fun (a, b) => a == '_' && b == '_'
  if s.head? == some '_' || s.getLast? == some '_' || doubled then none
  else some (s.filter (· != '_'))

/-- The characters between blanks, the separator controls not being among these. -/
def trimmed (s : String) : List Char := Text.stripBy Text.isWhite s.toList

def float : Value → Except String Float
  | .int n =>
    let x := Float.ofInt n
    if x.isInf then .error "float_type" else .ok x
  | .bool b => .ok (if b then 1 else 0)
  | .float x => .ok x
  | .str s =>
    match Decimal.readFloat? (String.ofList (trimmed s)) with
    | some x => .ok x
    | none =>
      match (withoutGroups s.toList).bind fun digits =>
          Decimal.readFloat? (String.ofList digits) with
      | some x => .ok x
      | none => .error "float_parsing"
  | _ => .error "float_type"

/-- How many digits a numeral of a whole number may have. -/
def digitLimit : Nat := 4300

/-- A numeral in its plain form: perhaps a minus, then digits with no zero in front of others. -/
def plainNumeral (s : List Char) : Except String Int :=
  let (negative, digits) :=
    match s with
    | '-' :: rest => (true, rest)
    | s => (false, s)
  let leadingZero := digits.head? == some '0' && 1 < digits.length
  match Decimal.digitsValue? 0 digits with
  | some n =>
    if digits.isEmpty || leadingZero then .error "int_parsing"
    else if digitLimit < digits.length then .error "int_parsing_size"
    else .ok (if negative then -Int.ofNat n else Int.ofNat n)
  | none => .error "int_parsing"

/-- Takes zeros off the front of a numeral, with underscores between them; of nothing but zeros the
last is left, and of zeros before a point, too. -/
def withoutLeadingZeros (s : List Char) : Option (List Char) :=
  let isStart := fun c => '1' ≤ c && c ≤ '9' || c == '-'
  match s with
  | [] => none
  | '0' :: rest =>
    match rest.dropWhile fun c => c == '0' || c == '_' with
    | [] => some [s.getLastD '0']
    | '.' :: after => some (s.getD (s.length - after.length - 2) '0' :: '.' :: after)
    | c :: after => if isStart c then some (c :: after) else none
  | c :: _ => if isStart c then some s else none

/-- Takes a fraction of zeros, at least one, off the end of a numeral. -/
def withoutZeroFraction (s : List Char) : List Char :=
  match s.dropWhile (· != '.') with
  | '.' :: '0' :: rest => if rest.all (· == '0') then s.takeWhile (· != '.') else s
  | _ => s

/-- The plain form of a numeral that may have a plus in front, zeros before and after, and groups of
digits. -/
def cleanedNumeral (s : List Char) : Option (List Char) :=
  let clean := fun digits => do withoutGroups (withoutZeroFraction (← withoutLeadingZeros digits))
  match s with
  | '-' :: digits => (clean digits).map ('-' :: ·)
  | '+' :: '-' :: _ => none
  | '+' :: digits => clean digits
  | digits => clean digits

def numeral (s : String) : Except String Int :=
  match plainNumeral (trimmed s) with
  | .error "int_parsing" =>
    match cleanedNumeral (trimmed s) with
    | some plain => plainNumeral plain
    | none => .error "int_parsing"
  | result => result

/-- The whole number that a float without fraction is, if 64 bits hold it. -/
def narrow? (x : Float) : Option Int :=
  let n := Decimal.truncated x
  if Nat.blt n.natAbs (Nat.pow 2 63) then some n else none

def int : Value → Except String Int
  | .int n => .ok n
  | .bool b => .ok (if b then 1 else 0)
  | .float x =>
    if x.isNaN || x.isInf then .error "finite_number"
    else if !Decimal.isWhole x then .error "int_from_float"
    else
      match narrow? x with
      | some n => .ok n
      | none => .error "int_parsing_size"
  | .str s => numeral s
  | _ => .error "int_type"

def truth (n : Int) : Except String Bool :=
  if n = 1 then .ok true else if n = 0 then .ok false else .error "bool_parsing"

/-- Does a signed word of 64 bits hold the number? -/
def fitsWord (n : Int) : Bool := -Int.ofNat (Nat.pow 2 63) ≤ n && n < Int.ofNat (Nat.pow 2 63)

def bool : Value → Except String Bool
  | .bool b => .ok b
  | .int n => if fitsWord n then truth n else .error "bool_type"
  | .float x =>
    if x.isNaN || x.isInf || !Decimal.isWhole x then .error "bool_type"
    else
      match narrow? x with
      | some n => truth n
      | none => .error "bool_type"
  | .str s =>
    let word := s.toLower
    if ["0", "off", "f", "false", "n", "no"].contains word then .ok false
    else if ["1", "on", "t", "true", "y", "yes"].contains word then .ok true
    else .error "bool_parsing"
  | _ => .error "bool_type"

/-- A policy is named exactly. -/
def policy : Value → Except String BackoffPolicy
  | .str s =>
    match BackoffPolicy.ofWord? s with
    | some p => .ok p
    | none => .error "literal_error"
  | _ => .error "literal_error"

def positive (x : Float) : Except String Float := if 0 < x then .ok x else .error "greater_than"

def notNegative (x : Float) : Except String Float :=
  if 0 ≤ x then .ok x else .error "greater_than_equal"

def notNegativeInt (n : Int) : Except String Int :=
  if 0 ≤ n then .ok n else .error "greater_than_equal"

end BrowserFlow.Coercion
