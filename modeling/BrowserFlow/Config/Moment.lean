import BrowserFlow.Config.DocumentError

/-!
# Dates and times

A date is a year of four digits, a month and a day; a time can follow, to fractions of a second and
with an offset. What has the form of a date or a time and is none is refused with the first of its
parts that is out of range.
-/
namespace BrowserFlow.Config.Moment

def isLeap (year : Nat) : Bool := year % 4 == 0 && (year % 100 != 0 || year % 400 == 0)

def daysIn (year month : Nat) : Nat :=
  if month = 2 then (if isLeap year then 29 else 28)
  else if [4, 6, 9, 11].contains month then 30 else 31

structure Date where
  year : Nat
  month : Nat
  day : Nat
deriving DecidableEq, Repr

/-- An offset from universal time in minutes; the sign is apart, as it is in the written form. -/
structure Offset where
  negative : Bool
  minutes : Nat
deriving DecidableEq, Repr

structure Time where
  hour : Nat
  minute : Nat
  second : Nat
  micros : Nat
  offset : Option Offset
deriving DecidableEq, Repr

/-- A number with zeros in front up to a width. -/
def padded (width n : Nat) : String :=
  let s := toString n
  String.ofList (List.replicate (width - s.length) '0') ++ s

/-- Takes between `least` and `most` digits off the front, as many as there are. -/
def takeNumber (least most : Nat) (s : List Char) : Option (Nat × List Char) :=
  let digits := (s.take most).takeWhile Char.isDigit
  if digits.length < least then none
  else some (digits.foldl (fun n c => 10 * n + (c.toNat - '0'.toNat)) 0, s.drop digits.length)

def takeChar (c : Char) : List Char → Option (List Char)
  | d :: rest => if c = d then some rest else none
  | [] => none

def isGap (c : Char) : Bool := c == ' ' || c == '\t'

/-- A year, a month and a day, with as many digits at least as are asked for. -/
def takeDate (least : Nat) (s : List Char) : Option (Date × List Char) := do
  let (year, s) ← takeNumber 4 4 s
  let s ← takeChar '-' s
  let (month, s) ← takeNumber least 2 s
  let s ← takeChar '-' s
  let (day, s) ← takeNumber least 2 s
  return (⟨year, month, day⟩, s)

/-- The offset that the rest of a text is. -/
def readOffset (s : List Char) : Option (Option Offset) :=
  match s.dropWhile isGap with
  | [] => if s.isEmpty then some none else none
  | ['Z'] => some (some ⟨false, 0⟩)
  | sign :: rest =>
    if sign = '+' ∨ sign = '-' then do
      let (hours, rest) ← takeNumber 1 2 rest
      let minutes ← match rest with
        | [] => some 0
        | ':' :: rest => do
          let (minutes, rest) ← takeNumber 2 2 rest
          if rest.isEmpty then some minutes else none
        | _ => none
      return some ⟨sign = '-', 60 * hours + minutes⟩
    else none

/-- The parts of a second, of which six digits count. -/
def micros (digits : List Char) : Nat :=
  let counted := digits.take 6
  counted.foldl (fun n c => 10 * n + (c.toNat - '0'.toNat)) 0 * Nat.pow 10 (6 - counted.length)

/-- The time that the rest of a text is, with what divides it from the date. -/
def readTime (s : List Char) : Option Time := do
  let s ← match s with
    | 'T' :: rest | 't' :: rest => some rest
    | c :: _ => if isGap c then some (s.dropWhile isGap) else none
    | [] => none
  let (hour, s) ← takeNumber 1 2 s
  let s ← takeChar ':' s
  let (minute, s) ← takeNumber 2 2 s
  let s ← takeChar ':' s
  let (second, s) ← takeNumber 2 2 s
  let (fraction, s) := match s with
    | '.' :: rest => (rest.takeWhile Char.isDigit, rest.dropWhile Char.isDigit)
    | s => ([], s)
  return ⟨hour, minute, second, micros fraction, ← readOffset s⟩

def outOfRange (message : String) : Except DocumentError Unit :=
  .error (.refused (.valueError message))

def Date.check (d : Date) : Except DocumentError Unit :=
  if d.year = 0 then outOfRange "year 0 is out of range"
  else if d.month < 1 ∨ 12 < d.month then outOfRange "month must be in 1..12"
  else if d.day < 1 ∨ daysIn d.year d.month < d.day then
    outOfRange "day is out of range for month"
  else .ok ()

/-- A length of time as days and seconds, the days below zero if it is negative. -/
def Offset.parts (o : Offset) : Int × Int :=
  let seconds : Int := 60 * o.minutes
  let seconds := if o.negative then -seconds else seconds
  (Int.fdiv seconds 86400, Int.fmod seconds 86400)

/-- An offset of a day or more is none. -/
def Offset.check (o : Offset) : Except DocumentError Unit :=
  if o.minutes < 1440 then .ok ()
  else
    let (days, seconds) := o.parts
    outOfRange ("offset must be a timedelta strictly between -timedelta(hours=24) and " ++
      "timedelta(hours=24), not datetime.timedelta(days=" ++ toString days ++
      (if seconds = 0 then "" else ", seconds=" ++ toString seconds) ++ ").")

def Time.check (t : Time) : Except DocumentError Unit :=
  if 23 < t.hour then outOfRange "hour must be in 0..23"
  else if 59 < t.minute then outOfRange "minute must be in 0..59"
  else if 59 < t.second then outOfRange "second must be in 0..59"
  else .ok ()

def Date.text (d : Date) : String :=
  padded 4 d.year ++ "-" ++ padded 2 d.month ++ "-" ++ padded 2 d.day

def Offset.text (o : Offset) : String :=
  (if o.negative && o.minutes != 0 then "-" else "+") ++ padded 2 (o.minutes / 60) ++ ":" ++
    padded 2 (o.minutes % 60)

def Time.text (t : Time) : String :=
  padded 2 t.hour ++ ":" ++ padded 2 t.minute ++ ":" ++ padded 2 t.second ++
    (if t.micros = 0 then "" else "." ++ padded 6 t.micros) ++ (t.offset.map (·.text)).getD ""

/-- The date, or the date and time, that a text has the form of. -/
def read? (s : List Char) : Option (Except DocumentError Value) :=
  match takeDate 2 s with
  | some (date, []) => some (do date.check; return .other "date" date.text)
  | _ => do
    let (date, rest) ← takeDate 1 s
    let time ← readTime rest
    return do
      if let some offset := time.offset then offset.check
      date.check
      time.check
      return .other "datetime" (date.text ++ " " ++ time.text)

end BrowserFlow.Config.Moment
