import BrowserFlow.Text.Digit

/-!
# Numeric host addresses

The written forms of a host that is named by a number. A version 4 address is four decimal parts
between points. A version 6 address is eight groups of hexadecimal digits between colons, of which
one run may be left out between two colons; the last two groups can be written as a version 4
address, and a zone can follow after a percent sign. A later version is a marker, its number, a
point and anything.
-/
namespace BrowserFlow.HostAddress

/-- A number up to 255 without zeros in front. -/
def isOctet (s : String) : Bool :=
  match s.toList with
  | ['0'] => true
  | '0' :: _ => false
  | digits => digits.all Char.isDigit && (s.toNat?.any (· ≤ 255))

def isVersion4 (s : String) : Bool :=
  let parts := s.splitOn "."
  parts.length == 4 && parts.all isOctet

/-- One to four hexadecimal digits. -/
def isGroup (s : String) : Bool :=
  1 ≤ s.length && s.length ≤ 4 && s.toList.all fun c => (Text.hexValue? c).isSome

/-- The groups with a version 4 address at the end read as two groups. -/
def expanded (groups : List String) : Option (List String) :=
  let last := groups.getLastD ""
  if !last.contains '.' then some groups
  else if isVersion4 last then some (groups.dropLast ++ ["0", "0"])
  else none

/-- The groups on one side of the gap; where the gap is at an end of the address there are none. -/
def beside (groups : List String) : List String := if groups = [""] then [] else groups

/-- Are these the groups of an address, the gap among them being empty? -/
def areGroups (groups : List String) : Bool :=
  match groups with
  | first :: rest =>
    let inner := rest.dropLast
    match inner.dropWhile (!·.isEmpty) with
    | [] => groups.length == 8 && groups.all isGroup
    | _ :: after =>
      let high := beside (first :: inner.takeWhile (!·.isEmpty))
      let low := beside (after ++ rest.drop inner.length)
      high.all isGroup && low.all isGroup && high.length + low.length ≤ 7
  | [] => false

/-- The part before the zone, if the zone is well-formed or there is none. -/
def withoutZone (s : String) : Option String :=
  match s.splitOn "%" with
  | [address] => some address
  | [address, zone] => if zone.isEmpty then none else some address
  | _ => none

def isVersion6 (s : String) : Bool :=
  match withoutZone s with
  | none => false
  | some address =>
    let groups := address.splitOn ":"
    3 ≤ groups.length && !address.contains '/' && (expanded groups).any areGroups

/-- The form of an address of a version to come, its marker aside. -/
def isLaterVersion (afterMarker : String) : Bool :=
  let s := afterMarker.toList
  let isHex := fun c => (Text.hexValue? c).isSome
  match s.dropWhile isHex with
  | '.' :: _ :: _ => (s.head?.any isHex) && !s.contains '\n'
  | _ => false

end BrowserFlow.HostAddress
