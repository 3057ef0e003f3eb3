import BrowserFlow.Failure.Raised
import BrowserFlow.Session.HostAddress

/-!
# Start addresses

The address of the first page of a session. Only its scheme and the shape of its host are looked at:
leading controls and spaces, and tabs and line breaks anywhere, are passed over for that, but the
address is used as it was given. A host may not have one bracket without the other, nor anything but
a numeric address between them, nor a character that a browser would take for a separator after
normalizing the name.
-/
namespace BrowserFlow.StartUrl

def allowedSchemes : List String := ["http", "https", "file", "about", "data"]

/-- What is looked at of an address. -/
def cleaned (s : String) : List Char :=
  (s.toList.dropWhile (·.toNat ≤ 0x20)).filter fun c => c != '\t' && c != '\r' && c != '\n'

def isSchemeChar (c : Char) : Bool := c.isAlphanum || c == '+' || c == '-' || c == '.'

/-- The scheme in lower case, which may be missing, and what comes after it. -/
def splitScheme (s : List Char) : List Char × List Char :=
  let before := s.takeWhile (· != ':')
  match before, s.dropWhile (· != ':') with
  | first :: _, _ :: after =>
    if first.isAlpha && before.all isSchemeChar then (before.map Char.toLower, after) else ([], s)
  | _, _ => ([], s)

/-- The host with what surrounds it, between two slashes and the next separator. -/
def host : List Char → List Char
  | '/' :: '/' :: rest => rest.takeWhile fun c => c != '/' && c != '?' && c != '#'
  | _ => []

/-- The characters that turn into text with a separator in it when a name is normalized. -/
def separatorLookalikes : List Nat :=
  [0x2047, 0x2048, 0x2049, 0x2100, 0x2101, 0x2105, 0x2106, 0x2a74, 0xfe13, 0xfe16, 0xfe55, 0xfe56,
    0xfe5f, 0xfe6b, 0xff03, 0xff0f, 0xff1a, 0xff1f, 0xff20]

def malformed : Raised := .valueError "Invalid IPv6 URL"

/-- A host in brackets is a numeric address of version 6 or later. -/
def checkNumeric (name : String) : Except Raised Unit :=
  match name.toList with
  | 'v' :: rest =>
    if HostAddress.isLaterVersion (String.ofList rest) then .ok ()
    else .error (.valueError "IPvFuture address is invalid")
  | _ =>
    if HostAddress.isVersion6 name then .ok ()
    else if HostAddress.isVersion4 name then
      .error (.valueError "An IPv4 address cannot be in brackets")
    else .error (.valueError (Text.quoted name ++ " does not appear to be an IPv4 or IPv6 address"))

/-- What comes after the last sign that ends the name of a user. -/
def withoutUser (h : String) : String := (h.splitOn "@").getLastD ""

/-- A host with both brackets: nothing stands before them, and what stands after them starts with a
colon. -/
def checkBracketed (h : String) : Except Raised Unit :=
  let place := withoutUser h
  match place.splitOn "[" with
  | [] | [_] => checkNumeric ((place.splitOn ":").headD "")
  | before :: inside =>
    let content := "[".intercalate inside
    let name := (content.splitOn "]").headD ""
    let after := content.toList.drop (name.length + 1)
    if !before.isEmpty || (!after.isEmpty && after.head? != some ':') then .error malformed
    else checkNumeric name

def checkHost (h : List Char) : Except Raised Unit := do
  if h.contains '[' != h.contains ']' then throw malformed
  if h.contains '[' then checkBracketed (String.ofList h)
  if h.any fun c => separatorLookalikes.contains c.toNat then
    throw (.valueError
      ("netloc '" ++ String.ofList h ++ "' contains invalid characters under NFKC normalization"))

def unsupported (scheme : String) : Raised :=
  .session ("Unsupported URL scheme: " ++ (if scheme.isEmpty then "<none>" else scheme) ++
    " (allowed: " ++ ", ".intercalate allowedSchemes ++ ")")

/-- An address that a session can start at. -/
def read (v : Value) : Except Raised String :=
  if !v.isTrue then .error (.session "Start page URL is required")
  else do
    let text ← v.readText
    let (scheme, rest) := splitScheme (cleaned text)
    checkHost (host rest)
    let scheme := String.ofList scheme
    if allowedSchemes.contains scheme then .ok text else .error (unsupported scheme)

end BrowserFlow.StartUrl
