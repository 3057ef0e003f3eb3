import BrowserFlow.Failure.Raised
import BrowserFlow.Text.Blank
import BrowserFlow.Text.Case
import BrowserFlow.Text.Search

/-!
# Redaction

What a step line may not show. A key is sensitive when its lower case has one of the secret words in
it; a text is sensitive when, trimmed, it looks like a bearer credential, a signed web token or a
long opaque token; secrets are always sensitive. Redacting a value puts a mask over each sensitive
part and keeps the shape around it.
-/
namespace BrowserFlow

/-- What stands in the place of sensitive content. -/
def mask : String := "********"

namespace Redaction

def secretWords : List String :=
  ["password", "passwd", "secret", "token", "apikey", "api_key", "auth", "cookie", "session",
    "private_key", "jwt", "bearer", "credential"]

def isSensitiveKey (key : String) : Bool :=
  let folded := (Text.lower key).toList
  secretWords.any fun word => Text.occursIn word.toList folded

/-- Is a key sensitive? A key has to be a text, since its lower case is searched for texts. -/
def readKey (key : Value) : Except Raised Bool :=
  match key with
  | .str s => .ok (isSensitiveKey s)
  | .bytes _ => .error (.typeError "a bytes-like object is required, not 'str'")
  | v => .error (.noAttribute v.fullTypeName "lower")

/-- Letters, digits, underscore and dash. -/
def isTokenChar (c : Char) : Bool := c.isAlphanum || c == '_' || c == '-'

/-- The characters of a bearer credential. Its letters are matched without regard to case, so the
long s, the Kelvin sign and the dotted and dotless i count as letters. -/
def isBearerChar (c : Char) : Bool :=
  c.isAlphanum || "-._~+/\u017f\u212a\u0130\u0131".toList.contains c

/-- The word, blanks, a credential, and padding to the end. -/
def isBearer (s : List Char) : Bool :=
  let word := s.take 6
  let rest := s.drop 6
  let credential := rest.dropWhile Text.isBlank
  let padding := credential.dropWhile isBearerChar
  word.map Char.toLower == "bearer".toList && rest.length != credential.length &&
    credential.length != padding.length && padding.all (· == '=')

/-- Three parts between dots, of token characters and none empty, the first longer than its fixed
start. -/
def isSignedToken (s : List Char) : Bool :=
  let first := s.takeWhile isTokenChar
  match s.dropWhile isTokenChar with
  | '.' :: rest =>
    let second := rest.takeWhile isTokenChar
    match rest.dropWhile isTokenChar with
    | '.' :: third =>
      "eyJ".toList.isPrefixOf first && 3 < first.length && !second.isEmpty && !third.isEmpty &&
        third.all isTokenChar
    | _ => false
  | _ => false

def isOpaqueToken (s : List Char) : Bool := 32 ≤ s.length && s.all isTokenChar

def isSensitiveText (s : String) : Bool :=
  let content := Text.stripBy Text.isBlank s.toList
  isBearer content || isSignedToken content || isOpaqueToken content

def isSensitive : Value → Bool
  | .secret _ | .secretBytes _ => true
  | .str s => isSensitiveText s
  | _ => false

/-- Is the value under this key masked? Nothing is never masked. -/
def masksEntry (key value : Value) : Bool :=
  !value.isNone && (isSensitiveKey key.text || isSensitive value)

end Redaction

open Redaction in
mutual

/-- Masks each sensitive part of a value. -/
def Value.redacted : Value → Value
  | .list items => .list (redactedAll items)
  | .tuple items => .tuple (redactedAll items)
  | .dict entries => .dict (redactedEntries entries)
  | v => if isSensitive v then .str mask else v

def redactedAll : List Value → List Value
  | [] => []
  | v :: vs => v.redacted :: redactedAll vs

def redactedEntries : List (Value × Value) → List (Value × Value)
  | [] => []
  | (k, v) :: rest => (k, if masksEntry k v then .str mask else v.redacted) :: redactedEntries rest

end

end BrowserFlow
