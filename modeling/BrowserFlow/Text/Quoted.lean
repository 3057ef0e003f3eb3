import BrowserFlow.Text.Printable

/-!
# Quoted text

The written form of a text or a byte string inside a line: single quotes, or double quotes when the
content has a single quote and no double one. The quote in use, the backslash and everything that
does not print are escaped, so a quoted text is one line of printable characters whatever it holds.
-/
namespace BrowserFlow.Text

def hexDigit (n : Nat) : Char := "0123456789abcdef".toList.getD n '?'

/-- A number in lower-case hexadecimal with a fixed count of digits. -/
def hexDigits : Nat → Nat → List Char
  | 0, _ => []
  | width + 1, n => hexDigits width (n / 16) ++ [hexDigit (n % 16)]

def quoteFor (content : List Char) : Char :=
  if content.contains '\'' && !content.contains '"' then '"' else '\''

/-- The shortest escape that holds the code point of a character. -/
def codeEscape (c : Char) : List Char :=
  if c.toNat < 0x100 then '\\' :: 'x' :: hexDigits 2 c.toNat
  else if c.toNat < 0x10000 then '\\' :: 'u' :: hexDigits 4 c.toNat
  else '\\' :: 'U' :: hexDigits 8 c.toNat

/-- One character inside quotes, escaped or as itself. -/
def escapeChar (quote c : Char) : List Char :=
  if c = quote ∨ c = '\\' then ['\\', c]
  else if c = '\n' then ['\\', 'n']
  else if c = '\r' then ['\\', 'r']
  else if c = '\t' then ['\\', 't']
  else if isPrintable c then [c]
  else codeEscape c

def quotedChars (content : List Char) : List Char :=
  let quote := quoteFor content
  quote :: content.flatMap (escapeChar quote) ++ [quote]

def quoted (s : String) : String := String.ofList (quotedChars s.toList)

/-- One byte inside quotes; only ASCII shows as itself. -/
def escapeByte (quote : Char) (b : UInt8) : List Char :=
  let c := Char.ofNat b.toNat
  if b.toNat < 0x7f then escapeChar quote c else '\\' :: 'x' :: hexDigits 2 b.toNat

/-- A byte string, marked by a leading `b`. -/
def quotedBytes (bytes : List UInt8) : String :=
  let quote := quoteFor (bytes.map fun b => Char.ofNat b.toNat)
  String.ofList ('b' :: quote :: bytes.flatMap (escapeByte quote) ++ [quote])

end BrowserFlow.Text
