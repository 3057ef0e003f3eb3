import BrowserFlow.Decimal.Layout
import BrowserFlow.Numeral
import BrowserFlow.Text.Base64
import BrowserFlow.Text.Quoted
import BrowserFlow.Value

/-!
# Object notation

Values on one line of JSON. Everything that is not printable ASCII is escaped by its code point, or
by a pair of surrogates past the first plane. A key that is no text is written as one if it is
nothing, a truth value or a number; a mapping with any other key has no written form, nor has an
error without a text or a whole number of too many digits.
-/
namespace BrowserFlow.Text

def jsonUnit (n : Nat) : List Char := '\\' :: 'u' :: hexDigits 4 n

def jsonChar (c : Char) : List Char :=
  let n := c.toNat
  if c = '"' ∨ c = '\\' then ['\\', c]
  else if c = '\n' then ['\\', 'n']
  else if c = '\r' then ['\\', 'r']
  else if c = '\t' then ['\\', 't']
  else if n = 0x08 then ['\\', 'b']
  else if n = 0x0c then ['\\', 'f']
  else if 0x20 ≤ n ∧ n ≤ 0x7e then [c]
  else if n < 0x10000 then jsonUnit n
  else jsonUnit (0xd800 + (n - 0x10000) / 0x400) ++ jsonUnit (0xdc00 + (n - 0x10000) % 0x400)

def jsonString (s : String) : String := String.ofList ('"' :: s.toList.flatMap jsonChar ++ ['"'])

end BrowserFlow.Text

namespace BrowserFlow.Value

def jsonBool (b : Bool) : String := if b then "true" else "false"

/-- A key in object notation. -/
def jsonKey? : Value → Option String
  | str s => .some (Text.jsonString s)
  | none => .some (Text.jsonString "null")
  | bool b => .some (Text.jsonString (jsonBool b))
  | int n => (Numeral.write n).toOption.map Text.jsonString
  | float x => .some (Text.jsonString (Decimal.Layout.record.write x))
  | _ => .none

mutual

/-- A value in object notation. An error is written as its class and its text, if it has one, bytes
in base 64, and anything else that the notation has no form for as its text. -/
def json? : Value → Option String
  | none => .some "null"
  | bool b => .some (jsonBool b)
  | int n => (Numeral.write n).toOption
  | float x => .some (Decimal.Layout.record.write x)
  | list items | tuple items =>
    (jsonAll? items).map fun parts => "[" ++ ", ".intercalate parts ++ "]"
  | dict entries =>
    (jsonEntries? entries).map fun parts => "\x7b" ++ ", ".intercalate parts ++ "\x7d"
  | bytes bs => .some (Text.jsonString (Text.base64 bs))
  | raised cls args step =>
    if (raised cls args step).textObstacle.isSome then .none
    else .some (Text.jsonString (cls.name ++ ": " ++ (raised cls args step).text))
  | v => .some (Text.jsonString v.text)

def jsonAll? : List Value → Option (List String)
  | [] => .some []
  | v :: vs =>
    match v.json?, jsonAll? vs with
    | .some part, .some parts => .some (part :: parts)
    | _, _ => .none

def jsonEntries? : List (Value × Value) → Option (List String)
  | [] => .some []
  | (k, v) :: rest =>
    match k.jsonKey?, v.json?, jsonEntries? rest with
    | .some key, .some part, .some parts => .some ((key ++ ": " ++ part) :: parts)
    | _, _, _ => .none

end

end BrowserFlow.Value
