import BrowserFlow.Failure.ErrorClass
import BrowserFlow.Number
import BrowserFlow.Text.Quoted

/-!
# Values

The values that flows pass around and show: arguments of steps, items, payloads of failures,
arguments of scripts. Mappings keep the order of their entries. A value has a name of its type, a
text, which is what a message contains, and a quoted form, which is what a container shows; secrets
show as stars in both. Whole numbers are written out in both, however many digits they have.
-/
namespace BrowserFlow

inductive Value
  | none
  | bool (b : Bool)
  | int (n : Int)
  | float (x : Float)
  | str (s : String)
  | bytes (bs : List UInt8)
  | secret (s : String)
  | secretBytes (bs : List UInt8)
  | list (items : List Value)
  | tuple (items : List Value)
  | dict (entries : List (Value × Value))
  /-- A function with a name. -/
  | callable (name : String)
  /-- A nameless thing that can be called, known by its type. -/
  | object (kind : String)
  | raised (cls : ErrorClass) (args : List Value) (step : Option String)
  | failure (kind : FailureKind) (message : String) (step errorType : Option String)
  | locator (path : String)
  | element (label : String)
  /-- Any other value, known by its type and its text. -/
  | other (kind text : String)
deriving Inhabited, BEq, Repr

namespace Value

def typeName : Value → String
  | none => "NoneType"
  | bool _ => "bool"
  | int _ => "int"
  | float _ => "float"
  | str _ => "str"
  | bytes _ => "bytes"
  | secret _ => "SecretStr"
  | secretBytes _ => "SecretBytes"
  | list _ => "list"
  | tuple _ => "tuple"
  | dict _ => "dict"
  | callable _ => "function"
  | object kind => kind
  | raised cls _ _ => cls.name
  | failure .. => "Failure"
  | locator _ => "Locator"
  | element _ => "WebElement"
  | other kind _ => kind

/-- The name of the type with the name of its family before it, as some errors show it. -/
def fullTypeName : Value → String
  | other "date" _ => "datetime.date"
  | other "datetime" _ => "datetime.datetime"
  | v => v.typeName

def isNone : Value → Bool
  | none => true
  | _ => false

/-- Functions and callable things; calling one gives nothing back. -/
def isCallable : Value → Bool
  | callable _ | object _ => true
  | _ => false

def number? : Value → Option Number
  | bool b => .some (.truth b)
  | int n => .some (.whole n)
  | float x => .some (.real x)
  | _ => .none

def ofNumber : Number → Value
  | .truth b => bool b
  | .whole n => int n
  | .real x => float x

/-- Ten stars hide a secret; an empty secret shows that it is empty. -/
def stars (isEmpty : Bool) : String := if isEmpty then "" else "**********"

def quotedOption : Option String → String
  | .none => "None"
  | .some s => Text.quoted s

/-- A tuple of one keeps a comma after it. -/
def tupleForm : List String → String
  | [x] => "(" ++ x ++ ",)"
  | xs => "(" ++ ", ".intercalate xs ++ ")"

/-- The files that an error of the operating system names after its number and its reason: one, or
one and another. An error of blocking can have a count of characters in the place of the file. -/
def namedFiles (cls : ErrorClass) (args : List Value) : List Value :=
  match args with
  | _ :: _ :: file :: more =>
    if !cls.isSystem || file.isNone || 2 < more.length then []
    else if cls = .foreign "BlockingIOError" ∧ file.number?.isSome then []
    else
      match more with
      | [_, second] => if second.isNone then [file] else [file, second]
      | _ => [file]
  | _ => []

/-- How many of its arguments an error shows: one that names a file shows its number and its reason
only. -/
def shownArgs (cls : ErrorClass) (args : List Value) : Nat :=
  if (namedFiles cls args).isEmpty then args.length else 2

mutual

def quoted : Value → String
  | none => "None"
  | bool b => if b then "True" else "False"
  | int n => toString n
  | float x => Decimal.Layout.plain.write x
  | str s => Text.quoted s
  | bytes bs => Text.quotedBytes bs
  | secret s => "SecretStr(" ++ Text.quoted (stars s.isEmpty) ++ ")"
  | secretBytes bs => "SecretBytes(" ++ Text.quotedBytes (stars bs.isEmpty).toUTF8.toList ++ ")"
  | list items => "[" ++ ", ".intercalate (quotedAll items) ++ "]"
  | tuple items => tupleForm (quotedAll items)
  | dict entries => "\x7b" ++ ", ".intercalate (quotedEntries entries) ++ "\x7d"
  | callable name => "<function " ++ name ++ ">"
  | object kind => "<" ++ kind ++ " object>"
  | raised (.browser kind) _ _ => kind.name ++ "()"
  | raised cls args _ =>
    cls.name ++ "(" ++ ", ".intercalate ((quotedAll args).take (shownArgs cls args)) ++ ")"
  | failure kind message step errorType =>
    "Failure(kind=<FailureKind." ++ kind.word.toUpper ++ ": " ++ Text.quoted kind.word ++
      ">, message=" ++ Text.quoted message ++ ", step=" ++ quotedOption step ++
      ", error_type=" ++ quotedOption errorType ++ ")"
  | locator path => path
  | element label => label
  | other _ text => text

def quotedAll : List Value → List String
  | [] => []
  | v :: vs => v.quoted :: quotedAll vs

def quotedEntries : List (Value × Value) → List String
  | [] => []
  | (k, v) :: rest => (k.quoted ++ ": " ++ v.quoted) :: quotedEntries rest

end

/-- The message that a remote browser's error holds, with the pointer to its explanation. -/
def browserMessage (kind : BrowserErrorClass) (given : String) : String :=
  if kind.isExplained then given ++ kind.explanation else given

/-- An error of the operating system: its number, its reason and the files it names. -/
def systemText (number reason : String) (files : List Value) : String :=
  "[Errno " ++ number ++ "] " ++ reason ++
    (if files.isEmpty then "" else ": " ++ " -> ".intercalate (files.map quoted))

/-- A span of positions, the last one left out. -/
def spanText (first last : Int) : String := toString first ++ "-" ++ toString (last - 1)

/-- An error of reading bytes as text. -/
def decodingText (encoding : String) (bytes : List UInt8) (first last : Int)
    (reason : String) : String :=
  let place := match bytes[first.toNat]? with
    | .some b =>
      if last = first + 1 then
        "byte 0x" ++ String.ofList (Text.hexDigits 2 b.toNat) ++ " in position " ++ toString first
      else "bytes in position " ++ spanText first last
    | .none => "bytes in position " ++ spanText first last
  "'" ++ encoding ++ "' codec can't decode " ++ place ++ ": " ++ reason

/-- What cannot be written of a text: one character or several. -/
def unwritableText (content : String) (first last : Int) : String :=
  match content.toList[first.toNat]? with
  | .some c =>
    if last = first + 1 then
      "character '" ++ String.ofList (Text.codeEscape c) ++ "' in position " ++ toString first
    else "characters in position " ++ spanText first last
  | .none => "characters in position " ++ spanText first last

/-- The last part of a path. -/
def baseName (path : String) : String := ((path.splitOn "/").getLastD path)

/-- The place in a source text that a mistake in it was found at. -/
def placeText (message : String) (place : List Value) : String :=
  match place with
  | str file :: int line :: _ =>
    message ++ " (" ++ baseName file ++ ", line " ++ toString line ++ ")"
  | str file :: _ => message ++ " (" ++ baseName file ++ ")"
  | _ :: int line :: _ => message ++ " (line " ++ toString line ++ ")"
  | _ => message

/-- The elements of a sequence. -/
def elements? : Value → Option (List Value)
  | list items | tuple items => .some items
  | str s => .some (s.toList.map fun c => str (String.ofList [c]))
  | bytes bs => .some (bs.map fun b => int b.toNat)
  | _ => .none

/-- A count of errors in a group. -/
def groupText (message : String) (count : Nat) : String :=
  message ++ " (" ++ toString count ++ " sub-exception" ++ (if count = 1 then "" else "s") ++ ")"

/-- The text of an error, from its arguments and their texts. Most errors show their one argument,
or all of them quoted; a missing key, an error of the operating system, of an encoding or in a
source text, and a group of errors have forms of their own. -/
def errorText (cls : ErrorClass) (args : List Value) (texts : List String) : String :=
  let plain := match args, texts with
    | [], _ => ""
    | [_], [text] => text
    | args, _ => tupleForm (args.map quoted)
  if cls.families.contains "SyntaxError" then
    match args with
    | [_, place] => placeText (texts.headD "") ((elements? place).getD [])
    | _ => texts.headD "None"
  else if cls.isSystem ∧ 2 ≤ args.length ∧ args.length ≤ 5 then
    systemText (texts.getD 0 "") (texts.getD 1 "") (namedFiles cls args)
  else
    match cls, args with
    | .foreign "KeyError", [key] => key.quoted
    | .foreign "UnicodeDecodeError", [str encoding, bytes bs, int first, int last, str reason] =>
      decodingText encoding bs first last reason
    | .foreign "UnicodeEncodeError", [str encoding, str content, int first, int last, str reason] =>
      "'" ++ encoding ++ "' codec can't encode " ++ unwritableText content first last ++
        ": " ++ reason
    | .foreign "UnicodeTranslateError", [str content, int first, int last, str reason] =>
      "can't translate " ++ unwritableText content first last ++ ": " ++ reason
    | .foreign "ExceptionGroup", [str message, list errors]
    | .foreign "ExceptionGroup", [str message, tuple errors] =>
      groupText message errors.length
    | .foreign "BaseExceptionGroup", [str message, list errors] => groupText message errors.length
    | _, _ => plain

mutual

/-- The text of a value as a message shows it. -/
def text : Value → String
  | str s => s
  | secret s => stars s.isEmpty
  | secretBytes bs => Text.quotedBytes (stars bs.isEmpty).toUTF8.toList
  | failure _ message _ _ => message
  | raised (.browser kind) args _ => "Message: " ++
      browserMessage kind ((textAll args).headD "None") ++ "\n"
  | raised cls args _ => errorText cls args (textAll args)
  | v => v.quoted

def textAll : List Value → List String
  | [] => []
  | v :: vs => v.text :: textAll vs

end

/-- What keeps an error from having a text, from what keeps its arguments from it: only the
arguments that show as they are count. -/
def errorObstacle (cls : ErrorClass) (obstacles : List (Option String)) : Option String :=
  if cls.families.contains "SyntaxError" then obstacles.headD .none
  else if cls.isSystem ∧ 2 ≤ obstacles.length ∧ obstacles.length ≤ 5 then
    obstacles.getD 0 .none <|> obstacles.getD 1 .none
  else if cls = .foreign "KeyError" then .none
  else
    match obstacles with
    | [obstacle] => obstacle
    | _ => .none

mutual

/-- The type of what stands in the place of a text, where asking for the text fails. The error of a
missing item shows its message as it is, so it has no text unless the message is one, and neither
has an error that shows such an error. -/
def textObstacle : Value → Option String
  | raised (.step .missingItem) (str _ :: _) _ => .none
  | raised (.step .missingItem) args _ => .some (args.headD none).fullTypeName
  | raised (.browser _) args _ => (textObstacles args).headD .none
  | raised cls args _ => errorObstacle cls (textObstacles args)
  | _ => .none

def textObstacles : List Value → List (Option String)
  | [] => []
  | v :: vs => v.textObstacle :: textObstacles vs

end

/-- What counts as true: everything but nothing, false, zero and what is empty. -/
def isTrue : Value → Bool
  | none => false
  | bool b => b
  | int n => n != 0
  | float x => x != 0
  | str s => !s.isEmpty
  | bytes bs => !bs.isEmpty
  | secret s => !s.isEmpty
  | secretBytes bs => !bs.isEmpty
  | list items => !items.isEmpty
  | tuple items => !items.isEmpty
  | dict entries => !entries.isEmpty
  | _ => true

/-- Is the value this text, or nothing where there is no text? -/
def isText : Value → Option String → Bool
  | str s, some t => s == t
  | none, .none => true
  | _, _ => false

def ofOption : Option String → Value
  | .none => none
  | .some s => str s

end Value

end BrowserFlow
