import BrowserFlow.Config.Variables
import BrowserFlow.Text.Blank
import BrowserFlow.Text.LineEnd

/-!
# Files of variables

A file of variables is a row of definitions: a name, and perhaps an equals sign and a value. A value
in quotes can go over several lines; any other ends with its line or before a comment. What is no
definition is passed over to the end of the line where reading got stuck. A value can refer to a
variable of the environment or to one defined above it, with a text to stand in if there is none.
-/
namespace BrowserFlow.Config.VariableFile

/-- The blanks that do not end a line. -/
def isGap (c : Char) : Bool := Text.isBlank c && c != '\n'

def skipGaps (s : List Char) : List Char := s.dropWhile isGap

/-- The text up to a closing quote, and what comes after. A quote with a backslash before it closes
only where no other does. -/
def quotedSpan (quote : Char) : List Char → Option (List Char × List Char)
  | [] => none
  | [c] => if c = quote then some ([], []) else none
  | c :: d :: rest =>
    if c = quote then some ([], d :: rest)
    else if c = '\\' ∧ d = quote then
      match quotedSpan quote rest with
      | some (s, beyond) => some (c :: d :: s, beyond)
      | none => some ([c], rest)
    else (quotedSpan quote (d :: rest)).map fun (s, beyond) => (c :: s, beyond)

/-- What the escapes inside single quotes stand for. -/
def singleEscapes : List (Char × Char) := [('\\', '\\'), ('\'', '\'')]

/-- What the escapes inside double quotes stand for. -/
def doubleEscapes : List (Char × Char) :=
  singleEscapes ++ [('"', '"'), ('a', '\x07'), ('b', '\x08'), ('f', '\x0c'), ('n', '\n'),
    ('r', '\r'), ('t', '\t'), ('v', '\x0b')]

/-- Resolves the escapes; a backslash before any other character stands for itself. -/
def unescaped (escapes : List (Char × Char)) : List Char → List Char
  | [] => []
  | [c] => [c]
  | c :: d :: rest =>
    match if c = '\\' then escapes.lookup d else none with
    | some e => e :: unescaped escapes rest
    | none => c :: unescaped escapes (d :: rest)

/-- Unquoted text, which a comment after a blank ends. -/
def withoutComment : List Char → List Char
  | [] => []
  | c :: rest =>
    if isGap c && (skipGaps rest).head? == some '#' then [] else c :: withoutComment rest

/-- The value that the text starts with, and what comes after it. -/
def readValue (s : List Char) : Option (List Char × List Char) :=
  match s with
  | '\'' :: rest =>
    (quotedSpan '\'' rest).map fun (value, after) => (unescaped singleEscapes value, after)
  | '"' :: rest =>
    (quotedSpan '"' rest).map fun (value, after) => (unescaped doubleEscapes value, after)
  | s =>
    let line := s.takeWhile (· != '\n')
    some (Text.stripBy isGap (withoutComment line), s.dropWhile (· != '\n'))

/-- The text after the word that marks a name for export, if the word is there. -/
def withoutExport (s : List Char) : List Char :=
  if "export".toList.isPrefixOf s && (s.drop 6).head?.any isGap then skipGaps (s.drop 6) else s

/-- The name that the text starts with, none in front of a comment, and what comes after it. -/
def readName (s : List Char) : Option (Option (List Char) × List Char) :=
  match s with
  | '#' :: _ => some (none, s)
  | '\'' :: quoted =>
    let name := quoted.takeWhile (· != '\'')
    match quoted.dropWhile (· != '\'') with
    | _ :: after => if name.isEmpty then none else some (some name, after)
    | [] => none
  | s =>
    let isName := fun c => c != '=' && c != '#' && !Text.isBlank c
    let name := s.takeWhile isName
    if name.isEmpty then none else some (some name, s.dropWhile isName)

/-- What comes after the end of a line, unless something but a comment stands before it. -/
def readLineEnd (s : List Char) : Option (List Char) :=
  match skipGaps s with
  | [] => some []
  | '#' :: rest => some (Text.afterLine rest)
  | '\n' :: rest => some rest
  | _ => none

/-- A definition as it is written. -/
structure Definition where
  name : String
  value : Option (List Char)

/-- One definition, if the text starts with one, and the text after the lines it stands on. -/
def readDefinition (s : List Char) : Option Definition × List Char :=
  let s := withoutExport (s.dropWhile Text.isBlank)
  match readName s with
  | none => (none, Text.afterLine s)
  | some (name, rest) =>
    let define := fun value (after : List Char) =>
      match readLineEnd after with
      | some beyond => (name.map fun name => ⟨String.ofList name, value⟩, beyond)
      | none => (none, Text.afterLine after)
    match skipGaps rest with
    | '=' :: assigned =>
      let assigned := skipGaps assigned
      match readValue assigned with
      | some (value, after) => define (some value) after
      | none => (none, Text.afterLine assigned)
    | after => define none after

/-- Every definition takes up at least one character, so as many rounds as there are characters are
enough. -/
def definitions : Nat → List Char → List Definition
  | 0, _ => []
  | fuel + 1, s =>
    if s.isEmpty then []
    else
      let (definition, rest) := readDefinition s
      definition.toList ++ definitions fuel rest

/-- A reference to a variable with the text that stands in for it, and the length of the reference
as it is written. -/
def reference? (s : List Char) : Option (String × String × Nat) :=
  match s with
  | '$' :: '\x7b' :: rest =>
    let name := rest.takeWhile fun c => c != '\x7d' && c != ':'
    match rest.drop name.length with
    | '\x7d' :: _ => some (String.ofList name, "", name.length + 3)
    | ':' :: '-' :: after =>
      let default := after.takeWhile (· != '\x7d')
      if default.length < after.length then
        some (String.ofList name, String.ofList default, name.length + default.length + 5)
      else none
    | _ => none
  | _ => none

/-- Puts values in the place of references; `skip` characters belong to a reference that is done. -/
def resolved (value : String → Option String) (skip : Nat) : List Char → List Char
  | [] => []
  | c :: rest =>
    match skip with
    | skip + 1 => resolved value skip rest
    | 0 =>
      match reference? (c :: rest) with
      | some (name, default, length) =>
        ((value name).getD default).toList ++ resolved value (length - 1) rest
      | none => c :: resolved value 0 rest

/-- The value of a variable that a reference stands for: that of a definition above, nothing if it
has none there, or else the environment's. -/
def valueOf (environment above : Variables) (name : String) : Option String :=
  match above.entries.lookup name with
  | some value => some (value.getD "")
  | none => environment.get? name

/-- The variables that a file defines. -/
def read (environment : Variables) (content : String) : Variables :=
  let s := Text.withoutMark (Text.unifyLineEnds content.toList)
  (definitions s.length s).foldl (fun above d =>
    above.define d.name (d.value.map fun value =>
      String.ofList (resolved (valueOf environment above) 0 value))) .empty

end BrowserFlow.Config.VariableFile
