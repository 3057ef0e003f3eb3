import BrowserFlow.Redaction

/-!
# Step lines

The line that tells which step is about to run: its name and its arguments, sensitive content masked
and sizes bounded. A text is cut before it is quoted, so that no escape is cut in two; anything else
is cut after.
-/
namespace BrowserFlow

/-- How many characters of one argument a line shows. -/
def argumentLimit : Int := 64

/-- How many characters of all arguments together a line shows. -/
def argumentsLimit : Int := 256

/-- A text longer than the limit loses its end to three dots. -/
def truncate (limit : Int) (s : String) : String :=
  if s.length ≤ limit then s else String.ofList (s.toList.take (limit - 3).toNat) ++ "..."

/-- The name of a callable in brackets; one without a name shows its type. -/
def bracketed (name kind : String) : String :=
  let shown := if name.isEmpty then kind else name
  "[" ++ (if shown = "<lambda>" then "lambda" else shown) ++ "]"

mutual

def Value.rendered (limit : Int) : Value → String
  | .str s => if s = mask then "'" ++ mask ++ "'" else Text.quoted (truncate limit s)
  | .callable name => bracketed name "function"
  | .object kind => bracketed "" kind
  | .list items => truncate limit ("[" ++ ", ".intercalate (renderedAll limit items) ++ "]")
  | .tuple items => truncate limit ("[" ++ ", ".intercalate (renderedAll limit items) ++ "]")
  | v => truncate limit v.quoted

def renderedAll (limit : Int) : List Value → List String
  | [] => []
  | v :: vs => v.rendered limit :: renderedAll limit vs

end

def renderArgument (arg : String × Value) : String :=
  let (key, value) := arg
  key ++ "=" ++ value.rendered argumentLimit

/-- Arguments are redacted as the entries of a mapping before they are rendered. -/
def redactedArguments (args : List (String × Value)) : List (String × Value) :=
  args.map fun (key, value) =>
    (key, if Redaction.masksEntry (.str key) value then .str mask else value.redacted)

def stepLine (name : String) (args : List (String × Value)) : String :=
  let shown := ", ".intercalate ((redactedArguments args).map renderArgument)
  name ++ "(" ++ truncate argumentsLimit shown ++ ")"

end BrowserFlow
