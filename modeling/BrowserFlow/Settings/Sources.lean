import BrowserFlow.Config.Variables
import BrowserFlow.Failure.Raised
import BrowserFlow.Settings.Coercion

/-!
# Sources of settings

Each field is defined, if at all, by the first of several sources that has it: the environment, the
file of variables, the section of the configuration document. Only that value is checked; a field
that no source defines has its default. The fields do not depend on one another, and all that are
unacceptable are named together.
-/
namespace BrowserFlow

namespace Settings

inductive Field
  | actionTimeout | existsTimeout | findTimeout | headless | loadTimeout | retryBackoff
  | retryBaseDelayMs | traceSteps
deriving DecidableEq, Repr

def Field.name : Field → String
  | actionTimeout => "action_timeout"
  | existsTimeout => "exists_timeout"
  | findTimeout => "find_timeout"
  | headless => "headless"
  | loadTimeout => "load_timeout"
  | retryBackoff => "retry_backoff"
  | retryBaseDelayMs => "retry_base_delay_ms"
  | traceSteps => "trace_steps"

/-- The raw values of the fields that are defined. -/
def Raw : Type := Field → Option Value

/-- A field's value: its raw value checked, or its default. -/
def Raw.read {α : Type} (raw : Raw) (field : Field) (default : α)
    (check : Value → Except String α) : Except String α :=
  match raw field with
  | some v => check v
  | none => .ok default

/-- What is wrong with a field, if anything is. -/
def problem {α : Type} (field : Field) (checked : Except String α) : List String :=
  match checked with
  | .ok _ => []
  | .error what => [field.name ++ ": " ++ what]

def defaults : Settings := {}

def ofRaw (raw : Raw) : Except Raised Settings :=
  let action :=
    raw.read .actionTimeout defaults.actionTimeout fun v => Coercion.float v >>= Coercion.positive
  let «exists» :=
    raw.read .existsTimeout defaults.existsTimeout
      fun v => Coercion.float v >>= Coercion.notNegative
  let find :=
    raw.read .findTimeout defaults.findTimeout fun v => Coercion.float v >>= Coercion.positive
  let headless := raw.read .headless defaults.headless Coercion.bool
  let load :=
    raw.read .loadTimeout defaults.loadTimeout fun v => Coercion.float v >>= Coercion.positive
  let policy := raw.read .retryBackoff defaults.retryBackoff Coercion.policy
  let delay :=
    raw.read .retryBaseDelayMs defaults.retryBaseDelayMs fun v => Coercion.int v >>=
      Coercion.notNegativeInt
  let trace := raw.read .traceSteps defaults.traceSteps Coercion.bool
  match action, «exists», find, headless, load, policy, delay, trace with
  | .ok action, .ok «exists», .ok find, .ok headless, .ok load, .ok policy, .ok delay,
      .ok trace =>
    .ok ⟨find, «exists», action, load, delay, policy, headless, trace⟩
  | action, «exists», find, headless, load, policy, delay, trace =>
    .error (.validation
      (problem .actionTimeout action ++ problem .existsTimeout «exists» ++
        problem .findTimeout find ++
        problem .headless headless ++ problem .loadTimeout load ++ problem .retryBackoff policy ++
        problem .retryBaseDelayMs delay ++ problem .traceSteps trace))

/-- How the environment and the file of variables are read. The section of the configuration
document can say so. -/
structure Terms where
  /-- What the name of a variable starts with. -/
  start : String := "UIFLOW_"
  /-- Does letter case count in names? -/
  exact : Bool := false
  /-- Does an empty value count as none? -/
  ignoresEmpty : Bool := false
  /-- The word that stands for nothing. -/
  nothing : Option String := none
  /-- Is the file read? -/
  readsFile : Bool := true
deriving DecidableEq, Repr

/-- The name of the file of variables. -/
def fileName : String := ".env"

/-- The source that a field is looked for in first cannot make a name of something that is no
text. -/
def unnameable : Raised :=
  .ofText (.foreign "SettingsError")
    "error getting value for field \"find_timeout\" from source \"EnvSettingsSource\""

/-- Does a path lead to the file of variables? Steps to the same place and doubled separators do not
count. -/
def isPathToFile (path : String) : Bool :=
  !"/".toList.isPrefixOf path.toList &&
    (path.splitOn "/").filter (fun step => !step.isEmpty && step != ".") == [fileName]

/-- Is one of these the path of the file of variables? Each has to be a path. -/
def anyNamesFile : List Value → Except Raised Bool
  | [] => .ok false
  | .str path :: rest => do return (← anyNamesFile rest) || isPathToFile path
  | v :: _ =>
    .error (.typeError ("expected str, bytes or os.PathLike object, not " ++ v.fullTypeName))

/-- Is the file of variables among the files that are named? -/
def namesFile : Value → Except Raised Bool
  | .none => .ok false
  | .str path => .ok (isPathToFile path)
  | .list paths => anyNamesFile paths
  | .dict entries => anyNamesFile (entries.map (·.1))
  | v => .error (.typeError ("'" ++ v.fullTypeName ++ "' object is not iterable"))

/-- The terms that a section sets; a term that is nothing is not set. -/
def Terms.ofSection (entries : List (String × Value)) : Except Raised Terms := do
  let given := fun name => (entries.lookup name).filter (!·.isNone)
  let standard : Terms := {}
  let readsFile ← match entries.lookup "_env_file" with
    | some v => namesFile v
    | none => .ok standard.readsFile
  let start ← match given "_env_prefix" with
    | some (.str start) => .ok start
    | some _ => .error unnameable
    | none => .ok standard.start
  let nothing := match given "_env_parse_none_str" with
    | some (.str word) => some word
    | _ => standard.nothing
  return { start, readsFile, nothing, exact := (given "_case_sensitive").any Value.isTrue,
           ignoresEmpty := (given "_env_ignore_empty").any Value.isTrue }

/-- The name of a field's variable. -/
def Terms.variableName (terms : Terms) (field : Field) : String := terms.start ++ field.name

def fromVariables (terms : Terms) (vars : Config.Variables) : Raw := fun field =>
  let vars := if terms.ignoresEmpty then vars.withoutEmpty else vars
  let name := terms.variableName field
  let found := if terms.exact then vars.get? name else vars.getFolded? (Text.lower name)
  found.map fun word => if terms.nothing = some word then .none else .str word

def fromSection (entries : List (String × Value)) : Raw := fun field => entries.lookup field.name

/-- The first source that defines a field wins. -/
def Raw.orElse (first second : Raw) : Raw := fun field => first field <|> second field

def ofSources (environment file : Config.Variables) (entries : List (String × Value)) :
    Except Raised Settings := do
  let terms ← Terms.ofSection entries
  let file := if terms.readsFile then file else .empty
  ofRaw ((fromVariables terms environment).orElse
    ((fromVariables terms file).orElse (fromSection entries)))

/-- The section of a document that holds settings. -/
def sectionOf (v : Value) : Except Raised (List (String × Value)) :=
  if !v.isTrue then .ok []
  else
    match v with
    | .dict entries =>
      entries.mapM fun (key, value) =>
        match key with
        | .str name => .ok (name, value)
        | _ => .error (.typeError "keywords must be strings")
    | v => .error (.typeError
        ("uiflow.schemas.settings.FlowSettings() argument after ** must be a mapping, not " ++
          v.fullTypeName))

end Settings

end BrowserFlow
