import BrowserFlow.Config.Document
import BrowserFlow.Config.VariableFile
import BrowserFlow.Log.Record
import BrowserFlow.Proc
import BrowserFlow.Settings.Sources

/-!
# Configuration

A process reads its configuration document once and builds its settings once, each at the first
request; both are kept until they are asked to be read again. What an environment variable says of
the log level is merged into the document. A document that is not a mapping is ignored with a
warning. Whatever reads the text of a document can be put in; at the start it is the reader of
`Config.Document`.
-/
namespace BrowserFlow

structure Configuration where
  /-- What reads the text of a document. -/
  reader : String → Except Config.DocumentError Value
  /-- The text of the document, if there is one. -/
  document : Option String
  /-- The text of the file of variables, if there is one. -/
  variableFile : Option String
  environment : Config.Variables
  /-- The document as it was read. -/
  loaded : Option (List (Value × Value))
  /-- The settings as they were built. -/
  built : Option Settings
  records : List LogRecord

namespace Configuration

def start : Configuration := ⟨Config.Document.read, none, none, .empty, none, none, []⟩

def documentName : String := "uiflow.yaml"

def levelVariable : String := "UIFLOW_LOG_LEVEL"

def loggerName : String := "uiflow.utils.config"

abbrev Reading (α : Type) : Type := Proc Configuration α

def warn (message : String) : Reading Unit :=
  Proc.update fun c =>
    { c with records := c.records ++ [⟨.warning, loggerName, message, none, none⟩] }

/-- The entries of the document; what counts as false stands for none. -/
def readDocument : Reading (List (Value × Value)) := do
  let c ← Proc.read
  match c.document with
  | none => return []
  | some text =>
    match c.reader text with
    | .error e => Proc.raise (e.toRaised documentName)
    | .ok (.dict entries) => pure entries
    | .ok v =>
      if v.isTrue then do
        warn ("Ignoring " ++ documentName ++ ": top level is not a mapping")
        return []
      else pure []

/-- The elements of a value that an entry could be made of. -/
def pairElements : Value → Option (List Value)
  | .str s => some (s.toList.map fun c => .str (String.ofList [c]))
  | .list items => some items
  | .dict entries => some (entries.map (·.1))
  | _ => none

/-- Makes one entry of an element at some place of a list of pairs. -/
def pairOf (place : Nat) (element : Value) : Except Raised (Value × Value) :=
  match pairElements element with
  | none => .error (.typeError
      ("cannot convert dictionary update sequence element #" ++ toString place ++ " to a sequence"))
  | some [key, value] => do
    ItemStore.checkKey key
    return (key, value)
  | some elements => .error (.valueError
      ("dictionary update sequence element #" ++ toString place ++ " has length " ++
        toString elements.length ++ "; 2 is required"))

/-- A copy of a section as a mapping; a list of pairs is one, too. -/
def mappingOf (v : Value) : Except Raised (List (Value × Value)) :=
  if !v.isTrue then .ok []
  else
    match v with
    | .dict entries => .ok entries
    | v =>
      match pairElements v with
      | none => .error (.typeError ("'" ++ v.fullTypeName ++ "' object is not iterable"))
      | some elements => do
        let pairs ← elements.zipIdx.mapM fun (element, place) => pairOf place element
        return pairs.foldl (fun acc (key, value) => Config.Node.putEntry key value acc) []

def lookup (entries : List (Value × Value)) (name : String) : Option Value :=
  (entries.find? fun entry => entry.1.sameKey (.str name)).map (·.2)

/-- Merges the level that the environment names into the section on logging. -/
def withLevel (environment : Config.Variables) (entries : List (Value × Value)) :
    Except Raised (List (Value × Value)) :=
  match environment.get? levelVariable with
  | none => .ok entries
  | some level =>
    if level.isEmpty then .ok entries
    else do
      let logging ← mappingOf ((lookup entries "logging").getD .none)
      let logging := Config.Node.putEntry (.str "level") (.str level) logging
      return Config.Node.putEntry (.str "logging") (.dict logging) entries

/-- The document, read at the first request. -/
def config : Reading (List (Value × Value)) := do
  let c ← Proc.read
  match c.loaded with
  | some entries => return entries
  | none =>
    let entries ← Proc.ofExcept (withLevel c.environment (← readDocument))
    Proc.update fun c => { c with loaded := some entries }
    return entries

def reloadConfig : Reading (List (Value × Value)) := do
  Proc.update fun c => { c with loaded := none }
  config

/-- The settings, built at the first request. -/
def settings : Reading Settings := do
  let c ← Proc.read
  match c.built with
  | some s => return s
  | none =>
    let entries ← config
    let entries ← Proc.ofExcept (Settings.sectionOf ((lookup entries "flow").getD .none))
    let fromFile := (c.variableFile.map (Config.VariableFile.read c.environment)).getD .empty
    let s ← Proc.ofExcept (Settings.ofSources c.environment fromFile entries)
    Proc.update fun c => { c with built := some s }
    return s

/-- Builds the settings again; the document is not read again. -/
def reloadSettings : Reading Settings := do
  Proc.update fun c => { c with built := none }
  settings

end Configuration

end BrowserFlow
