import BrowserFlow.Failure.Raised

/-!
# Failures

The payload that a context carries once a step has failed: a kind, a message, the step it happened
in and the class of the error behind it. A failure is built from an error, from another failure, or
from any value; only a message or a step that is no text, or an error that has no text, stops it
from being built.
-/
namespace BrowserFlow

structure Failure where
  kind : FailureKind
  message : String
  step : Option String := none
  errorType : Option String := none
deriving DecidableEq, Repr

/-- A text, or bytes that spell one; otherwise the word for what is wrong. -/
def Value.asText : Value → Except String String
  | .str s => .ok s
  | .bytes bs =>
    match String.fromUTF8? ⟨bs.toArray⟩ with
    | .some s => .ok s
    | .none => .error "string_unicode"
  | _ => .error "string_type"

/-- A text or nothing. -/
def Value.asOptionalText : Value → Except String (Option String)
  | .none => .ok .none
  | v => v.asText.map .some

/-- A kind is named exactly, by a text. -/
def FailureKind.read (v : Value) : Except Raised FailureKind :=
  match v with
  | .str s => ((ofWord? s).map Except.ok).getD (.error (notAMember v "FailureKind"))
  | v => .error (notAMember v "FailureKind")

namespace Failure

def toValue (f : Failure) : Value := .failure f.kind f.message f.step f.errorType

/-- What is wrong with a field, if anything is. -/
def problem {α : Type} (name : String) (checked : Except String α) : List String :=
  match checked with
  | .ok _ => []
  | .error what => [name ++ ": " ++ what]

/-- A failure from a message and a step that have yet to be checked. -/
def make (kind : FailureKind) (message : Value) (step : Value := .none)
    (errorType : Option String := none) : Except Raised Failure :=
  match message.asText, step.asOptionalText with
  | .ok message, .ok step => .ok ⟨kind, message, step, errorType⟩
  | message, step => .error (.validation (problem "message" message ++ problem "step" step))

/-- The step an error blames, unless the name is missing or empty. -/
def blamed (own : Option String) (outer : Value) : Value :=
  match own with
  | some name => if name.isEmpty then outer else .str name
  | none => outer

/-- An error of a step keeps its kind and its step; an error of the driver is a failed interaction,
one of the session a failed driver, and any other is unexpected and never without a message. -/
def ofRaised (e : Raised) (step : Value) : Except Raised Failure :=
  let errorType := some e.cls.name
  match e.cls with
  | .step kind => make kind.failureKind (e.args.headD .none) (blamed e.step step) errorType
  | cls => do
    let text ← e.readText
    if cls.isDriver then make .interaction (.str text) step errorType
    else if cls.isSession then make .driver (.str text) step errorType
    else make .unexpected (.str (if text.isEmpty then cls.name else text)) step errorType

/-- The failure for any payload; the kind is that of a plain value, and is not looked at for any
other payload. -/
def coerce (payload step : Value) (kind : Except Raised FailureKind := .ok .unexpected) :
    Except Raised Failure :=
  match payload with
  | .failure kind message step errorType => .ok ⟨kind, message, step, errorType⟩
  | .raised cls args own => ofRaised ⟨cls, args, own⟩ step
  | .none => make .usage (.str "None passed as failure") step
  | value => do make (← kind) (.str value.text) step

/-- The line that shows a failure: its kind in brackets, the step if it has one, the message. -/
def describe (f : Failure) : String :=
  let place :=
    match f.step with
    | some name => if name.isEmpty then "" else " " ++ name ++ ":"
    | none => ""
  "[" ++ f.kind.word ++ "]" ++ place ++ " " ++ f.message

/-- A failure from loose fields; the message is required and unknown fields are ignored. -/
def ofFields (fields : List (String × Value)) : Except Raised Failure :=
  let field := fun name => fields.lookup name
  let kind : Except String FailureKind :=
    match field "kind" with
    | none => .ok .unexpected
    | some v =>
      match v.asText with
      | .ok word => ((FailureKind.ofWord? word).map Except.ok).getD (.error "enum")
      | .error _ => .error "enum"
  let message := ((field "message").map Value.asText).getD (.error "missing")
  let step := ((field "step").map Value.asOptionalText).getD (.ok none)
  let errorType := ((field "error_type").map Value.asOptionalText).getD (.ok none)
  match kind, message, step, errorType with
  | .ok kind, .ok message, .ok step, .ok errorType => .ok ⟨kind, message, step, errorType⟩
  | kind, message, step, errorType =>
    .error (.validation
      (problem "error_type" errorType ++ problem "kind" kind ++ problem "message" message ++
        problem "step" step))

end Failure

end BrowserFlow
