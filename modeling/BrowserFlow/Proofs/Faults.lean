import BrowserFlow.Proofs.Exchanges
import BrowserFlow.Proofs.Execution

/-!
# Faults of the driver

An error that the driver raises is a fault, and the kind of failure that it is to become is settled
by the call and by the error: a wait that ran out of time is a failed look-up, any other fault a
failed interaction, unless the error has no text to tell of it by. A step tells of a fault by the
error that it raises, or by the failure of the context that it gives back. What is put together from
actions that deal with faults in this way deals with them as well, as long as it does not go on
after a fault.
-/
namespace BrowserFlow

variable {σ α β : Type}

/-- An error that the driver raised, with the call that it was the answer to. -/
structure Fault where
  call : Call
  error : Raised

namespace Fault

/-- A wait for an element ran out of time. -/
def isMissedWait (x : Fault) : Bool :=
  match x.call with
  | .waitFor .. => x.error.cls = .driverTimeout
  | _ => false

/-- The kind of failure that a fault is to become. -/
def kind (x : Fault) : FailureKind :=
  if x.isMissedWait then .resolution
  else if x.error.toValue.Mute then .unexpected
  else .interaction

theorem kind_of_mute {x : Fault} (hwait : x.isMissedWait = false) (h : x.error.toValue.Mute) :
    x.kind = .unexpected := by
  simp [kind, hwait, h]

theorem kind_of_text {x : Fault} (hwait : x.isMissedWait = false) (h : ¬ x.error.toValue.Mute) :
    x.kind = .interaction := by
  simp [kind, hwait, h]

end Fault

def Exchange.fault? : Exchange → Option Fault
  | ⟨k, .raised e⟩ => some ⟨k, e⟩
  | _ => none

/-- The faults among exchanges. -/
def faults (xs : List Exchange) : List Fault := xs.filterMap (·.fault?)

theorem faults_append (xs ys : List Exchange) : faults (xs ++ ys) = faults xs ++ faults ys :=
  List.filterMap_append

/-- The driver raises no errors but those of its own family. -/
def Driver.RaisesOwn (d : Driver σ) : Prop :=
  ∀ k world e, d.reply k world = .raised e → e.cls.isDriver = true

/-- How an error tells of the faults behind it: an error of a step that is not for unexpected
failures is raised without a fault or for one of its kind; the error of a fault is passed on unless
a wait was missed; and for a fault without a text there is an error of types. One that is raised
without any fault strays. -/
inductive Raised.Tells (stray : Prop) : Raised → List Fault → Prop
  | own {cls : StepErrorClass} {message : String} (h : cls.failureKind ≠ .unexpected) :
    Tells stray (.ofText (.step cls) message) []
  | stray {message : String} (h : stray) : Tells stray (.typeError message) []
  | passed {x : Fault} (hcls : x.error.cls.isDriver = true) (hwait : x.isMissedWait = false) :
    Tells stray x.error [x]
  | told {cls : StepErrorClass} {message : String} {x : Fault} (h : cls.failureKind = x.kind)
    (hcls : cls.failureKind ≠ .unexpected) : Tells stray (.ofText (.step cls) message) [x]
  | mute {message : String} {x : Fault} (h : x.kind = .unexpected) :
    Tells stray (.typeError message) [x]

/-- An error that leaves a step that is executed tells of a fault that has no text. -/
def Raised.Mutes (e : Raised) (fs : List Fault) : Prop :=
  ∃ x message, fs = [x] ∧ x.kind = .unexpected ∧ e = .typeError message

theorem Raised.Mutes.tells {e : Raised} {fs : List Fault} (h : e.Mutes fs) (stray : Prop) :
    e.Tells stray fs := by
  obtain ⟨x, message, rfl, hx, rfl⟩ := h
  exact .mute hx

/-- How a failure tells of the faults behind it: by its kind. -/
inductive Failure.Discloses (stray : Prop) (f : Failure) : List Fault → Prop
  | own (h : f.kind = .unexpected → stray) : Discloses stray f []
  | fault {x : Fault} (h : f.kind = x.kind) : Discloses stray f [x]

/-- A context that has failed tells of the faults by its failure; one that has not has a property,
and there were no faults. -/
def Context.Discloses (stray : Prop) (P : Context → Prop) (d : Context)
    (fs : List Fault) : Prop :=
  match d.failure with
  | none => P d ∧ fs = []
  | some f => f.Discloses stray fs

theorem Raised.isOrdinary_of_driver {e : Raised} (h : e.cls.isDriver = true) :
    e.isOrdinary = true := by
  obtain ⟨cls, args, step⟩ := e
  cases cls <;> first | rfl | cases h

namespace Failure

theorem ofRaised_typeError (message name : String) :
    ∃ f, ofRaised (.typeError message) (.str name) = .ok f ∧ f.kind = .unexpected := by
  have htext := (Raised.readText_eq_ok_iff _).2
    (Raised.textObstacle_ofText (.foreign "TypeError") message)
  obtain ⟨text, htext⟩ := htext
  have hmade : ofRaised (.typeError message) (.str name) =
      make .unexpected (.str (if text.isEmpty then "TypeError" else text)) (.str name)
        (some "TypeError") := by
    simp only [ofRaised, Raised.typeError, htext]
    rfl
  exact ⟨_, hmade, rfl⟩

theorem ofRaised_driver {e : Raised} (h : e.cls.isDriver = true) (name : String) :
    ofRaised e (.str name) = e.readText.bind fun text =>
      .ok ⟨.interaction, text, some name, some e.cls.name⟩ := by
  cases hcls : e.cls <;> simp_all [ofRaised, ErrorClass.isDriver] <;> rfl

end Failure

namespace Raised.Tells

variable {stray : Prop} {e : Raised} {fs : List Fault}

theorem mono {stray' : Prop} (h : e.Tells stray fs) (hstray : stray → stray') :
    e.Tells stray' fs := by
  cases h with
  | own h => exact .own h
  | stray h => exact .stray (hstray h)
  | passed hcls hwait => exact .passed hcls hwait
  | told h hcls => exact .told h hcls
  | mute h => exact .mute h

theorem isOrdinary (h : e.Tells stray fs) : e.isOrdinary = true := by
  cases h with
  | @passed x hcls _ => exact isOrdinary_of_driver hcls
  | _ => rfl

theorem leaving (h : e.Tells stray fs) : e.leaving = e := by
  rw [Raised.leaving, if_neg]
  cases h with
  | @passed x hcls _ =>
    intro hstop
    rw [hstop] at hcls
    cases hcls
  | _ => simp [ofText, typeError]

/-- What becomes of an error that a step ends with: a failure that tells of the same faults, or for
a fault without a text an error of types. -/
theorem recorded (h : e.Tells stray fs) (name : String) :
    (∃ f, Failure.ofRaised e (.str name) = .ok f ∧ f.Discloses stray fs) ∨
      ∃ e', Failure.ofRaised e (.str name) = .error e' ∧ e'.Mutes fs := by
  cases h with
  | own h => exact .inl ⟨_, rfl, .own fun hkind => absurd hkind h⟩
  | stray h =>
    obtain ⟨f, hf, -⟩ := Failure.ofRaised_typeError _ name
    exact .inl ⟨f, hf, .own fun _ => h⟩
  | @passed x hcls hwait =>
    rw [Failure.ofRaised_driver hcls, readText]
    rcases x.error.toValue.readText_cases with ⟨hmute, type, htext⟩ | ⟨hmute, htext⟩
    · rw [htext]
      exact .inr ⟨_, rfl, x, _, rfl, Fault.kind_of_mute hwait hmute, rfl⟩
    · rw [htext]
      exact .inl ⟨_, rfl, .fault (Fault.kind_of_text hwait hmute).symm⟩
  | told h => exact .inl ⟨_, rfl, .fault h⟩
  | mute h =>
    obtain ⟨f, hf, hkind⟩ := Failure.ofRaised_typeError _ name
    exact .inl ⟨f, hf, .fault (hkind.trans h.symm)⟩

end Raised.Tells

end BrowserFlow
