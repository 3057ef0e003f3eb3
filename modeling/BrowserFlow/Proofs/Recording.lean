import BrowserFlow.Proofs.Running

/-!
# Recording errors

When a failure can be built from an error, what recording it does to a context and to the machine,
and what comes of a step that is executed, by the way its body ends. An error that no failure can be
built from is replaced by another one, from which a failure can be built; an error that is not an
ordinary one is not recorded at all.
-/
namespace BrowserFlow

/-- The value has no text: being asked for it is an error. -/
def Value.Mute (v : Value) : Prop := v.textObstacle ≠ .none

instance (v : Value) : Decidable v.Mute := inferInstanceAs (Decidable (v.textObstacle ≠ none))

theorem Value.readText_cases (v : Value) :
    (v.Mute ∧ ∃ type, v.readText = .error (Raised.noText type)) ∨
      ¬ v.Mute ∧ v.readText = .ok v.text := by
  rw [readText, Mute]
  cases v.textObstacle with
  | none => exact .inr ⟨by simp, rfl⟩
  | some type => exact .inl ⟨by simp, type, rfl⟩

namespace Raised

/-- A failure can be built from the error: the error of a step has a text for a message, any other
error has a text. -/
def Readable (e : Raised) : Prop :=
  match e.cls with
  | .step _ => ∃ s, (e.args.headD .none).asText = .ok s
  | _ => e.toValue.textObstacle = none

/-- A step that raises the error ends with a failure. -/
structure Recordable (e : Raised) : Prop where
  ordinary : e.isOrdinary = true
  readable : e.Readable

/-- The classes that the library raises errors of on its own account. -/
def ownForeign : List String := ["TypeError", "ValueError", "AttributeError", "OverflowError",
  "RuntimeError"]

theorem textObstacle_ofText (cls : ErrorClass) (message : String) :
    (ofText cls message).toValue.textObstacle = none := by
  cases cls with
  | step kind =>
    cases kind <;> simp [ofText, toValue, Value.textObstacle, Value.textObstacles,
      Value.errorObstacle]
  | browser kind => simp [ofText, toValue, Value.textObstacle, Value.textObstacles]
  | _ => simp [ofText, toValue, Value.textObstacle, Value.textObstacles, Value.errorObstacle]

theorem readable_ofText (cls : ErrorClass) (message : String) : (ofText cls message).Readable := by
  cases cls with
  | step kind => exact ⟨message, rfl⟩
  | _ => exact textObstacle_ofText _ message

theorem recordable_step (kind : StepErrorClass) (message : String) :
    (ofText (.step kind) message).Recordable :=
  ⟨rfl, readable_ofText _ message⟩

theorem recordable_foreign {name : String} (h : name ∈ ownForeign) (message : String) :
    (ofText (.foreign name) message).Recordable := by
  refine ⟨?_, readable_ofText _ message⟩
  simp only [ownForeign, List.mem_cons, List.not_mem_nil, or_false] at h
  rcases h with rfl | rfl | rfl | rfl | rfl <;> rfl

theorem recordable_typeError (message : String) : (typeError message).Recordable :=
  recordable_foreign (by decide) message

theorem recordable_valueError (message : String) : (valueError message).Recordable :=
  recordable_foreign (by decide) message

theorem recordable_validation (problems : List String) : (validation problems).Recordable := by
  refine ⟨rfl, ?_⟩
  have htexts : ∀ texts : List String,
      Value.textObstacles (texts.map .str) = texts.map fun _ => none := by
    intro texts
    induction texts with
    | nil => rfl
    | cons _ _ ih => simp [Value.textObstacles, Value.textObstacle, ih]
  change Value.errorObstacle .validation (Value.textObstacles (problems.map .str)) = none
  rw [htexts]
  match problems with
  | [] => rfl
  | [_] => rfl
  | _ :: _ :: _ => rfl

/-- Where a text is asked for and there is none, that is told by an error of types. -/
theorem readText_error {e e' : Raised} (h : e.readText = .error e') :
    ∃ message, e' = typeError message := by
  rw [readText, Value.readText] at h
  split at h
  · cases h; exact ⟨_, rfl⟩
  · cases h

theorem recordable_of_readText {e e' : Raised} (h : e.readText = .error e') : e'.Recordable := by
  obtain ⟨message, rfl⟩ := readText_error h
  exact recordable_typeError message

theorem readText_eq_ok_iff (e : Raised) :
    (∃ s, e.readText = .ok s) ↔ e.toValue.textObstacle = none := by
  rw [readText, Value.readText]
  cases e.toValue.textObstacle <;> simp

/-- Leaving a routine makes no difference to whether an error can be recorded. -/
theorem Recordable.leaving {e : Raised} (h : e.Recordable) : e.leaving.Recordable := by
  rw [Raised.leaving]
  split
  · exact recordable_foreign (by decide) _
  · exact h

end Raised

namespace Failure

@[simp] theorem asOptionalText_str (s : String) : (Value.str s).asOptionalText = .ok (some s) := rfl

theorem blamed_str (own : Option String) (name : String) :
    ∃ s, blamed own (.str name) = .str s := by
  cases own with
  | none => exact ⟨name, rfl⟩
  | some given =>
    by_cases h : given.isEmpty
    · exact ⟨name, by simp [blamed, h]⟩
    · exact ⟨given, by simp [blamed, h]⟩

theorem make_ok_iff (kind : FailureKind) (message : Value) (step : String)
    (errorType : Option String) :
    (∃ f, make kind message (.str step) errorType = .ok f) ↔ ∃ s, message.asText = .ok s := by
  rw [make]
  cases message.asText <;> simp

theorem make_trouble {kind : FailureKind} {message step : Value} {errorType : Option String}
    {e : Raised}
    (h : make kind message step errorType = .error e) : ∃ problems, e = .validation problems := by
  rw [make] at h
  split at h
  · cases h
  · cases h; exact ⟨_, rfl⟩

theorem make_error {kind : FailureKind} {message step : Value} {errorType : Option String}
    {e : Raised} (h : make kind message step errorType = .error e) : e.Recordable := by
  obtain ⟨problems, rfl⟩ := make_trouble h
  exact Raised.recordable_validation problems

theorem ofRaised_step {e : Raised} {kind : StepErrorClass} (h : e.cls = .step kind) (step : Value) :
    ofRaised e step =
      make kind.failureKind (e.args.headD .none) (blamed e.step step) (some e.cls.name) := by
  simp only [ofRaised, h]

/-- Any other error is recorded by its text. -/
theorem ofRaised_other {e : Raised} (h : ∀ kind, e.cls ≠ .step kind) (step : Value) :
    ∃ kind, ∃ message : String → String, ofRaised e step =
      (e.readText.bind fun text => make kind (.str (message text)) step (some e.cls.name)) := by
  by_cases hd : e.cls.isDriver
  · refine ⟨.interaction, id, ?_⟩
    cases hcls : e.cls <;> simp_all [ofRaised, bind]
  · by_cases hs : e.cls.isSession
    · refine ⟨.driver, id, ?_⟩
      cases hcls : e.cls <;> simp_all [ofRaised, bind]
    · refine ⟨.unexpected, fun text => if text.isEmpty then e.cls.name else text, ?_⟩
      cases hcls : e.cls <;> simp_all [ofRaised, bind]

/-- A failure can be built exactly from the errors that are readable. -/
theorem ofRaised_ok_iff (e : Raised) (name : String) :
    (∃ f, ofRaised e (.str name) = .ok f) ↔ e.Readable := by
  by_cases hstep : ∃ kind, e.cls = .step kind
  · obtain ⟨kind, hcls⟩ := hstep
    obtain ⟨place, hplace⟩ := blamed_str e.step name
    rw [ofRaised_step hcls, hplace, make_ok_iff]
    simp only [Raised.Readable, hcls]
  · have hcls : ∀ kind, e.cls ≠ .step kind := fun kind h => hstep ⟨kind, h⟩
    obtain ⟨kind, message, heq⟩ := ofRaised_other hcls (.str name)
    have hreadable : e.Readable ↔ ∃ s, e.readText = .ok s := by
      rw [Raised.readText_eq_ok_iff, Raised.Readable]
      cases h : e.cls <;> simp_all
    rw [hreadable, heq]
    rcases e.readText with e' | text
    · simp [Except.bind]
    · simpa [Except.bind] using (make_ok_iff kind (.str (message text)) name _).2 ⟨_, rfl⟩

/-- What is raised where no failure can be built is an error of types or one of validation. -/
theorem ofRaised_trouble {e e' : Raised} {step : Value} (h : ofRaised e step = .error e') :
    (∃ message, e' = .typeError message) ∨ ∃ problems, e' = .validation problems := by
  by_cases hstep : ∃ kind, e.cls = .step kind
  · obtain ⟨kind, hcls⟩ := hstep
    rw [ofRaised_step hcls] at h
    exact .inr (make_trouble h)
  · obtain ⟨kind, message, heq⟩ := ofRaised_other (fun kind h => hstep ⟨kind, h⟩) step
    rw [heq] at h
    rcases hr : e.readText with e₀ | text
    · rw [hr] at h
      cases h
      exact .inl (Raised.readText_error hr)
    · rw [hr] at h
      exact .inr (make_trouble h)

/-- It can itself be recorded. -/
theorem ofRaised_error {e e' : Raised} {step : Value} (h : ofRaised e step = .error e') :
    e'.Recordable := by
  rcases ofRaised_trouble h with ⟨message, rfl⟩ | ⟨problems, rfl⟩
  · exact Raised.recordable_typeError message
  · exact Raised.recordable_validation problems

/-- It has a text as well. -/
theorem ofRaised_error_text {e e' : Raised} {step : Value} (h : ofRaised e step = .error e') :
    ∃ s, e'.readText = .ok s := by
  rw [Raised.readText_eq_ok_iff]
  rcases ofRaised_trouble h with ⟨message, rfl⟩ | ⟨problems, rfl⟩
  · exact Raised.textObstacle_ofText _ message
  · exact (Raised.recordable_validation problems).readable

theorem coerce_raised (e : Raised) (step : Value) : coerce e.toValue step = ofRaised e step := rfl

/-- The line that a sink is given when a failure is recorded. -/
def line (f : Failure) : String := "Failure created: " ++ f.describe

end Failure

namespace Context

theorem hasFailure_of_none {c : Context} (h : c.failure = none) : c.hasFailure = false := by
  rw [hasFailure, h]
  rfl

theorem hasFailure_of_ne {c : Context} (h : c.failure ≠ none) : c.hasFailure = true :=
  Option.isSome_iff_ne_none.2 h

variable {σ : Type} (c : Context) (around : Surroundings σ) (m : Machine σ)

/-- Recording a failure in a context that has none. -/
theorem withFailure_run (h : c.failure = none) (payload step : Value) :
    c.withFailure payload step around m = match Failure.coerce payload step with
      | .ok f => (.done { c with failure := some f }, c.sink.given .error f.line m)
      | .error e => (.raised e, m) := by
  rw [withFailure, if_neg (by simp [hasFailure_of_none h])]
  rcases Failure.coerce payload step with e | f
  · rfl
  · rw [Action.bind_done (Action.ofExcept_ok around m f), Action.bind_done (Sink.write_run ..)]
    rfl

theorem fail_run (h : c.failure = none) (kind : FailureKind) (message : String)
    (step : Option String) : c.fail kind message step around m =
      (.done { c with failure := some ⟨kind, message, step, none⟩ },
        c.sink.given .error (Failure.line ⟨kind, message, step, none⟩) m) := by
  rw [fail, withFailure_run c around m h]
  rfl

end Context

end BrowserFlow
