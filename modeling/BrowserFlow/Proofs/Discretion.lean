import BrowserFlow.Proofs.Hearing
import BrowserFlow.Proofs.RemoteWork
import BrowserFlow.Rehearsal.PageDriver

/-!
# Discretion of drivers

A driver is discreet when no record that it sends reads as one of the trace of failures. Both
drivers are: the one that answers from a rehearsed page sends nothing, and the remote one sends
commands and writes records under its own name.
-/
namespace BrowserFlow

/-- The signal is no record of a failure, whichever session it is tagged with. -/
def Signal.Discreet (s : Signal) : Prop := ∀ tag, (Action.eventOf tag s).tellsFailure = false

def Driver.Discreet {σ : Type} (d : Driver σ) : Prop :=
  ∀ c world, ∀ s ∈ (d.answer c ⟨world, []⟩).2.sent, s.Discreet

theorem Driver.broken_discreet : Driver.broken.Discreet := by
  intro c world s hs
  simp [broken, Proc.raise] at hs

def Rig.Discreet {σ : Type} (rig : Rig σ) : Prop := ∀ s ∈ rig.sent, s.Discreet

/-- The work sends nothing but discreet signals. -/
def Proc.StaysDiscreet {σ α : Type} (p : Proc (Rig σ) α) : Prop :=
  ∀ rig, rig.Discreet → (p rig).2.Discreet

theorem Rehearsal.pageDriver_discreet : pageDriver.Discreet := by
  intro c world s hs
  simp [pageDriver, Rig.onWorld] at hs

namespace Proc.StaysDiscreet

variable {σ α β : Type}

theorem pure (a : α) : (Pure.pure a : Proc (Rig σ) α).StaysDiscreet := fun _ h => h

theorem raise (e : Raised) : (Proc.raise e : Proc (Rig σ) α).StaysDiscreet := fun _ h => h

theorem read : (Proc.read : Proc (Rig σ) (Rig σ)).StaysDiscreet := fun _ h => h

theorem ofExcept (x : Except Raised α) : (Proc.ofExcept x : Proc (Rig σ) α).StaysDiscreet := by
  cases x with
  | ok a => exact pure a
  | error e => exact raise e

theorem bind {p : Proc (Rig σ) α} {f : α → Proc (Rig σ) β} (hp : p.StaysDiscreet)
    (hf : ∀ a, (f a).StaysDiscreet) : (p >>= f).StaysDiscreet := by
  intro rig h
  have hrig := hp rig h
  rw [Proc.bind_apply]
  rcases he : p rig with ⟨a | e | _, next⟩ <;> rw [he] at hrig
  · exact hf a next hrig
  · exact hrig
  · exact hrig

theorem attempt {p : Proc (Rig σ) α} (hp : p.StaysDiscreet) : p.attempt.StaysDiscreet := by
  intro rig h
  have hrig := hp rig h
  rw [Proc.attempt]
  rcases he : p rig with ⟨a | e | _, next⟩ <;> rw [he] at hrig <;> exact hrig

theorem rounds {round : α → Proc (Rig σ) (α ⊕ β)}
    (hround : ∀ a, (round a).StaysDiscreet) (n : Nat) (a : α) :
    (Proc.rounds round n a).StaysDiscreet := by
  induction n generalizing a with
  | zero => exact fun _ h => h
  | succ n ih =>
    refine (hround a).bind fun next => ?_
    cases next with
    | inl b => exact ih b
    | inr r => exact pure r

theorem send {signal : Signal} (h : signal.Discreet) :
    (Rig.send signal : Proc (Rig σ) Unit).StaysDiscreet := by
  intro rig hrig s hs
  rcases List.mem_append.mp hs with hs | hs
  · exact hrig s hs
  · rw [List.mem_singleton.mp hs]
    exact h

end Proc.StaysDiscreet

namespace Remote.Line

open Proc (StaysDiscreet)

variable {τ α : Type} (line : Line τ)

theorem send_discreet (c : Command) : (line.send c).StaysDiscreet := by
  intro rig hrig s hs
  rcases List.mem_append.mp hs with hs | hs
  · exact hrig s hs
  · rw [List.mem_singleton.mp hs]
    exact fun _ => rfl

theorem log_discreet (level : LogLevel) (message : String) (extra : Option Value) :
    (log level message extra : Work τ Unit).StaysDiscreet :=
  .send fun _ => Event.silent_of_logger (show loggerName ≠ Sink.loggerName by decide)

theorem sleep_discreet : line.sleep.StaysDiscreet :=
  (StaysDiscreet.ofExcept _).bind fun _ => .bind (fun _ h => h) fun _ => line.send_discreet _

theorem afterLook_discreet (deadline : Float) (message : String) (seen : Bool) :
    (line.afterLook deadline message seen).StaysDiscreet := by
  rw [afterLook]
  split
  · exact .pure _
  · refine StaysDiscreet.read.bind fun now => ?_
    split
    · exact .raise _
    · exact line.sleep_discreet.bind fun _ => .pure _

theorem waitUntil_discreet (timeout : Value) {ready : Work τ Bool} (hready : ready.StaysDiscreet)
    (message : String) (ignored : List BrowserErrorClass) :
    (line.waitUntil timeout ready message ignored).StaysDiscreet := by
  refine (StaysDiscreet.ofExcept _).bind fun length =>
    (StaysDiscreet.ofExcept _).bind fun poll => ?_
  refine StaysDiscreet.read.bind fun rig => .rounds (fun _ => ?_) _ _
  rw [look_eq]
  refine hready.attempt.bind fun looked => ?_
  cases looked with
  | ok seen => exact line.afterLook_discreet _ _ seen
  | error e =>
    dsimp only
    split
    · exact line.afterLook_discreet _ _ false
    · exact .raise e

theorem enterScope_discreet (scope : Option Frame) : (line.enterScope scope).StaysDiscreet := by
  refine (line.send_discreet _).bind fun _ => ?_
  cases scope with
  | none => exact .pure _
  | some frame => exact (line.send_discreet _).bind fun el => line.send_discreet _

theorem elements_discreet (l : Locator) : (line.elements l).StaysDiscreet := by
  induction l with
  | root scope selector index =>
    exact (line.enterScope_discreet scope).bind fun _ => line.send_discreet _
  | child parent selector index ih =>
    exact ih.bind fun found => (StaysDiscreet.ofExcept _).bind fun base => line.send_discreet _

theorem element_discreet (l : Locator) : (line.element l).StaysDiscreet :=
  (line.elements_discreet l).bind fun _ => .ofExcept _

theorem anyDisplayed_discreet (found : List ElementRef) :
    (line.anyDisplayed found).StaysDiscreet := by
  induction found with
  | nil => exact .pure false
  | cons el rest ih =>
    refine (line.send_discreet _).bind fun shown => ?_
    cases shown with
    | true => exact .pure true
    | false => exact ih

theorem present_discreet (l : Locator) (visible : Bool) :
    (line.present l visible).StaysDiscreet := by
  refine (line.elements_discreet l).attempt.bind fun found => ?_
  cases found with
  | error e =>
    dsimp only
    split
    · exact .pure false
    · exact .raise e
  | ok found =>
    have hlook : ∀ found : List ElementRef, (if visible then line.anyDisplayed found
        else return !found.isEmpty : Work τ Bool).StaysDiscreet := by
      intro found
      split
      · exact line.anyDisplayed_discreet found
      · exact .pure _
    dsimp only
    split
    · exact (StaysDiscreet.ofExcept _).bind hlook
    · exact StaysDiscreet.bind (.pure _) hlook

theorem start_discreet (word : Value) (headless : Bool) :
    (line.start word headless).StaysDiscreet := by
  refine (StaysDiscreet.ofExcept _).bind fun brand => ?_
  dsimp only
  split
  · refine (log_discreet _ _ _).bind fun _ => (line.send_discreet _).attempt.bind fun r => ?_
    cases r with
    | ok _ => exact .pure ()
    | error e => exact .raise _
  · refine (line.send_discreet _).attempt.bind fun r => ?_
    cases r with
    | ok _ => exact .pure ()
    | error e => exact .raise _

theorem launch_discreet (word headless : Value) : (line.launch word headless).StaysDiscreet := by
  refine (line.start_discreet word _).bind fun _ => ?_
  have hstarted : (do
      log .debug ("Started " ++ word.text ++ " webdriver")
        (some (.dict [(.str "headless", headless)]))
      return ⟨word.text, line.sessionId⟩ : Work τ Session).StaysDiscreet :=
    (log_discreet _ _ _).bind fun _ => .pure _
  dsimp only
  split
  · exact (line.send_discreet _).bind fun _ => hstarted
  · exact hstarted

theorem selectOption_discreet (l : Locator) (value : Value) :
    (line.selectOption l value).StaysDiscreet := by
  refine (line.element_discreet l).bind fun el => (line.send_discreet _).bind fun _ => ?_
  refine (line.send_discreet _).attempt.bind fun r => ?_
  cases r with
  | ok _ => exact line.send_discreet _
  | error e =>
    dsimp only
    split
    · exact .pure _
    · exact .raise e

theorem click_discreet (l : Locator) (timeout : Value) : (line.click l timeout).StaysDiscreet := by
  refine (line.element_discreet l).bind fun el => ?_
  have hready : (line.isClickable el).StaysDiscreet := by
    refine (line.send_discreet _).bind fun shown => ?_
    cases shown with
    | true => exact line.send_discreet _
    | false => exact .pure false
  dsimp only
  split
  · exact (line.waitUntil_discreet _ hready _ _).bind fun _ => line.send_discreet _
  · exact line.send_discreet _

theorem work_discreet (c : Call) : (line.work c).StaysDiscreet := by
  have helement : ∀ (l : Locator) {α : Type} {f : ElementRef → Work τ α},
      (∀ el, (f el).StaysDiscreet) → (line.element l >>= f).StaysDiscreet :=
    fun l {_ _} hf => (line.element_discreet l).bind hf
  cases c with
  | launch brand headless => exact line.launch_discreet brand headless
  | goto session url => exact line.send_discreet _
  | frame session selector =>
    refine (line.enterScope_discreet none).bind fun _ =>
      (StaysDiscreet.ofExcept _).bind fun selector => ?_
    exact (line.send_discreet _).bind fun _ => .pure _
  | evaluate session scope source args =>
    exact (line.enterScope_discreet scope).bind fun _ => line.send_discreet _
  | title session => exact (line.enterScope_discreet none).bind fun _ => line.send_discreet _
  | waitForLoad session timeout =>
    refine line.waitUntil_discreet timeout ((line.send_discreet _).bind fun state => ?_) _ _
    exact .pure _
  | close session => exact line.send_discreet _
  | count l => exact (line.elements_discreet l).bind fun _ => .pure _
  | waitFor l timeout visible =>
    exact line.waitUntil_discreet timeout (line.present_discreet l _) _ _
  | click l timeout => exact line.click_discreet l timeout
  | doubleClick l => exact helement l fun el => line.send_discreet _
  | fill l text =>
    exact helement l fun el => (line.send_discreet _).bind fun _ => line.send_discreet _
  | press l key =>
    exact (StaysDiscreet.ofExcept _).bind fun keys => helement l fun el => line.send_discreet _
  | readAttribute l name => exact helement l fun el => line.send_discreet _
  | text l => exact helement l fun el => line.send_discreet _
  | inputValue l => exact helement l fun el => line.send_discreet _
  | tagName l => exact helement l fun el => (line.send_discreet _).bind fun tag => .pure _
  | evaluateOn l source args => exact helement l fun el => line.send_discreet _
  | selectOption l value => exact line.selectOption_discreet l value

end Remote.Line

/-- A remote browser, whatever it answers, is driven discreetly. -/
theorem Remote.driver_discreet {τ : Type} (line : Line τ) : (driver line).Discreet := by
  intro c world
  have hguarded : ∀ {α : Type} {p : Work τ α}, p.StaysDiscreet →
      (Line.guarded p).StaysDiscreet := by
    intro α p hp
    refine hp.attempt.bind fun r => ?_
    cases r with
    | ok a => exact .pure a
    | error e => exact .raise _
  have hanswer : (line.answer c).StaysDiscreet := by
    cases c with
    | launch brand headless => exact line.work_discreet _
    | _ => exact hguarded (line.work_discreet _)
  exact hanswer ⟨world, []⟩ (by simp [Rig.Discreet])

end BrowserFlow
