import BrowserFlow.Proofs.Attempts
import BrowserFlow.Proofs.Twinning
import BrowserFlow.Steps.Branch
import Mathlib.Data.List.Forall2

/-!
# Steps in company

Two steps keep each other company if they show the same line and their bodies do. Executed under the
contract of chains they do so as well, and combinators hand this on: chains, branches, loops,
handovers, probes and retries of steps that keep each other company do so too. Every step of the
library keeps itself company, as far as its callbacks do.
-/
namespace BrowserFlow

variable {σ : Type} {around : Surroundings σ}

/-! ### Callbacks and failures -/

/-- Wherever it is invoked on twins, the callback comes to the same, unless the runs part. -/
def Callback.Alongside {α β : Type} (around : Surroundings σ) (f : Callback σ α β) : Prop :=
  ∀ earlier a, (f.body earlier a).Alongside around (f.body earlier a)

theorem Callback.Alongside.invoke {α β : Type} {f : Callback σ α β} (hf : f.Alongside around)
    (a : α) : (f.invoke a).Alongside around (f.invoke a) := by
  rw [Callback.invoke]
  split
  · rename_i id name _
    refine .machine fun h => ?_
    rw [h.told.invocations]
    exact (Action.Alongside.emit (e := .invoked id name) (by simp)).bind fun _ => hf _ a
  · exact hf 0 a

namespace Context

theorem alongside_withFailure (c : Context) (payload step : Value) :
    (c.withFailure payload step : Action σ Context).Alongside around
      (c.withFailure payload step) := by
  rw [withFailure]
  split
  · exact .pure c
  · refine (Action.Alongside.ofExcept _).bind fun f => ?_
    exact (Action.Alongside.write _ _ _).bind fun _ => .pure _

theorem alongside_fail (c : Context) (kind : FailureKind) (message : String)
    (step : Option String) :
    (c.fail kind message step : Action σ Context).Alongside around (c.fail kind message step) :=
  c.alongside_withFailure _ _

theorem alongside_handOver (c : Context) {α β : Type} {action : Callback σ α β}
    (haction : action.Alongside around) (a : α) (step : String) :
    (c.handOver action a step).Alongside around (c.handOver action a step) := by
  refine (haction.invoke a).rescue.bind fun r => ?_
  cases r with
  | ok _ => exact .pure c
  | error e => exact c.alongside_withFailure _ _

end Context

namespace Action.Alongside

/-- What follows is done unless the context has failed. -/
theorem unlessFailed {p q : Action σ Context} (h : p.Alongside around q)
    {f g : Context → Action σ Context}
    (hrest : ∀ d, d.failure = none → (f d).Alongside around (g d)) :
    (p >>= fun d => if d.hasFailure then Pure.pure d else f d).Alongside around
      (q >>= fun d => if d.hasFailure then Pure.pure d else g d) := by
  refine h.bind fun d => ?_
  split
  · exact .pure d
  · exact hrest d (by simp_all [Context.hasFailure])

end Action.Alongside

/-! ### Executing steps -/

namespace Step

/-- Two steps that show the same line, with bodies that come to the same on twins, unless the runs
part. -/
structure Alongside (around : Surroundings σ) (s t : Step σ) : Prop where
  name : s.name = t.name
  line : s.describe = t.describe
  body : ∀ c, c.failure = none → (s.body c).Alongside around (t.body c)

namespace Alongside

variable {s t : Step σ}

theorem ofBody {name : String} {args : List (String × Value)}
    {body body' : Context → Action σ Context}
    (h : ∀ c, c.failure = none → (body c).Alongside around (body' c)) :
    Alongside around (.ofBody name args body) (.ofBody name args body') :=
  ⟨rfl, rfl, fun c hc => (h c hc).bind fun _ => .pure _⟩

theorem start (h : s.Alongside around t) {c : Context} (hc : c.failure = none) :
    (s.start c).Alongside around (t.start c) := by
  rw [Step.start, Step.start, h.line, h.name]
  refine (Action.Alongside.write _ _ _).bind fun _ => ?_
  refine (h.body c hc).awaited.rescue.bind fun r => ?_
  rcases r with e | (d | v)
  · exact (Action.Alongside.record _ _ _ _).bind fun _ => c.alongside_withFailure _ _
  · exact .pure d
  · exact c.alongside_fail _ _ _

theorem heeded (token : Option Token) :
    (Step.heeded token : Action σ (Option Token)).Alongside around (Step.heeded token) :=
  .machine fun h => by
    rw [h.active]
    exact .pure _

theorem cancellation (token : Token) :
    (Action.cancellation token : Action σ (Option Value)).Alongside around
      (Action.cancellation token) :=
  .machine fun h => by
    rw [h.cancelled]
    exact .pure _

theorem execute (h : s.Alongside around t) (c : Context) (token : Option Token) :
    (s.execute c token).Alongside around (t.execute c token) := by
  rw [Step.execute, Step.execute, h.name]
  split
  · exact .pure c
  · have hc : c.failure = none := by simp_all [Context.hasFailure]
    refine (heeded token).bind fun heeded => ?_
    cases heeded with
    | none => exact h.start hc
    | some token =>
      refine (cancellation token).bind fun reason => ?_
      cases reason with
      | none => exact h.start hc
      | some reason => exact c.alongside_withFailure _ _

end Alongside

namespace Alongside

variable {s t : Option (Step σ)}

theorem shown (h : Option.Rel (Alongside around) s t) : shownOption s = shownOption t := by
  cases h with
  | none => rfl
  | some h => exact congrArg (fun name => Value.ofOption (some name)) h.name

theorem executeOption (h : Option.Rel (Alongside around) s t) (c : Context) :
    (executeOption s c).Alongside around (executeOption t c) := by
  cases h with
  | none => exact .pure c
  | some h => exact h.execute c none

/-- A step that is missing is missing in both runs. -/
theorem require {α : Type} (h : Option.Rel (Alongside around) s t) {label what : String}
    {f g : Step σ → Action σ α}
    (hfg : ∀ {s t : Step σ}, s.Alongside around t → (f s).Alongside around (g t)) :
    (require s label what >>= f).Alongside around (require t label what >>= g) := by
  cases h with
  | none => exact fun _ _ hmn => hmn.still _
  | some h => exact hfg h

end Alongside

end Step

/-! ### Deeds -/

/-- The deeds of the library keep themselves company. -/
theorem Deed.alongside {keeps : Bool} {P : Context → Prop} {c : Context} {p : Action σ Context}
    (h : Deed around .closed keeps P c p) (hc : c.failure = none) : p.Alongside around p := by
  induction h with
  | work h => exact h.alongside
  | after hp _ ih => exact hp.alongside.bind_gives hp.gives hp.gives fun a ha => ih a ha hc
  | keep f => exact (Action.Alongside.changeItems _ f).bind fun _ => .pure _
  | fail payload step => exact Context.alongside_withFailure _ payload step
  | @onward _ _ c name args body _ hbody hact ih =>
    have hinner : Step.Alongside around (.ofBody name args body) (.ofBody name args body) :=
      .ofBody ih
    have hgives : ((Step.ofBody name args body).execute c).Gives around fun d =>
        d.failure = none → d.Stays c := by
      intro m d n hdone hd
      obtain ⟨k, _, hgiven⟩ := Step.execute_ofBody_unfailed hdone hd
      exact (hbody c).gives hc hgiven hd
    refine (hinner.execute c none).bind_gives hgives hgives fun d hd => ?_
    split
    · exact .pure d
    · exact (hact d (hd (by simp_all [Context.hasFailure]))).alongside

theorem Step.Does.alongside {keeps : Bool} {R : Context → Context → Prop} {s : Step σ}
    (h : s.Does around .closed keeps R) : s.Alongside around s := by
  obtain ⟨name, args, body, rfl, hbody⟩ := h
  exact .ofBody fun c hc => (hbody c).alongside hc

/-! ### Combinators -/

namespace Step

/-- What is missing is missing in both runs. -/
theorem alongside_require {α β : Type} {argument : Option α} {label what : String}
    {f g : α → Action σ β} (h : ∀ a ∈ argument, (f a).Alongside around (g a)) :
    (require argument label what >>= f).Alongside around (require argument label what >>= g) := by
  cases argument with
  | none => exact fun _ _ hmn => hmn.still _
  | some a => exact h a rfl

end Step

namespace Chain

theorem alongside_runSteps (token : Option Token) {steps steps' : List (Step σ)}
    (h : List.Forall₂ (Step.Alongside around) steps steps') (c : Context) :
    (runSteps token steps c).Alongside around (runSteps token steps' c) := by
  induction h generalizing c with
  | nil => exact .pure c
  | cons h hrest ih =>
    rw [runSteps, runSteps, hrest.length_eq]
    split
    · exact (Action.Alongside.record _ _ _ _).bind fun _ => .pure c
    · exact (h.execute c token).bind ih

/-- A chain as a step shows how many steps it has, and nothing else of them. -/
theorem alongside_asStep {steps steps' : List (Step σ)}
    (h : List.Forall₂ (Step.Alongside around) steps steps') (name : Option String) :
    Step.Alongside around (asStep ⟨steps⟩ name) (asStep ⟨steps'⟩ name) := by
  have hsize : size ⟨steps⟩ = size ⟨steps'⟩ := h.length_eq
  simp only [asStep, hsize]
  exact .ofBody fun c _ => alongside_runSteps none h c

theorem alongside_run {steps steps' : List (Step σ)}
    (h : List.Forall₂ (Step.Alongside around) steps steps') (c : Context) (token : Option Token) :
    (run ⟨steps⟩ c token).Alongside around (run ⟨steps'⟩ c token) := by
  cases token with
  | none => exact alongside_runSteps none h c
  | some given =>
    refine .machine fun hmn => ?_
    rw [hmn.active]
    refine (Action.Alongside.change fun _ _ _ => rfl).bind fun _ => ?_
    exact (alongside_runSteps (some given) h c).ensuring fun _ _ _ => rfl

end Chain

namespace Step

theorem alongside_when {predicate : Option (Callback σ Context Bool)}
    (hpredicate : ∀ f ∈ predicate, f.Alongside around)
    {step step' otherwise otherwise' : Option (Step σ)}
    (hstep : Option.Rel (Alongside around) step step')
    (hotherwise : Option.Rel (Alongside around) otherwise otherwise') :
    Alongside around (when predicate step otherwise) (when predicate step' otherwise') := by
  rw [when, when, Alongside.shown hstep]
  refine .ofBody fun c _ => alongside_require fun f hf => Alongside.require hstep fun h => ?_
  refine ((hpredicate f hf).invoke c).bind fun holds => ?_
  cases holds with
  | true => exact h.execute c none
  | false => exact Alongside.executeOption hotherwise c

theorem alongside_loopRound {predicate : Callback σ Context Bool}
    (hpredicate : predicate.Alongside around) {body body' : Step σ}
    (hbody : body.Alongside around body') (most : Value) (state : LoopState) :
    (loopRound predicate body most state).Alongside around
      (loopRound predicate body' most state) := by
  refine (hpredicate.invoke state.context).bind fun holds => ?_
  cases holds with
  | false => exact .pure _
  | true =>
    refine (Action.Alongside.ofExcept _).bind fun exhausted => ?_
    cases exhausted with
    | true => exact (Context.alongside_fail _ _ _ _).bind fun _ => .pure _
    | false =>
      refine (hbody.execute state.context none).bind fun d => ?_
      split
      · exact .pure _
      · exact .pure _

theorem alongside_repeatWhile {predicate : Option (Callback σ Context Bool)}
    (hpredicate : ∀ f ∈ predicate, f.Alongside around) {step step' : Option (Step σ)}
    (hstep : Option.Rel (Alongside around) step step') (most : Value) :
    Alongside around (repeatWhile predicate step most) (repeatWhile predicate step' most) := by
  rw [repeatWhile, repeatWhile, Alongside.shown hstep]
  refine .ofBody fun c _ => alongside_require fun f hf => Alongside.require hstep fun h => ?_
  have hrounds : (loopRounds most : Action σ Nat).Alongside around (loopRounds most) := by
    rw [loopRounds]
    split
    · exact .pure _
    · exact .pure _
    · exact .patience
  exact hrounds.bind fun k => .rounds (alongside_loopRound (hpredicate f hf) h most) k _

theorem alongside_use {β : Type} {action : Option (Callback σ Context β)}
    (haction : ∀ f ∈ action, f.Alongside around) {step step' : Option (Step σ)}
    (hstep : Option.Rel (Alongside around) step step') :
    Alongside around (use action step) (use action step') := by
  rw [use, use, Alongside.shown hstep]
  refine .ofBody fun c _ => ?_
  cases action with
  | none => exact c.alongside_fail _ _ _
  | some f =>
    exact (Alongside.executeOption hstep c).unlessFailed fun d _ =>
      d.alongside_handOver (haction f rfl) d _

theorem alongside_useElement {β : Type} {action : Option (Callback σ Focus β)}
    (haction : ∀ f ∈ action, f.Alongside around) {step step' : Option (Step σ)}
    (hstep : Option.Rel (Alongside around) step step') :
    Alongside around (useElement action step) (useElement action step') := by
  rw [useElement, useElement, Alongside.shown hstep]
  refine .ofBody fun c _ => ?_
  cases action with
  | none => exact c.alongside_fail _ _ _
  | some f =>
    refine (Alongside.executeOption hstep c).unlessFailed fun d _ => ?_
    cases d.focus with
    | none => exact .pure d
    | some focus => exact d.alongside_handOver (haction f rfl) focus _

theorem alongside_ifExists (selector timeout : Value)
    {onTrue onTrue' onFalse onFalse' : Option (Step σ)}
    (htrue : Option.Rel (Alongside around) onTrue onTrue')
    (hfalse : Option.Rel (Alongside around) onFalse onFalse') :
    Alongside around (ifExists selector onTrue onFalse timeout)
      (ifExists selector onTrue' onFalse' timeout) := by
  refine .ofBody fun c _ => (Action.Alongside.ofExcept _).bind fun selector => ?_
  refine (Probe.work_run "exists" c selector selector timeout).alongside.bind fun found => ?_
  cases found with
  | true => exact Alongside.executeOption htrue c
  | false => exact Alongside.executeOption hfalse c

end Step

/-! ### Retries -/

namespace Retry

theorem alongside_plan (attempts backoff baseDelayMs : Value) :
    (plan attempts backoff baseDelayMs : Action σ Plan).Alongside around
      (plan attempts backoff baseDelayMs) :=
  Action.Alongside.settings.bind fun _ => (Action.Alongside.ofExcept _).bind fun _ =>
    (Action.Alongside.ofExcept _).bind fun _ => .pure _

theorem alongside_pause (p : Plan) (k : Nat) :
    (pause p k : Action σ Unit).Alongside around (pause p k) :=
  (Action.Alongside.ofExcept _).bind fun _ => .emit (by simp)

theorem alongside_loop {β : Type} (p : Plan) {attempt attempt' : Action σ (β × Bool)}
    (h : attempt.Alongside around attempt') (k : Nat) (last : β) :
    (loop p attempt k last).Alongside around (loop p attempt' k last) := by
  induction k generalizing last with
  | zero => exact .pure _
  | succ k ih =>
    rw [loop, loop]
    refine h.rescue.bind fun r => ?_
    rcases r with e | ⟨result, _ | _⟩
    · refine (Action.Alongside.ofExcept _).bind fun line => ?_
      refine (Action.Alongside.record _ _ _ _).bind fun _ => ?_
      dsimp only
      split
      · exact (alongside_pause p _).bind fun _ => ih last
      · exact ih last
    · dsimp only
      split
      · exact (alongside_pause p _).bind fun _ => ih result
      · exact ih result
    · exact .pure _

theorem alongside_conclude (cell : Nat) (sink : Sink) (last : Context) :
    (conclude cell sink last : Action σ Context).Alongside around (conclude cell sink last) := by
  rw [conclude]
  split
  · refine .machine fun {m n} h => ?_
    rw [h.held]
    cases (n.held cell).getLast? with
    | none => exact .pure _
    | some line => exact (Action.Alongside.write _ _ _).bind fun _ => .pure _
  · exact .pure _

end Retry

theorem Step.alongside_retrying {body body' : Step σ} (h : body.Alongside around body')
    (attempts backoff baseDelayMs : Value) :
    Alongside around (body.retrying attempts backoff baseDelayMs)
      (body'.retrying attempts backoff baseDelayMs) := by
  rw [retrying, retrying, h.name]
  refine .ofBody fun c _ => Action.Alongside.newReference.bind fun cell => ?_
  refine (Retry.alongside_plan _ _ _).bind fun plan => ?_
  have hattempt := (h.execute (c.holding cell) none).bind fun d =>
    Action.Alongside.pure (d, !d.hasFailure)
  refine (Retry.alongside_loop plan hattempt _ _).bind fun last => ?_
  exact Retry.alongside_conclude _ _ _

/-! ### Plain steps -/

/-- What is asked of callbacks, and of the caller's own steps. -/
def Manners.alongside (around : Surroundings σ) : Manners σ where
  callback := fun f => f.Alongside around
  message := fun f => f.Alongside around
  step := fun s => s.Alongside around s

theorem Plain.alongside {s : Step σ}
    (h : Plain (.alongside around) (Manners.alongside around).callback s) :
    s.Alongside around s := by
  cases h with
  | atomic h => exact h.does.alongside
  | @collectionFilter pick name hpick =>
    refine .ofBody fun c _ => ?_
    cases pick with
    | none => exact .raise _
    | some pick =>
      refine (Action.Alongside.ofExcept _).bind fun ls => ?_
      refine (Callback.Alongside.invoke (hpick pick rfl) ls).bind fun picked => ?_
      cases picked with
      | none => exact .raise _
      | some picked => exact .pure _
  | @assertion predicate message hpredicate hmessage =>
    refine .ofBody fun c _ => Step.alongside_require fun f hf => ?_
    refine (Callback.Alongside.invoke (hpredicate f hf) c).bind fun holds => ?_
    cases holds with
    | true => exact .pure c
    | false =>
      cases message with
      | fixed text => exact .raise _
      | computed f =>
        exact (Callback.Alongside.invoke (hmessage f rfl) c).bind fun _ => .raise _
  | @createFailure problem hproblem =>
    refine .ofBody fun c _ => .bind ?_ fun payload => (Action.Alongside.ofExcept _).bind fun f =>
      c.alongside_withFailure _ _
    cases problem with
    | fixed v => exact .pure v
    | computed f => exact Callback.Alongside.invoke (hproblem f rfl) c

end BrowserFlow
