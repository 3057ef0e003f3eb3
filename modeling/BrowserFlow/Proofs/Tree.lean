import BrowserFlow.Steps.Assert
import BrowserFlow.Steps.Branch
import BrowserFlow.Steps.Filter
import BrowserFlow.Steps.Handover
import BrowserFlow.Steps.Probe
import BrowserFlow.Steps.Retry

/-!
# Trees of steps

The steps that can be built from the library: atomic steps, which find, act, check and choose
without a callback, steps that hand something over to a callback, and combinators of other steps,
nested to any depth. Callbacks and steps of the caller's own are leaves, of which only their manners
are known.
-/
namespace BrowserFlow

/-- What is asked of the callbacks, those that make the message of a check among them, and of the
steps that do not come from the library. -/
structure Manners (σ : Type) where
  callback : {α β : Type} → Callback σ α β → Prop
  message : Callback σ Context Value → Prop
  step : Step σ → Prop

/-- The steps that run neither callbacks nor steps of the caller. -/
inductive Atomic {σ : Type} : Step σ → Prop
  | one (q : Query) (index : Value) : Atomic (q.focusing index Query.inScope)
  | all (q : Query) : Atomic (q.collecting Query.inScope)
  | oneUnder (q : Query) (index : Value) : Atomic (q.focusing index Query.underFocus)
  | allUnder (q : Query) : Atomic (q.collecting Query.underFocus)
  | firstContainingText (text : Value) : Atomic (.firstContainingText text)
  | lastContainingText (text : Value) : Atomic (.lastContainingText text)
  | firstContainingItem (key : Value) : Atomic (.firstContainingItem key)
  | lastContainingItem (key : Value) : Atomic (.lastContainingItem key)
  | goto (url : Value) : Atomic (.goto url)
  | click (selector index timeout : Value) : Atomic (.click selector index timeout)
  | doubleClick (selector : Value) : Atomic (.doubleClick selector)
  | setText {text selector : Value} {s : Step σ}
    (h : Step.setText text selector = .ok s) : Atomic s
  | press (key : Value) : Atomic (.press key)
  | pressEnter : Atomic .pressEnter
  | selectComboText (value selector : Value) : Atomic (.selectComboText value selector)
  | script (source : Value) (args : List Value) : Atomic (.script source args)
  | switchToFrame (selector : Value) : Atomic (.switchToFrame selector)
  | switchToDefault : Atomic .switchToDefault
  | followLink (selector title timeout : Value) : Atomic (.followLink selector title timeout)
  | storeText (key : Value) : Atomic (.storeText key)
  | storeValue (key : Value) : Atomic (.storeValue key)
  | setItem (key value : Value) : Atomic (.setItem key value)
  | clearItem (key : Value) : Atomic (.clearItem key)
  | assertAttribute {name expected : Value} {s : Step σ}
    (h : Step.assertAttribute name expected = .ok s) : Atomic s
  | assertTitle (expected : Value) : Atomic (.assertTitle expected)
  | assertText (expected contains : Value) : Atomic (.assertText expected contains)

/-- The steps that run no steps of the caller: atomic ones, and those that choose, check or fail
with the help of callbacks. -/
inductive Plain {σ : Type} (M : Manners σ)
    (picks : Callback σ (List Locator) (Option Focus) → Prop := M.callback) : Step σ → Prop
  | atomic {s : Step σ} (h : Atomic s) : Plain M picks s
  | collectionFilter {pick : Option (Callback σ (List Locator) (Option Focus))}
    {name : Option String}
    (hpick : ∀ f ∈ pick, picks f) : Plain M picks (.collectionFilter pick name)
  | assertion {predicate : Option (Callback σ Context Bool)} {message : Message σ}
    (hpredicate : ∀ f ∈ predicate, M.callback f)
    (hmessage : ∀ f, message = .computed f → M.message f) :
    Plain M picks (.assertion predicate message)
  | createFailure {problem : Problem σ}
    (hproblem : ∀ f, problem = .computed f → M.callback f) :
    Plain M picks (.createFailure problem)

/-- Steps built from the library, from mannerly callbacks and from mannerly steps of the caller's
own; with retries or without. -/
inductive Tree {σ : Type} (M : Manners σ) (retries : Bool) : Step σ → Prop
  | own {s : Step σ} (h : M.step s) : Tree M retries s
  | atomic {s : Step σ} (h : Atomic s) : Tree M retries s
  | collectionFilter {pick : Option (Callback σ (List Locator) (Option Focus))}
    {name : Option String}
    (hpick : ∀ f ∈ pick, M.callback f) : Tree M retries (.collectionFilter pick name)
  | assertion {predicate : Option (Callback σ Context Bool)} {message : Message σ}
    (hpredicate : ∀ f ∈ predicate, M.callback f)
    (hmessage : ∀ f, message = .computed f → M.message f) :
    Tree M retries (.assertion predicate message)
  | createFailure {problem : Problem σ}
    (hproblem : ∀ f, problem = .computed f → M.callback f) :
    Tree M retries (.createFailure problem)
  | chain {steps : List (Step σ)} {name : Option String}
    (hsteps : ∀ s ∈ steps, Tree M retries s) :
    Tree M retries (Chain.asStep ⟨steps⟩ name)
  | when {predicate : Option (Callback σ Context Bool)} {step otherwise : Option (Step σ)}
    (hpredicate : ∀ f ∈ predicate, M.callback f) (hstep : ∀ s ∈ step, Tree M retries s)
    (hotherwise : ∀ s ∈ otherwise, Tree M retries s) :
    Tree M retries (.when predicate step otherwise)
  | repeatWhile {predicate : Option (Callback σ Context Bool)} {step : Option (Step σ)}
    {most : Value}
    (hpredicate : ∀ f ∈ predicate, M.callback f) (hstep : ∀ s ∈ step, Tree M retries s) :
    Tree M retries (.repeatWhile predicate step most)
  | use {β : Type} {action : Option (Callback σ Context β)} {step : Option (Step σ)}
    (haction : ∀ f ∈ action, M.callback f) (hstep : ∀ s ∈ step, Tree M retries s) :
    Tree M retries (.use action step)
  | useElement {β : Type} {action : Option (Callback σ Focus β)} {step : Option (Step σ)}
    (haction : ∀ f ∈ action, M.callback f) (hstep : ∀ s ∈ step, Tree M retries s) :
    Tree M retries (.useElement action step)
  | ifExists {selector timeout : Value} {onTrue onFalse : Option (Step σ)}
    (htrue : ∀ s ∈ onTrue, Tree M retries s) (hfalse : ∀ s ∈ onFalse, Tree M retries s) :
    Tree M retries (.ifExists selector onTrue onFalse timeout)
  | retrying {body : Step σ} {attempts backoff baseDelayMs : Value} (hretries : retries = true)
    (hbody : Tree M retries body) : Tree M retries (.retrying body attempts backoff baseDelayMs)

end BrowserFlow
