import BrowserFlow.Proofs.Tree

/-!
# Flows

Trees of steps as data: how a step is put together out of plain ones, out of steps of the caller's
own and out of combinators. The tree is lost once it has become a step, whose body is a function;
what runs inside a step can only be told by its flow. Each callback comes with the proof of its
manners.
-/
namespace BrowserFlow

inductive Flow {σ : Type} (M : Manners σ)
    (picks : Callback σ (List Locator) (Option Focus) → Prop := M.callback) : Type 1
  | own (s : Step σ) (h : M.step s)
  | plain (s : Step σ) (h : Plain M picks s)
  | chain (flows : List (Flow M picks)) (name : Option String)
  | when (predicate : Option (Callback σ Context Bool)) (flow otherwise : Option (Flow M picks))
    (hpredicate : ∀ f ∈ predicate, M.callback f)
  | repeatWhile (predicate : Option (Callback σ Context Bool)) (flow : Option (Flow M picks))
    (most : Value) (hpredicate : ∀ f ∈ predicate, M.callback f)
  | use {β : Type} (action : Option (Callback σ Context β)) (flow : Option (Flow M picks))
    (haction : ∀ f ∈ action, M.callback f)
  | useElement {β : Type} (action : Option (Callback σ Focus β)) (flow : Option (Flow M picks))
    (haction : ∀ f ∈ action, M.callback f)
  | ifExists (selector timeout : Value) (onTrue onFalse : Option (Flow M picks))
  | retrying (flow : Flow M picks) (attempts backoff baseDelayMs : Value)

namespace Flow

variable {σ : Type} {M : Manners σ} {picks : Callback σ (List Locator) (Option Focus) → Prop}

mutual

/-- The step that a flow is of. -/
def toStep : Flow M picks → Step σ
  | own s _ => s
  | plain s _ => s
  | chain flows name => Chain.asStep ⟨toSteps flows⟩ name
  | when predicate flow otherwise _ => .when predicate (toStep? flow) (toStep? otherwise)
  | repeatWhile predicate flow most _ => .repeatWhile predicate (toStep? flow) most
  | use action flow _ => .use action (toStep? flow)
  | useElement action flow _ => .useElement action (toStep? flow)
  | ifExists selector timeout onTrue onFalse =>
    .ifExists selector (toStep? onTrue) (toStep? onFalse) timeout
  | retrying flow attempts backoff baseDelayMs =>
    flow.toStep.retrying attempts backoff baseDelayMs

def toSteps : List (Flow M picks) → List (Step σ)
  | [] => []
  | flow :: rest => flow.toStep :: toSteps rest

def toStep? : Option (Flow M picks) → Option (Step σ)
  | none => none
  | some flow => some flow.toStep

end

end Flow

/-- A property that plain steps and the caller's own have, and that combinators hand on. -/
structure Step.Spreads {σ : Type} (M : Manners σ)
    (picks : Callback σ (List Locator) (Option Focus) → Prop) (motive : Step σ → Prop) :
    Prop where
  own : ∀ {s}, M.step s → motive s
  plain : ∀ {s}, Plain M picks s → motive s
  chain : ∀ {steps name}, (∀ s ∈ steps, motive s) → motive (Chain.asStep ⟨steps⟩ name)
  when : ∀ {predicate step otherwise}, (∀ f ∈ predicate, M.callback f) →
    (∀ s ∈ step, motive s) → (∀ s ∈ otherwise, motive s) →
      motive (.when predicate step otherwise)
  repeatWhile : ∀ {predicate step most}, (∀ f ∈ predicate, M.callback f) →
    (∀ s ∈ step, motive s) → motive (.repeatWhile predicate step most)
  use : ∀ {β : Type} {action : Option (Callback σ Context β)} {step},
    (∀ f ∈ action, M.callback f) → (∀ s ∈ step, motive s) → motive (.use action step)
  useElement : ∀ {β : Type} {action : Option (Callback σ Focus β)} {step},
    (∀ f ∈ action, M.callback f) → (∀ s ∈ step, motive s) →
      motive (.useElement action step)
  ifExists : ∀ {selector onTrue onFalse timeout}, (∀ s ∈ onTrue, motive s) →
    (∀ s ∈ onFalse, motive s) → motive (.ifExists selector onTrue onFalse timeout)
  retrying : ∀ {body attempts backoff baseDelayMs}, motive body →
    motive (body.retrying attempts backoff baseDelayMs)

namespace Step.Spreads

variable {σ : Type} {M : Manners σ} {picks : Callback σ (List Locator) (Option Focus) → Prop}
  {motive : Step σ → Prop}

mutual

theorem toStep (h : Spreads M picks motive) : ∀ flow : Flow M picks, motive flow.toStep
  | .own _ hs => h.own hs
  | .plain _ hs => h.plain hs
  | .chain flows _ => h.chain (h.toSteps flows)
  | .when _ flow otherwise hpredicate => h.when hpredicate (h.toStep? flow) (h.toStep? otherwise)
  | .repeatWhile _ flow _ hpredicate => h.repeatWhile hpredicate (h.toStep? flow)
  | .use _ flow haction => h.use haction (h.toStep? flow)
  | .useElement _ flow haction => h.useElement haction (h.toStep? flow)
  | .ifExists _ _ onTrue onFalse => h.ifExists (h.toStep? onTrue) (h.toStep? onFalse)
  | .retrying flow _ _ _ => h.retrying (h.toStep flow)

theorem toSteps (h : Spreads M picks motive) :
    ∀ flows : List (Flow M picks), ∀ s ∈ Flow.toSteps flows, motive s
  | [] => by simp [Flow.toSteps]
  | flow :: rest => by
    rw [Flow.toSteps, List.forall_mem_cons]
    exact ⟨h.toStep flow, h.toSteps rest⟩

theorem toStep? (h : Spreads M picks motive) :
    ∀ flow : Option (Flow M picks), ∀ s ∈ Flow.toStep? flow, motive s
  | none => by simp [Flow.toStep?]
  | some flow => by
    intro s hs
    cases hs
    exact h.toStep flow

end

/-- Flows whose callbacks and steps have the manners are trees. -/
theorem tree (hpicks : ∀ {f}, picks f → M.callback f) : Spreads M picks (Tree M true) where
  own := .own
  plain := fun h => by
    cases h with
    | atomic h => exact .atomic h
    | collectionFilter hpick => exact .collectionFilter fun f hf => hpicks (hpick f hf)
    | assertion hpredicate hmessage => exact .assertion hpredicate hmessage
    | createFailure hproblem => exact .createFailure hproblem
  chain := .chain
  when := .when
  repeatWhile := .repeatWhile
  use := .use
  useElement := .useElement
  ifExists := .ifExists
  retrying := .retrying rfl

end Step.Spreads

end BrowserFlow
