import BrowserFlow.Chain

/-!
# Branching and looping

A branch runs one of two steps by a predicate of the context. A loop runs a step while its predicate
holds; it ends with the first failure, before the predicate is asked again, and it fails when the
predicate still holds after the most iterations it may have.
-/
namespace BrowserFlow.Step

variable {σ : Type}

/-- Runs a step if the predicate holds, and another, if given, if not. -/
def when (predicate : Option (Callback σ Context Bool)) (step : Option (Step σ))
    (otherwise : Option (Step σ) := none) : Step σ :=
  .ofBody "when" [("predicate", Callback.shownOption predicate), ("step", shownOption step)]
    fun c => do
    let predicate ← require predicate "when" "predicate"
    let step ← require step "when" "step"
    if ← predicate.invoke c then step.execute c else executeOption otherwise c

/-- One round of a loop: the context carried into it, and how many iterations are done. -/
structure LoopState where
  context : Context
  iterations : Nat

def exceeded (most : Value) : String := "repeat_while: exceeded " ++ most.text ++ " iteration(s)"

/-- Have there been as many iterations as there may be? Without a bound there may always be one
more. -/
def isExhausted (most : Value) (iterations : Nat) : Except Raised Bool :=
  if most.isNone then .ok false else (Value.int iterations).relate .atLeast most

/-- Asks the predicate, then runs the body if it may run once more. -/
def loopRound (predicate : Callback σ Context Bool) (body : Step σ) (most : Value)
    (state : LoopState) : Action σ (LoopState ⊕ Context) := do
  let c := state.context
  if ← predicate.invoke c then
    if ← Action.ofExcept (isExhausted most state.iterations) then
      return .inr (← c.fail .usage (exceeded most) (some "repeat_while"))
    else go c
  else return .inr c
where
  go (c : Context) : Action σ (LoopState ⊕ Context) := do
    let c ← body.execute c
    if c.hasFailure then return .inr c else return .inl ⟨c, state.iterations + 1⟩

/-- The rounds a loop may take: one more than its iterations, or as many as the surroundings have
patience for. -/
def loopRounds (most : Value) : Action σ Nat :=
  match most.number? with
  | some (.whole n) => pure (n.toNat + 1)
  | some (.truth _) => pure 2
  | _ => Action.patience

def repeatWhile (predicate : Option (Callback σ Context Bool)) (step : Option (Step σ))
    (most : Value := .none) : Step σ :=
  .ofBody "repeat_while"
    [("predicate", Callback.shownOption predicate), ("step", shownOption step),
      ("max_iterations", most)]
    fun c => do
      let predicate ← require predicate "repeat_while" "predicate"
      let body ← require step "repeat_while" "step"
      Action.rounds (← loopRounds most) (loopRound predicate body most) ⟨c, 0⟩

end BrowserFlow.Step
