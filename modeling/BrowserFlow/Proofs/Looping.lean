import BrowserFlow.Proofs.Visiting

/-!
# Turns of a loop

A loop goes in turns: the predicate is asked about the context that is carried, and while it holds
the body is run on that context, once for each time it was asked. What comes of the loop is decided
after some turns that have all gone well. The predicate ceases to hold, or it holds although there
have been as many turns as there may be, or the body fails, or one of the two raises an error. A
loop with a bound comes to such an end whatever the predicate answers, since it asks at most once
more than it may run its body. Without a bound it may go on for ever, which is to say for as long as
the surroundings have patience.
-/
namespace BrowserFlow

variable {σ : Type}

namespace Step

section CameBack

variable (s : Step σ) (c : Context)

/-- What a step of the library comes back with, from what its body ended with. -/
def cameBack : Outcome Context × Machine σ → Outcome Context × Machine σ
  | (.done d, n) => (.done d, n)
  | (.raised e, n) => (s.verdict c (.raised e.leaving), s.settled c n (.raised e.leaving))
  | (.endless, n) => (.endless, n)

theorem execute_ofBody_started {name : String} {args : List (String × Value)}
    {body : Context → Action σ Context} {token : Option Token} {around : Surroundings σ}
    {m n : Machine σ} (hbegins : (ofBody name args body).startOn c token m = some n) :
    (ofBody name args body).execute c token around m =
      (ofBody name args body).cameBack c (body c around n) := by
  rw [(execute_of_started _ token around m hbegins).2, call, Action.awaited_run, ofBody_run]
  rcases body c around n with ⟨d | e | _, o⟩ <;> rfl

end CameBack

/-- A turn of a loop: the predicate was asked about a context on one machine, and the body was run
on the same context and on the machine that the predicate left. -/
structure Turn (σ : Type) where
  context : Context
  asked : Machine σ
  ran : Machine σ

/-- The turns that carry a loop from one context and machine to another. In each of them the
predicate holds and the body gives a context without a failure, about which it is asked next. -/
inductive Turns (around : Surroundings σ) (predicate : Callback σ Context Bool) (body : Step σ) :
    List (Turn σ) → Context → Machine σ → Context → Machine σ → Prop
  | refl {c : Context} {m : Machine σ} : Turns around predicate body [] c m c m
  | onward {c d e : Context} {m n o p : Machine σ} {turns : List (Turn σ)}
    (hasked : predicate.invoke c around m = (.done true, n))
    (hran : body.execute c none around n = (.done d, o)) (hd : d.failure = none)
    (hrest : Turns around predicate body turns d o e p) :
    Turns around predicate body (⟨c, m, n⟩ :: turns) c m e p

/-- The failure of a loop whose predicate still holds after the most turns it may take. -/
def exceededFailure (bound : Int) : Failure :=
  ⟨.usage, exceeded (.int bound), some "repeat_while", none⟩

/-- The bound on the turns of a loop, as it is given. -/
def mostOf (limit : Option Int) : Value := limit.elim .none .int

/-- How often a loop can ask its predicate: once more than it may run its body, or as often as the
surroundings have patience for. -/
def askings (limit : Option Int) (patience : Nat) : Nat :=
  limit.elim patience fun bound => bound.toNat + 1

/-- How a loop ends after so many turns that have gone well: how often it has asked its predicate
and run its body by then, and what comes of it. -/
inductive Concludes (around : Surroundings σ) (predicate : Callback σ Context Bool)
    (body : Step σ) (limit : Option Int) (taken : Nat) (d : Context) (n : Machine σ) :
    Nat → Nat → Outcome Context × Machine σ → Prop
  | ceased {o : Machine σ} (hasked : predicate.invoke d around n = (.done false, o)) :
    Concludes around predicate body limit taken d n (taken + 1) taken (.done d, o)
  | exceeded {o : Machine σ} {bound : Int}
    (hasked : predicate.invoke d around n = (.done true, o)) (hlimit : limit = some bound)
    (htaken : taken = bound.toNat) :
    Concludes around predicate body limit taken d n (taken + 1) taken
      (.done { d with failure := some (exceededFailure bound) },
        d.sink.given .error (exceededFailure bound).line o)
  | failed {o p : Machine σ} {e : Context}
    (hasked : predicate.invoke d around n = (.done true, o))
    (hroom : ∀ bound ∈ limit, taken < bound.toNat)
    (hran : body.execute d none around o = (.done e, p)) (he : e.failure ≠ none) :
    Concludes around predicate body limit taken d n (taken + 1) (taken + 1) (.done e, p)
  | askingRaised {o : Machine σ} {e : Raised}
    (hasked : predicate.invoke d around n = (.raised e, o)) :
    Concludes around predicate body limit taken d n (taken + 1) taken (.raised e, o)
  | runningRaised {o p : Machine σ} {e : Raised}
    (hasked : predicate.invoke d around n = (.done true, o))
    (hroom : ∀ bound ∈ limit, taken < bound.toNat)
    (hran : body.execute d none around o = (.raised e, p)) :
    Concludes around predicate body limit taken d n (taken + 1) (taken + 1) (.raised e, p)
  | askingEndless {o : Machine σ} (hasked : predicate.invoke d around n = (.endless, o)) :
    Concludes around predicate body limit taken d n (taken + 1) taken (.endless, o)
  | runningEndless {o p : Machine σ} (hasked : predicate.invoke d around n = (.done true, o))
    (hroom : ∀ bound ∈ limit, taken < bound.toNat)
    (hran : body.execute d none around o = (.endless, p)) :
    Concludes around predicate body limit taken d n (taken + 1) (taken + 1) (.endless, p)
  | unending (hlimit : limit = none) (htaken : taken = around.patience) :
    Concludes around predicate body limit taken d n taken taken (.endless, n)

variable {around : Surroundings σ} {predicate : Callback σ Context Bool} {body : Step σ}
  {limit : Option Int}

/-- The contexts that a loop asks about and runs its body on have not failed, if the first has
not. -/
theorem Turns.unfailed {turns : List (Turn σ)} {c d : Context} {m n : Machine σ}
    (h : Turns around predicate body turns c m d n) (hc : c.failure = none) :
    (∀ turn ∈ turns, turn.context.failure = none) ∧ d.failure = none := by
  induction h with
  | refl => exact ⟨by simp, hc⟩
  | onward _ _ hd _ ih => exact ⟨List.forall_mem_cons.2 ⟨hc, (ih hd).1⟩, (ih hd).2⟩

/-- The body is run at most once for each time that the predicate was asked, and never more often
than it may be. -/
theorem Concludes.ran_le {taken asked ran : Nat} {d : Context} {n : Machine σ}
    {ended : Outcome Context × Machine σ}
    (h : Concludes around predicate body limit taken d n asked ran ended)
    (hasked : asked ≤ askings limit around.patience) :
    ∀ bound ∈ limit, ran ≤ bound.toNat := by
  rintro bound rfl
  simp only [askings, Option.elim_some] at hasked
  cases h with
  | failed _ hroom => exact hroom bound rfl
  | runningRaised _ hroom => exact hroom bound rfl
  | runningEndless _ hroom => exact hroom bound rfl
  | unending hlimit => cases hlimit
  | _ => omega

/-- Without a bound there is always room for one more turn. -/
theorem isExhausted_mostOf (limit : Option Int) (iterations : Nat) :
    isExhausted (mostOf limit) iterations =
      .ok (limit.any fun bound => bound.toNat ≤ iterations) := by
  cases limit with
  | none => rfl
  | some bound =>
    have hcompare : (compare (iterations : Int) bound != .lt) =
        decide (bound.toNat ≤ iterations) := by
      rw [Bool.eq_iff_iff, bne_iff_ne, decide_eq_true_iff, ne_eq, Int.compare_eq_lt]
      omega
    change (Value.int iterations).relate .atLeast (.int bound) = _
    simp [Value.relate, Value.number?, Number.relate, Number.compare?, Relation.holds, hcompare]

theorem loopRounds_mostOf (limit : Option Int) (m : Machine σ) :
    (loopRounds (mostOf limit) : Action σ Nat) around m =
      (.done (askings limit around.patience), m) := by
  cases limit <;> rfl

section Rounds

variable {c : Context} {j : Nat} {m n : Machine σ}

theorem loopRound_of_exhausted {bound : Int} (hc : c.failure = none)
    (hasked : predicate.invoke c around m = (.done true, n)) (hlimit : limit = some bound)
    (hbound : bound.toNat ≤ j) :
    loopRound predicate body (mostOf limit) ⟨c, j⟩ around m =
      (.done (.inr { c with failure := some (exceededFailure bound) }),
        c.sink.given .error (exceededFailure bound).line n) := by
  subst hlimit
  rw [loopRound, Action.bind_done hasked, isExhausted_mostOf]
  simp only [Option.any_some, hbound, decide_true, if_true]
  rw [Action.bind_done (Action.ofExcept_ok around n true), if_pos rfl,
    Action.bind_done (Context.fail_run c around n hc _ _ _)]
  rfl

theorem loopRound_of_room (hasked : predicate.invoke c around m = (.done true, n))
    (hroom : ∀ bound ∈ limit, j < bound.toNat) :
    loopRound predicate body (mostOf limit) ⟨c, j⟩ around m =
      loopRound.go body ⟨c, j⟩ c around n := by
  have hany : (limit.any fun bound => bound.toNat ≤ j) = false := by
    cases limit with
    | none => rfl
    | some bound => simpa using hroom bound rfl
  rw [loopRound, Action.bind_done hasked, isExhausted_mostOf, hany]
  simp only [if_true]
  rw [Action.bind_done (Action.ofExcept_ok around n false), if_neg (by simp)]

theorem loopRound_go_run (j : Nat) :
    loopRound.go body ⟨c, j⟩ c around n = match body.execute c none around n with
      | (.done d, o) => (.done (if d.hasFailure then .inr d else .inl ⟨d, j + 1⟩), o)
      | (.raised e, o) => (.raised e, o)
      | (.endless, o) => (.endless, o) := by
  rw [loopRound.go, Action.bind_run]
  rcases body.execute c none around n with ⟨d | e | _, o⟩
  · dsimp only
    split <;> rfl
  · rfl
  · rfl

end Rounds

/-- What the rounds of a loop come to, of which some have been gone through, is how the loop ends
after some more turns. -/
theorem concludes_rounds {k j : Nat} {c : Context} {m : Machine σ} (hc : c.failure = none)
    (hk : j + k = askings limit around.patience) (hj : ∀ bound ∈ limit, j ≤ bound.toNat) :
    ∃ turns d n asked ran, Turns around predicate body turns c m d n ∧
      Concludes around predicate body limit (j + turns.length) d n asked ran
        (Action.rounds k (loopRound predicate body (mostOf limit)) ⟨c, j⟩ around m) ∧
      asked ≤ askings limit around.patience := by
  induction k generalizing j c m with
  | zero =>
    -- With a bound there is a round left as long as the bound is not passed.
    have hlimit : limit = none := by
      cases limit with
      | none => rfl
      | some bound =>
        have hroom := hj bound rfl
        simp only [askings, Option.elim_some] at hk
        omega
    subst hlimit
    exact ⟨[], c, m, _, _, .refl, .unending rfl hk, Nat.le_of_eq hk⟩
  | succ k ih =>
    have hasking : j + 1 ≤ askings limit around.patience := by omega
    rw [Action.rounds_succ]
    rcases hasked : predicate.invoke c around m with ⟨holds | e | _, n⟩
    · cases holds with
      | false =>
        rw [loopRound, Action.bind_done hasked]
        exact ⟨[], c, m, _, _, .refl, .ceased hasked, hasking⟩
      | true =>
        by_cases hroom : ∀ bound ∈ limit, j < bound.toNat
        · rw [loopRound_of_room hasked hroom, loopRound_go_run]
          rcases hran : body.execute c none around n with ⟨d | e | _, o⟩
          · by_cases hd : d.failure = none
            · obtain ⟨turns, e, p, asked, ran, hturns, hends, hbound⟩ :=
                ih (m := o) hd (by omega) hroom
              simp only [Context.hasFailure_of_none hd]
              refine ⟨_, e, p, asked, ran, .onward hasked hran hd hturns, ?_, hbound⟩
              rwa [List.length_cons, Nat.add_comm turns.length, ← Nat.add_assoc]
            · simp only [Context.hasFailure_of_ne hd, if_true]
              exact ⟨[], c, m, _, _, .refl, .failed hasked hroom hran hd, hasking⟩
          · exact ⟨[], c, m, _, _, .refl, .runningRaised hasked hroom hran, hasking⟩
          · exact ⟨[], c, m, _, _, .refl, .runningEndless hasked hroom hran, hasking⟩
        · simp only [Classical.not_forall, Nat.not_lt] at hroom
          obtain ⟨bound, hlimit, hbound⟩ := hroom
          rw [loopRound_of_exhausted hc hasked hlimit hbound]
          have htaken : j = bound.toNat := Nat.le_antisymm (hj bound hlimit) hbound
          exact ⟨[], c, m, _, _, .refl, .exceeded hasked hlimit htaken, hasking⟩
    · rw [loopRound, Action.bind_raised hasked]
      exact ⟨[], c, m, _, _, .refl, .askingRaised hasked, hasking⟩
    · rw [loopRound, Action.bind_endless hasked]
      exact ⟨[], c, m, _, _, .refl, .askingEndless hasked, hasking⟩

/-- Unless its patience ended, a loop asked once more after its turns. -/
theorem Concludes.asked_eq {taken asked ran : Nat} {d : Context} {n : Machine σ}
    {ended : Outcome Context × Machine σ}
    (h : Concludes around predicate body limit taken d n asked ran ended) :
    asked = taken + 1 ∨ limit = none ∧ asked = taken ∧ taken = around.patience := by
  cases h with
  | unending hlimit htaken => exact .inr ⟨hlimit, rfl, htaken⟩
  | _ => exact .inl rfl

/-- How a loop ends after some turns is what its rounds come to. -/
theorem Concludes.rounds {turns : List (Turn σ)} {c d : Context} {m n : Machine σ}
    {j k asked ran : Nat} {r : Outcome Context × Machine σ} (hc : c.failure = none)
    (hturns : Turns around predicate body turns c m d n)
    (hends : Concludes around predicate body limit (j + turns.length) d n asked ran r)
    (hasking : asked ≤ askings limit around.patience)
    (hk : j + k = askings limit around.patience) :
    Action.rounds k (loopRound predicate body (mostOf limit)) ⟨c, j⟩ around m = r := by
  induction hturns generalizing j k with
  | refl =>
    rw [List.length_nil, Nat.add_zero] at hends
    rcases hends.asked_eq with hcount | ⟨rfl, -, htaken⟩
    · obtain ⟨k, rfl⟩ : ∃ i, k = i + 1 := ⟨k - 1, by omega⟩
      rw [Action.rounds_succ]
      cases hends with
      | ceased hasked => rw [loopRound, Action.bind_done hasked]; rfl
      | exceeded hasked hlimit htaken =>
        rw [loopRound_of_exhausted hc hasked hlimit (Nat.le_of_eq htaken.symm)]
      | failed hasked hroom hran he =>
        rw [loopRound_of_room hasked hroom, loopRound_go_run, hran]
        simp only [Context.hasFailure_of_ne he, if_true]
      | askingRaised hasked => rw [loopRound, Action.bind_raised hasked]
      | runningRaised hasked hroom hran =>
        rw [loopRound_of_room hasked hroom, loopRound_go_run, hran]
      | askingEndless hasked => rw [loopRound, Action.bind_endless hasked]
      | runningEndless hasked hroom hran =>
        rw [loopRound_of_room hasked hroom, loopRound_go_run, hran]
      | unending => omega
    · simp only [askings, Option.elim_none] at hk hasking
      obtain rfl : k = 0 := by omega
      cases hends with
      | unending => rfl
      | _ => omega
  | @onward c d e m n o p turns hasked hran hd _ ih =>
    rw [List.length_cons, Nat.add_comm turns.length, ← Nat.add_assoc] at hends
    have hroom : ∀ bound ∈ limit, j < bound.toNat := by
      rintro bound rfl
      simp only [askings, Option.elim_some] at hasking
      rcases hends.asked_eq with hasked | ⟨hlimit, -⟩
      · omega
      · cases hlimit
    have hleft : j + 1 ≤ askings limit around.patience := by
      rcases hends.asked_eq with hasked | ⟨-, hasked, -⟩ <;> omega
    obtain ⟨k, rfl⟩ : ∃ i, k = i + 1 := ⟨k - 1, by omega⟩
    rw [Action.rounds_succ, loopRound_of_room hasked hroom, loopRound_go_run, hran]
    simp only [Context.hasFailure_of_none hd]
    exact ih hd hends (by omega)

variable {c : Context} {token : Option Token} {m m₀ : Machine σ}

/-- A loop that was started comes to something exactly when it ends that way after turns that have
all gone well, having asked its predicate and run its body no more often than it may. -/
theorem repeatWhile_takes_turns
    (hbegins : (repeatWhile (some predicate) (some body) (mostOf limit)).startOn c token m =
      some m₀) (r : Outcome Context × Machine σ) :
    (repeatWhile (some predicate) (some body) (mostOf limit)).execute c token around m = r ↔
      ∃ turns d n asked ran ended, Turns around predicate body turns c m₀ d n ∧
        (∀ turn ∈ turns, turn.context.failure = none) ∧ d.failure = none ∧
        Concludes around predicate body limit turns.length d n asked ran ended ∧
        asked ≤ askings limit around.patience ∧ (∀ bound ∈ limit, ran ≤ bound.toNat) ∧
        (repeatWhile (some predicate) (some body) (mostOf limit)).cameBack c ended = r := by
  have hc : c.failure = none := ((startOn_eq_some ..).1 hbegins).1
  have hrun : (repeatWhile (some predicate) (some body) (mostOf limit)).execute c token around m =
      (repeatWhile (some predicate) (some body) (mostOf limit)).cameBack c
        (Action.rounds (askings limit around.patience)
          (loopRound predicate body (mostOf limit)) ⟨c, 0⟩ around m₀) :=
    (execute_ofBody_started c hbegins).trans
      (congrArg _ (Action.bind_done (loopRounds_mostOf limit m₀) _))
  rw [hrun]
  constructor
  · rintro rfl
    obtain ⟨turns, d, n, asked, ran, hturns, hends, hasking⟩ :=
      concludes_rounds (m := m₀) hc (Nat.zero_add _) fun _ _ => Nat.zero_le _
    obtain ⟨hunfailed, hd⟩ := hturns.unfailed hc
    rw [Nat.zero_add] at hends
    exact ⟨turns, d, n, asked, ran, _, hturns, hunfailed, hd, hends, hasking,
      hends.ran_le hasking, rfl⟩
  · rintro ⟨turns, d, n, asked, ran, ended, hturns, -, -, hends, hasking, -, rfl⟩
    rw [← Nat.zero_add turns.length] at hends
    rw [hends.rounds hc hturns hasking (Nat.zero_add _)]

/-- The predicate still holds after the one turn that there may be. -/
theorem repeatWhile_takes_turns_once :
    let around : Surroundings Unit := ⟨.broken, .ok {}, 0⟩
    let c : Context := { session := ⟨"fake", "s"⟩, items := 0, sink := .recorder }
    let always : Callback Unit Context Bool := ⟨none, .callable "always", fun _ _ => pure true⟩
    let loop : Step Unit := .repeatWhile (some always) (some .switchToDefault) (mostOf (some 1))
    loop.startOn c none (Machine.start ()) ≠ none ∧
      FailsWith ⟨.usage, "repeat_while: exceeded 1 iteration(s)", some "repeat_while", none⟩
        (loop.execute c none around (Machine.start ())) := by
  intro around c always loop
  let started : Machine Unit := c.sink.given .step loop.describe (Machine.start ())
  let switched : Machine Unit :=
    c.sink.given .step (switchToDefault : Step Unit).describe started
  have hbegins : loop.startOn c none (Machine.start ()) = some started := rfl
  have hturns :
      Turns around always .switchToDefault [⟨c, started, started⟩] c started c switched :=
    .onward rfl rfl rfl .refl
  have hends : Concludes around always .switchToDefault (some 1) 1 c switched 2 1 _ :=
    .exceeded rfl rfl rfl
  have hrun := (repeatWhile_takes_turns hbegins _).2
    ⟨_, c, switched, 2, 1, _, hturns, by simp [c], rfl, hends, by decide, by simp, rfl⟩
  exact ⟨by simp [hbegins], _, _, hrun, rfl⟩

/-- The predicate raises an error with a number for a message. No failure can be built from it, and
the loop comes back with an error. -/
theorem repeatWhile_loses_error :
    let around : Surroundings Unit := ⟨.broken, .ok {}, 1⟩
    let c : Context := { session := ⟨"fake", "s"⟩, items := 0, sink := .recorder }
    let e : Raised := { cls := .step .assertion, args := [.int 5] }
    let refuses : Callback Unit Context Bool :=
      ⟨none, .callable "refuses", fun _ _ => Action.raise e⟩
    let loop : Step Unit := .repeatWhile (some refuses) (some .switchToDefault)
    loop.startOn c none (Machine.start ()) ≠ none ∧
      (∀ m, (refuses.invoke c around m).1 = .raised e) ∧ e.isOrdinary = true ∧
      (loop.execute c none around (Machine.start ())).1 =
        .raised (.validation ["message: string_type"]) :=
  ⟨Option.some_ne_none _, fun _ => rfl, rfl, rfl⟩

end Step

end BrowserFlow
