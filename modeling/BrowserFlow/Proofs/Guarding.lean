import BrowserFlow.Proofs.Combining
import BrowserFlow.Proofs.Visiting

/-!
# Guards

What a run never does. The body of every step of a flow can be given a guard, and so can every
callback that is handed contexts: on what the guard does not let through they never end. Guards that
make no difference to a run show that nothing was started in it, and nothing handed over, that they
would have stopped.
-/
namespace BrowserFlow

variable {σ : Type} {around : Surroundings σ}

open Classical in
/-- The step with a guard before its body. -/
noncomputable def Step.guarded (G : Context → Machine σ → Prop) (s : Step σ) : Step σ :=
  ⟨s.name, s.args, fun c around m => if G c m then s.body c around m else (.endless, m)⟩

open Classical in
/-- The callback with a guard before it. -/
noncomputable def Callback.guarded {β : Type} (H : Context → Prop) (f : Callback σ Context β) :
    Callback σ Context β :=
  ⟨f.mark, f.shown, fun earlier c around m =>
    if H c then f.body earlier c around m else (.endless, m)⟩

namespace Flow

variable {M : Manners σ} {picks : Callback σ (List Locator) (Option Focus) → Prop}

mutual

/-- The step that a flow is of, with guards before all the bodies and callbacks in it. -/
noncomputable def guarded (G : Context → Machine σ → Prop) (H : Context → Prop) :
    Flow M picks → Step σ
  | own s _ => s.guarded G
  | plain s _ => s.guarded G
  | chain flows name => (Chain.asStep ⟨guardedAll G H flows⟩ name).guarded G
  | when predicate flow otherwise _ =>
    (Step.when (predicate.map (·.guarded H)) (guarded? G H flow)
      (guarded? G H otherwise)).guarded G
  | repeatWhile predicate flow most _ =>
    (Step.repeatWhile (predicate.map (·.guarded H)) (guarded? G H flow) most).guarded G
  | use action flow _ => (Step.use (action.map (·.guarded H)) (guarded? G H flow)).guarded G
  | useElement action flow _ => (Step.useElement action (guarded? G H flow)).guarded G
  | ifExists selector timeout onTrue onFalse =>
    (Step.ifExists selector (guarded? G H onTrue) (guarded? G H onFalse) timeout).guarded G
  | retrying flow attempts backoff baseDelayMs =>
    ((flow.guarded G H).retrying attempts backoff baseDelayMs).guarded G

noncomputable def guardedAll (G : Context → Machine σ → Prop) (H : Context → Prop) :
    List (Flow M picks) → List (Step σ)
  | [] => []
  | flow :: rest => flow.guarded G H :: guardedAll G H rest

noncomputable def guarded? (G : Context → Machine σ → Prop) (H : Context → Prop) :
    Option (Flow M picks) → Option (Step σ)
  | none => none
  | some flow => some (flow.guarded G H)

end

end Flow

namespace Action

variable {α β : Type} {m : Machine σ}

/-- It is enough that what follows is the same after each result that there can be. -/
theorem bind_congr {p : Action σ α} {f f' : α → Action σ β}
    (h : ∀ a n, p around m = (.done a, n) → f' a around n = f a around n) :
    (p >>= f') around m = (p >>= f) around m := by
  rw [bind_run, bind_run]
  rcases hp : p around m with ⟨a | e | _, n⟩
  · exact h a n hp
  · rfl
  · rfl

/-- Rounds are the same that are the same wherever they can come to. -/
theorem rounds_congr {round round' : α → Action σ (α ⊕ β)} {I : α → Machine σ → Prop}
    (hsame : ∀ a m, I a m → round' a around m = round a around m)
    (hround : ∀ {a b m n}, I a m → round a around m = (.done (.inl b), n) → I b n) (k : Nat)
    {a : α} (ha : I a m) : rounds k round' a around m = rounds k round a around m := by
  induction k generalizing a m with
  | zero => rfl
  | succ k ih =>
    rw [rounds_succ, rounds_succ, hsame a m ha]
    rcases h : round a around m with ⟨⟨b | r⟩ | e | _, n⟩
    · exact ih (hround ha h)
    · rfl
    · rfl
    · rfl

end Action

/-- Callbacks that the guard lets through are not changed by it. -/
theorem Callback.invoke_guarded {β : Type} {H : Context → Prop} {c : Context} (hc : H c)
    (f : Callback σ Context β) : (f.guarded H).invoke c = f.invoke c := by
  simp only [invoke, guarded, hc, if_true]

@[simp] theorem Callback.shownOption_guarded {β : Type} {H : Context → Prop}
    (f : Option (Callback σ Context β)) :
    Callback.shownOption (f.map (·.guarded H)) = Callback.shownOption f := by
  cases f <;> rfl

/-- A loop of attempts is not changed by what makes no difference to an attempt on any machine that
the loop can come to. -/
theorem Retry.loop_congr {β : Type} {L : Leeway σ} (hL : L.Covers around) (p : Plan)
    {attempt attempt' : Action σ (β × Bool)} (hattempt : attempt.Keeps around L)
    {m₀ : Machine σ} (hsame : ∀ m, L.moves m₀ m → attempt' around m = attempt around m)
    (k : Nat) (last : β) {m : Machine σ} (hm : L.moves m₀ m) :
    loop p attempt' k last around m = loop p attempt k last around m := by
  induction k generalizing last m with
  | zero => rfl
  | succ k ih =>
    rw [loop_succ, loop_succ, hsame m hm]
    rcases h : attempt around m with ⟨⟨r, _ | _⟩ | e | _, n⟩
    · refine Action.bind_congr fun _ o hmiss => ih r ?_
      exact hL.trans (hL.trans hm (hattempt.moved h)) ((keeps_afterMiss hL p k).moved hmiss)
    · rfl
    · dsimp only
      split
      · refine Action.bind_congr fun _ o herror => ih last ?_
        exact hL.trans (hL.trans hm (hattempt.moved h)) ((keeps_afterError hL p k e).moved herror)
      · rfl
    · rfl

namespace Step

variable {c : Context} {token : Option Token} {m : Machine σ}

/-- A step comes to what another one of the same name and arguments comes to, if their bodies do on
the machine that they start on. -/
theorem execute_congr {s s' : Step σ} (hname : s'.name = s.name) (hargs : s'.args = s.args)
    (hbody : ∀ n, s.startOn c token m = some n → s'.body c around n = s.body c around n) :
    s'.execute c token around m = s.execute c token around m := by
  obtain ⟨name, args, body⟩ := s
  obtain ⟨name', args', body'⟩ := s'
  cases hname
  cases hargs
  by_cases hc : c.failure = none
  · rw [execute_run _ token around m hc, execute_run _ token around m hc]
    cases hreason : stopReason token m with
    | some reason => rfl
    | none =>
      have hcall := hbody _ ((startOn_eq_some ..).2 ⟨hc, hreason, rfl⟩)
      dsimp only
      rw [start_run _ around m hc, start_run _ around m hc]
      dsimp only [call, describe] at hcall ⊢
      rw [Action.awaited_run, Action.awaited_run, hcall]
      rfl
  · rw [execute_of_failed _ token around m hc, execute_of_failed _ token around m hc]

/-- A guard that lets through whatever the step is started on changes nothing. -/
theorem execute_guarded {G : Context → Machine σ → Prop} {s s' : Step σ}
    (hname : s'.name = s.name) (hargs : s'.args = s.args)
    (hG : ∀ n, s.startOn c token m = some n → G c n)
    (hbody : ∀ n, s.startOn c token m = some n → s'.body c around n = s.body c around n) :
    (s'.guarded G).execute c token around m = s.execute c token around m := by
  refine execute_congr hname hargs fun n hn => ?_
  rw [← hbody n hn]
  exact if_pos (hG n hn)

end Step

/-- Guards that let through everything that a run comes to that is given a token: contexts keep a
property that steps hand on, and the machine moves within a leeway. -/
structure Lets (around : Surroundings σ) (M : Manners σ)
    (picks : Callback σ (List Locator) (Option Focus) → Prop)
    (G : Context → Machine σ → Prop) (H : Context → Prop) (L : Leeway σ)
    (C : Context → Prop) (given : Option Token) (m₀ : Machine σ) : Prop where
  covers : L.Covers around
  callback : ∀ {β : Type} {f : Callback σ Context β}, M.callback f → f.Keeps around L
  keeps : ∀ (flow : Flow M picks) c token, (flow.toStep.execute c token).Keeps around L
  passes : ∀ (flow : Flow M picks) {c token m d n}, C c →
    flow.toStep.execute c token around m = (.done d, n) → C d
  holding : ∀ {c : Context} cell, C c → C (c.holding cell)
  hears : ∀ {c}, C c → H c
  starts : ∀ {c token m}, token = none ∨ token = given → C c → L.moves m₀ m →
    Step.stopReason token m = none → G c m

section Lets

variable {M : Manners σ} {picks : Callback σ (List Locator) (Option Focus) → Prop}
  {G : Context → Machine σ → Prop} {H : Context → Prop} {L : Leeway σ}
  {C : Context → Prop} {given : Option Token} {m₀ m : Machine σ} {c : Context}
  {token : Option Token}

namespace Lets

/-- A step with a guard comes to what the step comes to whose body does the same without guards. -/
theorem same (h : Lets around M picks G H L C given m₀) {s s' : Step σ}
    (hname : s'.name = s.name) (hargs : s'.args = s.args)
    (hbody : ∀ c, C c → ∀ n, L.moves m₀ n → s'.body c around n = s.body c around n)
    (htoken : token = none ∨ token = given) (hc : C c) (hm : L.moves m₀ m) :
    (s'.guarded G).execute c token around m = s.execute c token around m := by
  have hstart : ∀ n, s.startOn c token m = some n →
      L.moves m₀ n ∧ Step.stopReason token n = none := by
    intro n hn
    obtain ⟨-, hreason, rfl⟩ := (Step.startOn_eq_some ..).1 hn
    refine ⟨h.covers.trans hm (h.covers.given (by simp) _ _ _), ?_⟩
    simpa [Step.stopReason] using hreason
  exact Step.execute_guarded hname hargs
    (fun n hn => h.starts htoken hc (hstart n hn).1 (hstart n hn).2)
    fun n hn => hbody c hc n (hstart n hn).1

theorem same_ofBody (h : Lets around M picks G H L C given m₀) {name : String}
    {args args' : List (String × Value)} {body body' : Context → Action σ Context}
    (hargs : args' = args)
    (hbody : ∀ c, C c → ∀ n, L.moves m₀ n → body' c around n = body c around n)
    (htoken : token = none ∨ token = given) (hc : C c) (hm : L.moves m₀ m) :
    ((Step.ofBody name args' body').guarded G).execute c token around m =
      (Step.ofBody name args body).execute c token around m := by
  refine h.same rfl hargs (fun c hc n hn => ?_) htoken hc hm
  rw [Step.ofBody_run, Step.ofBody_run, hbody c hc n hn]

end Lets

namespace Flow

/-- The guards make no difference when the step is executed. -/
def Same (around : Surroundings σ) (G : Context → Machine σ → Prop) (H : Context → Prop)
    (L : Leeway σ) (C : Context → Prop) (given : Option Token) (m₀ : Machine σ)
    (flow : Flow M picks) : Prop :=
  ∀ {c token m}, token = none ∨ token = given → C c → L.moves m₀ m →
    (flow.guarded G H).execute c token around m = flow.toStep.execute c token around m

theorem guarded_name (flow : Flow M picks) : (flow.guarded G H).name = flow.toStep.name := by
  cases flow <;> rfl

@[simp] theorem shownOption_guarded (flow : Option (Flow M picks)) :
    Step.shownOption (guarded? G H flow) = Step.shownOption (toStep? flow) := by
  cases flow with
  | none => rfl
  | some flow => simp [guarded?, toStep?, Step.shownOption, guarded_name]

@[simp] theorem length_guardedAll (flows : List (Flow M picks)) :
    (guardedAll G H flows).length = (toSteps flows).length := by
  induction flows with
  | nil => rfl
  | cons flow rest ih => simp [guardedAll, toSteps, ih]

theorem Same.executeOption {flow : Option (Flow M picks)}
    (hflow : ∀ f ∈ flow, f.Same around G H L C given m₀) (hc : C c) (hm : L.moves m₀ m) :
    Step.executeOption (guarded? G H flow) c around m =
      Step.executeOption (toStep? flow) c around m := by
  cases flow with
  | none => rfl
  | some flow => exact hflow flow rfl (.inl rfl) hc hm

theorem same_runSteps (h : Lets around M picks G H L C given m₀) {flows : List (Flow M picks)}
    (hflows : ∀ f ∈ flows, f.Same around G H L C given m₀)
    (htoken : token = none ∨ token = given) (hc : C c) (hm : L.moves m₀ m) :
    Chain.runSteps token (guardedAll G H flows) c around m =
      Chain.runSteps token (toSteps flows) c around m := by
  induction flows generalizing c m with
  | nil => rfl
  | cons flow rest ih =>
    rw [List.forall_mem_cons] at hflows
    rw [guardedAll, toSteps, Chain.runSteps, Chain.runSteps, length_guardedAll]
    split
    · rfl
    · rw [Action.bind_run, Action.bind_run, hflows.1 htoken hc hm]
      rcases hrun : flow.toStep.execute c token around m with ⟨d | e | _, n⟩
      · have hn := h.covers.trans hm ((h.keeps flow _ _).moved hrun)
        exact ih hflows.2 (h.passes flow hc hrun) hn
      · rfl
      · rfl

theorem same_chain (h : Lets around M picks G H L C given m₀) {flows : List (Flow M picks)}
    (hflows : ∀ f ∈ flows, f.Same around G H L C given m₀) (name : Option String) :
    (chain flows name).Same around G H L C given m₀ :=
  fun htoken hc hm => h.same_ofBody (by simp [Chain.size, length_guardedAll])
    (fun _ hc _ hn => same_runSteps h hflows (.inl rfl) hc hn) htoken hc hm

theorem same_when (h : Lets around M picks G H L C given m₀)
    {predicate : Option (Callback σ Context Bool)} {flow otherwise : Option (Flow M picks)}
    {hpredicate : ∀ f ∈ predicate, M.callback f}
    (hflow : ∀ f ∈ flow, f.Same around G H L C given m₀)
    (hotherwise : ∀ f ∈ otherwise, f.Same around G H L C given m₀) :
    (when predicate flow otherwise hpredicate).Same around G H L C given m₀ := by
  intro c token m htoken hc hm
  refine h.same_ofBody (by simp) (fun c hc n hn => ?_) htoken hc hm
  cases predicate with
  | none => rfl
  | some predicate =>
    cases flow with
    | none => rfl
    | some flow =>
      change (Callback.invoke (predicate.guarded H) c >>= _) around n =
        (predicate.invoke c >>= _) around n
      rw [Callback.invoke_guarded (h.hears hc)]
      refine Action.bind_congr fun holds o hasked => ?_
      have hinvoke := (h.callback (hpredicate predicate rfl)).invoke h.covers c
      have ho := h.covers.trans hn (hinvoke.moved hasked)
      cases holds with
      | true => exact hflow flow rfl (.inl rfl) hc ho
      | false => exact Same.executeOption hotherwise hc ho

theorem same_loopRound (h : Lets around M picks G H L C given m₀)
    {predicate : Callback σ Context Bool} (hpredicate : M.callback predicate)
    {flow : Flow M picks} (hflow : flow.Same around G H L C given m₀) {most : Value}
    {state : Step.LoopState} (hstate : C state.context) (hm : L.moves m₀ m) :
    Step.loopRound (predicate.guarded H) (flow.guarded G H) most state around m =
      Step.loopRound predicate flow.toStep most state around m := by
  rw [Step.loopRound, Step.loopRound, Callback.invoke_guarded (h.hears hstate)]
  refine Action.bind_congr fun holds n hasked => ?_
  have hn := h.covers.trans hm (((h.callback hpredicate).invoke h.covers _).moved hasked)
  cases holds with
  | false => simp only [Bool.false_eq_true, if_false]
  | true =>
    refine Action.bind_congr fun exhausted o hexhausted => ?_
    obtain ⟨-, rfl⟩ := Action.ofExcept_eq_done.1 hexhausted
    cases exhausted with
    | true => simp only [if_true]
    | false =>
      simp only [Bool.false_eq_true, if_false, Step.loopRound.go]
      rw [Action.bind_run, Action.bind_run, hflow (.inl rfl) hstate hn]

theorem same_repeatWhile (h : Lets around M picks G H L C given m₀)
    {predicate : Option (Callback σ Context Bool)} {flow : Option (Flow M picks)} {most : Value}
    {hpredicate : ∀ f ∈ predicate, M.callback f}
    (hflow : ∀ f ∈ flow, f.Same around G H L C given m₀) :
    (repeatWhile predicate flow most hpredicate).Same around G H L C given m₀ := by
  intro c token m htoken hc hm
  refine h.same_ofBody (by simp) (fun c hc n hn => ?_) htoken hc hm
  cases predicate with
  | none => rfl
  | some predicate =>
    cases flow with
    | none => rfl
    | some flow =>
      have hpredicate := hpredicate predicate rfl
      change (Step.loopRounds most >>= fun k =>
          Action.rounds k (Step.loopRound (predicate.guarded H) (flow.guarded G H) most) (.mk c 0))
          around n =
        (Step.loopRounds most >>= fun k =>
          Action.rounds k (Step.loopRound predicate flow.toStep most) (.mk c 0)) around n
      refine Action.bind_congr fun k o hrounds => ?_
      have ho := h.covers.trans hn ((Step.keeps_loopRounds h.covers most).moved hrounds)
      -- A round carries on with what the body gave, on a machine that the body has left.
      refine Action.rounds_congr (I := fun state x => C state.context ∧ L.moves m₀ x)
        (fun state x hx => same_loopRound h hpredicate (hflow flow rfl) hx.1 hx.2) ?_ k ⟨hc, ho⟩
      rintro state next x z ⟨hstate, hx⟩ hround
      obtain ⟨y, hasked, -, hbody, -⟩ := Step.loopRound_onward hround
      have hy := h.covers.trans hx (((h.callback hpredicate).invoke h.covers _).moved hasked)
      exact ⟨h.passes flow hstate hbody, h.covers.trans hy ((h.keeps flow _ _).moved hbody)⟩

/-- The callback is handed what the step came to, and the guards let that through. -/
theorem same_use (h : Lets around M picks G H L C given m₀) {β : Type}
    {action : Option (Callback σ Context β)} {flow : Option (Flow M picks)}
    {haction : ∀ f ∈ action, M.callback f}
    (hflow : ∀ f ∈ flow, f.Same around G H L C given m₀) :
    (use action flow haction).Same around G H L C given m₀ := by
  intro c token m htoken hc hm
  refine h.same_ofBody (by simp) (fun c hc n hn => ?_) htoken hc hm
  cases action with
  | none => rfl
  | some action =>
    change (Step.executeOption (guarded? G H flow) c >>= _) around n =
      (Step.executeOption (toStep? flow) c >>= _) around n
    rw [Action.bind_run, Action.bind_run, Same.executeOption hflow hc hn]
    rcases hfirst : Step.executeOption (toStep? flow) c around n with ⟨d | e | _, o⟩
    · have hd : C d := by
        cases flow with
        | none => cases hfirst; exact hc
        | some flow => exact h.passes flow hc hfirst
      dsimp only
      split
      · rfl
      · rw [Context.use, Context.use, Context.handOver, Context.handOver,
          Callback.invoke_guarded (h.hears hd)]
    · rfl
    · rfl

theorem same_useElement (h : Lets around M picks G H L C given m₀) {β : Type}
    {action : Option (Callback σ Focus β)} {flow : Option (Flow M picks)}
    {haction : ∀ f ∈ action, M.callback f}
    (hflow : ∀ f ∈ flow, f.Same around G H L C given m₀) :
    (useElement action flow haction).Same around G H L C given m₀ := by
  intro c token m htoken hc hm
  refine h.same_ofBody (by simp) (fun c hc n hn => ?_) htoken hc hm
  cases action with
  | none => rfl
  | some action =>
    dsimp only
    rw [Action.bind_run, Action.bind_run, Same.executeOption hflow hc hn]

theorem same_ifExists (h : Lets around M picks G H L C given m₀) {selector timeout : Value}
    {onTrue onFalse : Option (Flow M picks)}
    (htrue : ∀ f ∈ onTrue, f.Same around G H L C given m₀)
    (hfalse : ∀ f ∈ onFalse, f.Same around G H L C given m₀) :
    (ifExists selector timeout onTrue onFalse).Same around G H L C given m₀ := by
  intro c token m htoken hc hm
  refine h.same_ofBody (by simp) (fun c hc n hn => ?_) htoken hc hm
  refine Action.bind_congr fun shown o hshown => ?_
  obtain ⟨-, rfl⟩ := Action.ofExcept_eq_done.1 hshown
  refine Action.bind_congr fun found o hfound => ?_
  have hprobe : (c.exists shown timeout).Keeps around L :=
    Probe.keeps_run h.covers (fun _ _ => trivial) _ _ _ _
  have ho := h.covers.trans hn (hprobe.moved hfound)
  cases found with
  | true => exact Same.executeOption htrue hc ho
  | false => exact Same.executeOption hfalse hc ho

theorem same_retrying (h : Lets around M picks G H L C given m₀) {flow : Flow M picks}
    (hflow : flow.Same around G H L C given m₀) (attempts backoff baseDelayMs : Value) :
    (retrying flow attempts backoff baseDelayMs).Same around G H L C given m₀ := by
  intro c token m htoken hc hm
  refine h.same_ofBody (by simp [guarded_name]) (fun c hc n hn => ?_) htoken hc hm
  refine Action.bind_congr fun cell o hcell => ?_
  have hheld : C (c.holding cell) := h.holding cell hc
  have ho := h.covers.trans hn ((Action.Keeps.newReference h.covers).moved hcell)
  refine Action.bind_congr fun p x hplan => ?_
  have hx := h.covers.trans ho ((Retry.keeps_plan h.covers _ _ _).moved hplan)
  have hattempt : (Retry.attempt flow.toStep (c.holding cell)).Keeps around L :=
    (h.keeps flow _ none).bind h.covers fun _ => .pure h.covers _
  have hsame : ∀ y, L.moves m₀ y →
      Retry.attempt (flow.guarded G H) (c.holding cell) around y =
        Retry.attempt flow.toStep (c.holding cell) around y := by
    intro y hy
    rw [Retry.attempt_run, Retry.attempt_run, hflow (.inl rfl) hheld hy]
  change (Retry.run p (Retry.attempt (flow.guarded G H) (c.holding cell)) (c.holding cell) >>= _)
    around x = (Retry.run p (Retry.attempt flow.toStep (c.holding cell)) (c.holding cell) >>= _)
    around x
  rw [Action.bind_run, Action.bind_run, Retry.run, Retry.run,
    Retry.loop_congr h.covers p hattempt hsame p.attempts _ hx]

mutual

/-- Guards that let through everything that a run comes to make no difference to it. -/
theorem same (h : Lets around M picks G H L C given m₀) :
    ∀ flow : Flow M picks, flow.Same around G H L C given m₀
  | own _ _ => h.same rfl rfl fun _ _ _ _ => rfl
  | plain _ _ => h.same rfl rfl fun _ _ _ _ => rfl
  | chain flows name => same_chain h (sameAll h flows) name
  | when _ flow otherwise _ => same_when h (same? h flow) (same? h otherwise)
  | repeatWhile _ flow _ _ => same_repeatWhile h (same? h flow)
  | use _ flow _ => same_use h (same? h flow)
  | useElement _ flow _ => same_useElement h (same? h flow)
  | ifExists _ _ onTrue onFalse => same_ifExists h (same? h onTrue) (same? h onFalse)
  | retrying flow attempts backoff baseDelayMs =>
    same_retrying h (same h flow) attempts backoff baseDelayMs

theorem sameAll (h : Lets around M picks G H L C given m₀) :
    ∀ flows : List (Flow M picks), ∀ f ∈ flows, f.Same around G H L C given m₀
  | [] => by simp
  | flow :: rest => by
    rw [List.forall_mem_cons]
    exact ⟨same h flow, sameAll h rest⟩

theorem same? (h : Lets around M picks G H L C given m₀) :
    ∀ flow : Option (Flow M picks), ∀ f ∈ flow, f.Same around G H L C given m₀
  | none => by simp
  | some flow => by
    intro f hf
    cases hf
    exact same h flow

end

end Flow

/-- A chain that is run under guards that let through everything comes to the same. -/
theorem Chain.run_guarded (flows : List (Flow M picks))
    (h : Lets around M picks G H L C token (entered token m)) (hc : C c) :
    Chain.run ⟨Flow.guardedAll G H flows⟩ c token around m =
      Chain.run ⟨Flow.toSteps flows⟩ c token around m := by
  rw [run_run, run_run,
    Flow.same_runSteps h (Flow.sameAll h flows) (.inr rfl) hc (h.covers.refl _)]

end Lets

end BrowserFlow
