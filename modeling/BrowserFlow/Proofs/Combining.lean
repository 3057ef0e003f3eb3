import BrowserFlow.Proofs.Reporting

/-!
# Trees report

Steps that hand something to a callback report when the callback keeps to the leeway, and
combinators report when the steps inside them do, since they look at the failure of what they have
run before they go on. So does every tree of steps. Retrying reports to a holder first; whether it
reports is asked of whoever says what recording a failure is.
-/
namespace BrowserFlow

open BrowserFlow.Action (Keeps Reports)
open BrowserFlow.Context (DerivedFrom Follows)

variable {σ : Type} {around : Surroundings σ} {A : Account σ}

namespace Deed

variable {L : Leeway σ} {keeps : Bool} {P : Context → Prop} {c : Context} {p : Action σ Context}

/-- What is known of the context that is handed on without a failure. -/
theorem gives (h : Deed around L keeps P c p) (hc : c.failure = none) :
    p.Gives around fun d => d.failure = none → P d := by
  induction h with
  | work h => exact fun hdone _ => h.gives hdone
  | after hp _ ih =>
    intro m d n hdone
    obtain ⟨a, n', ha, hf⟩ := (Action.bind_eq_done around m).1 hdone
    exact ih a (hp.gives ha) hc hf
  | keep f h =>
    intro m d n hdone _
    cases hdone
    exact h
  | @fail _ _ c payload step =>
    intro m d n hdone hd
    rw [Context.withFailure_run c around m hc] at hdone
    split at hdone <;> cases hdone
    cases hd
  | onward _ hact ih =>
    intro m e o hdone he
    obtain ⟨d, n, hexecute, hrest⟩ := (Action.bind_eq_done around m).1 hdone
    cases hd : d.failure with
    | some f =>
      rw [if_pos (Context.hasFailure_of_ne (by simp [hd]))] at hrest
      cases hrest
      rw [hd] at he
      cases he
    | none =>
      rw [if_neg (by simp [Context.hasFailure_of_none hd])] at hrest
      obtain ⟨k, _, hbody⟩ := Step.execute_ofBody_unfailed hexecute hd
      exact (hact d (ih _ hc hbody hd)).gives hrest

/-- A deed reports, if the context that it hands on without a failure is derived from the one it was
done for. -/
theorem reports (hA : A.Records around) (h : Deed around A.toLeeway keeps P c p)
    (hP : ∀ d, P d → d.DerivedFrom c) (hc : c.failure = none) : p.Reports around A c.sink := by
  induction h with
  | work h => exact .of_work hA (h.mono hP) hc
  | after hp _ ih => exact .work_bind hA hp fun a ha => ih a ha hP hc
  | keep f h =>
    intro m
    refine ⟨hA.same _, ?_⟩
    rw [hc]
    exact hA.stores m _
  | fail payload step => exact .withFailure hA hc payload step
  | onward hbody hact ih =>
    have hinner : ∀ name args, (Step.ofBody name args _).Reports around A := fun _ _ =>
      Step.reports_ofBody fun d hd => ih d (fun _ h => h.toDerivedFrom) hd
    refine ((hinner _ _).execute hA hc none).unlessFailed hA fun d ⟨m, n, hdone⟩ hd => ?_
    obtain ⟨k, _, hgiven⟩ := Step.execute_ofBody_unfailed hdone hd
    have hfollows := (hbody _).gives hc hgiven hd
    exact .of_work hA ((hact d hfollows).mono fun e he => hfollows.sibling (hP e he)) hd

end Deed

theorem Plain.reports (hA : A.Records around) {s : Step σ}
    (h : Plain (.reporting around A) (Manners.reporting around A).callback s) :
    s.Reports around A := by
  obtain ⟨name, args, body, rfl, hbody⟩ := h.does (R := DerivedFrom)
    (fun hf a => hf.invoke hA.toCovers a)
    (fun hf c => ⟨hf.1.invoke hA.toCovers c, hf.2.invoke c⟩)
    (fun hf ls => ⟨Callback.Keeps.invoke hA.toCovers hf ls,
      fun _ _ _ _ _ => ⟨rfl, rfl, rfl, rfl⟩⟩)
    (fun hs => hs.does.mono Follows.toDerivedFrom) (fun h => h.toDerivedFrom)
  exact Step.reports_ofBody fun c hc => (hbody c).reports hA (fun _ h => h) hc

namespace Step

/-- An argument that is missing is reported by its error. -/
theorem reports_require (hA : A.Records around) {α : Type} {argument : Option α}
    {label what : String}
    {f : α → Action σ Context} {sink : Sink}
    (hf : ∀ a ∈ argument, (f a).Reports around A sink) :
    (require argument label what >>= f).Reports around A sink := by
  cases argument with
  | none => exact fun m => ⟨hA.refl m, hA.own (Raised.recordable_step _ _)⟩
  | some a => exact hf a rfl

theorem reports_when (hA : A.Records around) {predicate : Option (Callback σ Context Bool)}
    {step otherwise : Option (Step σ)}
    (hpredicate : ∀ f ∈ predicate, f.Keeps around A.toLeeway)
    (hstep : ∀ s ∈ step, s.Reports around A)
    (hotherwise : ∀ s ∈ otherwise, s.Reports around A) :
    (when predicate step otherwise).Reports around A := by
  have hL := hA.toCovers
  refine reports_ofBody fun c hc => reports_require hA fun f hf => reports_require hA fun s hs => ?_
  refine .keeps_bind hA ((hpredicate f hf).invoke hL c) fun holds => ?_
  cases holds with
  | true => exact (hstep s hs).execute hA hc none
  | false => exact Step.Reports.executeOption hA hotherwise hc

end Step

namespace Chain

theorem runSteps_reports (hA : A.Records around) (token : Option Token) {steps : List (Step σ)}
    (hsteps : ∀ s ∈ steps, s.Reports around A) {c : Context} (hc : c.failure = none) :
    (runSteps token steps c).Reports around A c.sink := by
  induction steps generalizing c with
  | nil => exact .pure hA hc
  | cons s rest ih =>
    rw [List.forall_mem_cons] at hsteps
    rw [runSteps, if_neg (by simp [Context.hasFailure_of_none hc])]
    refine (hsteps.1.execute hA hc token).bind hA (fun d _ hd => ih hsteps.2 hd) fun d hd m => ?_
    exact runSteps_skips around token hd rest m

/-- A chain puts the former token back, whichever way it ends. -/
theorem run_reports (hA : A.Records around) (chain : Chain σ) (token : Option Token)
    (hswitches : token ≠ none → A.Switches)
    (hsteps : ∀ s ∈ chain.steps, s.Reports around A) {c : Context} (hc : c.failure = none) :
    (chain.run c token).Reports around A c.sink := by
  intro m
  have hreports := runSteps_reports hA token hsteps hc
  rw [run_run]
  cases token with
  | none => exact hreports m
  | some given =>
    have hswitches := hswitches (by simp)
    have hrun := (hreports (entered (some given) m)).before hA (hswitches.active m (some given))
    exact hrun.switched hA hswitches m.active

theorem asStep_reports (hA : A.Records around) {steps : List (Step σ)} {name : Option String}
    (hsteps : ∀ s ∈ steps, s.Reports around A) : (asStep ⟨steps⟩ name).Reports around A :=
  Step.reports_ofBody fun _ hc => run_reports hA ⟨steps⟩ none (by simp) hsteps hc

end Chain

namespace Step

theorem loopRound_carries (hA : A.Records around) {predicate : Callback σ Context Bool}
    {body : Step σ}
    {most : Value} (hpredicate : predicate.Keeps around A.toLeeway) (hbody : body.Reports around A)
    {sink : Sink} {state : LoopState}
    (hstate : state.context.failure = none ∧ A.sinks sink state.context.sink) :
    (loopRound predicate body most state).Carries around A
      (fun next => next.context.failure = none ∧ A.sinks sink next.context.sink) sink := by
  have hL := hA.toCovers
  obtain ⟨hc, hsink⟩ := hstate
  have hreports : ∀ {p : Action σ Context}, p.Reports around A state.context.sink →
    p.Reports around A sink :=
    fun hp m => (hp m).back hA hsink
  refine .keeps_bind hA (hpredicate.invoke hL state.context) fun holds => ?_
  cases holds with
  | false => exact .last (hreports (.pure hA hc))
  | true =>
    refine .keeps_bind hA (.compute hL (recordableIn_isExhausted most _)) fun exhausted => ?_
    cases exhausted with
    | true => exact .last (hreports (Reports.fail hA hc _ _ _))
    | false =>
      exact .onward (hreports (hbody.execute hA hc none)) fun d hd hd' => ⟨hd, hd'⟩

theorem keeps_loopRounds {L : Leeway σ} (hL : L.Covers around) (most : Value) :
    (loopRounds most : Action σ Nat).Keeps around L := by
  rw [loopRounds]
  split
  · exact .pure hL _
  · exact .pure hL _
  · exact .patience hL

theorem reports_repeatWhile (hA : A.Records around) {predicate : Option (Callback σ Context Bool)}
    {step : Option (Step σ)} {most : Value}
    (hpredicate : ∀ f ∈ predicate, f.Keeps around A.toLeeway)
    (hstep : ∀ s ∈ step, s.Reports around A) :
    (repeatWhile predicate step most).Reports around A := by
  have hL := hA.toCovers
  refine reports_ofBody fun c hc => reports_require hA fun f hf => reports_require hA fun s hs => ?_
  refine .keeps_bind hA (keeps_loopRounds hL most) fun k => ?_
  exact Action.Carries.rounds hA (fun state hstate =>
    loopRound_carries hA (hpredicate f hf) (hstep s hs) hstate) k
    ⟨hc, hA.same _⟩

end Step

namespace Context

theorem reports_handOver (hA : A.Records around) {α β : Type} {action : Callback σ α β}
    (haction : action.Keeps around A.toLeeway) {c : Context} (hc : c.failure = none) (a : α)
    (step : String) : (c.handOver action a step : Action σ Context).Reports around A c.sink := by
  have hL := hA.toCovers
  refine .keeps_bind hA (.rescue (haction.invoke hL a)) fun r => ?_
  cases r with
  | ok _ => exact .pure hA hc
  | error e => exact .withFailure hA hc _ _

theorem reports_use (hA : A.Records around) {β : Type} {action : Callback σ Context β}
    (haction : action.Keeps around A.toLeeway) {c : Context} (hc : c.failure = none) :
    (c.use (some action) : Action σ Context).Reports around A c.sink :=
  reports_handOver hA haction hc c _

end Context

namespace Step

theorem reports_use (hA : A.Records around) {β : Type} {action : Option (Callback σ Context β)}
    {step : Option (Step σ)} (haction : ∀ f ∈ action, f.Keeps around A.toLeeway)
    (hstep : ∀ s ∈ step, s.Reports around A) : (use action step).Reports around A := by
  refine reports_ofBody fun c hc => ?_
  cases action with
  | none => exact .fail hA hc _ _ _
  | some f =>
    exact (Reports.executeOption hA hstep hc).unlessFailed hA fun d _ hd =>
      Context.reports_use hA (haction f rfl) hd

theorem reports_useElement (hA : A.Records around) {β : Type}
    {action : Option (Callback σ Focus β)} {step : Option (Step σ)}
    (haction : ∀ f ∈ action, f.Keeps around A.toLeeway)
    (hstep : ∀ s ∈ step, s.Reports around A) : (useElement action step).Reports around A := by
  refine reports_ofBody fun c hc => ?_
  cases action with
  | none => exact .fail hA hc _ _ _
  | some f =>
    refine (Reports.executeOption hA hstep hc).unlessFailed hA fun d _ hd => ?_
    cases d.focus with
    | none => exact .pure hA hd
    | some focus => exact Context.reports_handOver hA (haction f rfl) hd focus _

theorem reports_ifExists (hA : A.Records around) {selector timeout : Value}
    {onTrue onFalse : Option (Step σ)}
    (htrue : ∀ s ∈ onTrue, s.Reports around A)
    (hfalse : ∀ s ∈ onFalse, s.Reports around A) :
    (ifExists selector onTrue onFalse timeout).Reports around A := by
  have hL := hA.toCovers
  refine reports_ofBody fun c hc => ?_
  refine .keeps_bind hA (.compute hL (Query.recordableIn_requireSelector _ _)) fun selector => ?_
  refine .work_bind hA (Probe.work_run "exists" c selector selector timeout) fun found _ => ?_
  cases found with
  | true => exact Reports.executeOption hA htrue hc
  | false => exact Reports.executeOption hA hfalse hc

end Step

/-- A tree of steps reports; one with retries does so if retrying a step that reports is
reported. -/
theorem Tree.reports (hA : A.Records around) {retries : Bool}
    (hretrying : retries = true → ∀ (body : Step σ) (attempts backoff baseDelayMs : Value),
      body.Reports around A →
      (body.retrying attempts backoff baseDelayMs).Reports around A)
    {s : Step σ} (hs : Tree (.reporting around A) retries s) : s.Reports around A := by
  induction hs with
  | own h => exact h
  | atomic h => exact Plain.reports hA (.atomic h)
  | collectionFilter hpick => exact Plain.reports hA (.collectionFilter hpick)
  | assertion hpredicate hmessage => exact Plain.reports hA (.assertion hpredicate hmessage)
  | createFailure hproblem => exact Plain.reports hA (.createFailure hproblem)
  | chain _ ih => exact Chain.asStep_reports hA ih
  | when hpredicate _ _ hstep hotherwise => exact Step.reports_when hA hpredicate hstep hotherwise
  | repeatWhile hpredicate _ hstep => exact Step.reports_repeatWhile hA hpredicate hstep
  | use haction _ hstep => exact Step.reports_use hA haction hstep
  | useElement haction _ hstep => exact Step.reports_useElement hA haction hstep
  | ifExists _ _ htrue hfalse => exact Step.reports_ifExists hA htrue hfalse
  | retrying h _ ih => exact hretrying h _ _ _ _ ih

end BrowserFlow
