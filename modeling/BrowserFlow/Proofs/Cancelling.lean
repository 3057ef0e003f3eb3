import BrowserFlow.Proofs.Guarding
import BrowserFlow.Proofs.Regardless

/-!
# Cancelling a run

A run that was given a token polls it wherever it is about to start a step, at every depth: the
token is the active one at every visit, and once it has been cancelled, by whatever runs inside the
run or outside before it, no body is started any more. A visit then comes to a failure that names
the step, and so does the run, unless the visit was made in an attempt of a retry that is not the
last that may be made. Callbacks and steps of the caller's own have to leave the active token as
they found it, and cannot take a cancellation back.
-/
namespace BrowserFlow

variable {σ : Type} {around : Surroundings σ} {L : Leeway σ}

section Moving

variable {c : Context} {token : Option Token} {m n : Machine σ} {last : Bool}
  {flow : Flow (.reporting around (.regardless L))}

theorem Flow.keeps (hL : L.Suffices around) (flow : Flow (.reporting around (.regardless L)))
    (c : Context) (token : Option Token) : (flow.toStep.execute c token).Keeps around L :=
  Tree.keeps hL ((Step.Spreads.tree id).toStep flow) c token

theorem Leads.moves (hL : L.Suffices around)
    {flows : List (Flow (.reporting around (.regardless L)))} {v : Visit _}
    (h : Leads around token flows c m v) : L.moves m v.machine := by
  induction h with
  | here => exact hL.refl _
  | onward hfirst _ ih => exact hL.trans ((Flow.keeps hL _ _ _).moved hfirst) ih

/-- Between the start of a body and a visit that it makes everything lies within the leeway. -/
theorem Flow.Runs.moves (hL : L.Suffices around) {v : Visit _}
    (h : flow.Runs around c m last v) : L.moves m v.machine := by
  have hcovers := hL.toCovers
  cases h with
  | plain => exact hL.refl m
  | chain h => exact h.moves hL
  | @whenTrue _ _ _ hpredicate _ _ _ h =>
    exact (Callback.Keeps.invoke hcovers (hpredicate _ rfl) c).moved h
  | @whenFalse _ _ _ hpredicate _ _ _ h =>
    exact (Callback.Keeps.invoke hcovers (hpredicate _ rfl) c).moved h
  | @repeatWhile predicate flow most hpredicate _ _ _ _ state _ _ _ hcarried h _ =>
    have hasking := fun c => Callback.Keeps.invoke hcovers (hpredicate predicate rfl) c
    refine hL.trans (hcarried.invariant (I := fun _ n => L.moves m n) ?_ (hL.refl m))
      ((hasking state.context).moved h)
    intro s _ _ _ hmoves hround
    obtain ⟨_, hasked, -, hbody, -⟩ := Step.loopRound_onward hround
    exact hL.trans hmoves (hL.trans ((hasking s.context).moved hasked)
      ((flow.keeps hL _ _).moved hbody))
  | use => exact hL.refl m
  | useElement => exact hL.refl m
  | ifExistsTrue _ h =>
    exact (Probe.keeps_run hcovers (fun _ _ => trivial) _ _ _ _).moved h
  | ifExistsFalse _ h =>
    exact (Probe.keeps_run hcovers (fun _ _ => trivial) _ _ _ _).moved h
  | @retrying flow _ _ _ _ _ _ _ _ _ hplan hx =>
    have hattempt : (Retry.attempt flow.toStep (c.holding m.fresh)).Keeps around L :=
      (flow.keeps hL _ none).bind hcovers fun _ => .pure hcovers _
    have hbegun := Retry.begun_moves hcovers hattempt (c.holding m.fresh) (List.mem_of_getElem? hx)
    have hterms := (Retry.keeps_plan hcovers _ _ _).moved hplan
    exact hL.trans (hL.fresh m) (hL.trans hterms hbegun)

theorem Visit.Reaches.moves (hL : L.Suffices around)
    {v w : Visit (.reporting around (.regardless L))} (h : v.Reaches around last w) :
    L.moves v.machine w.machine := by
  induction h with
  | self => exact hL.refl _
  | inside hbegins hruns _ ih =>
    obtain ⟨-, -, rfl⟩ := (Step.startOn_eq_some ..).1 hbegins
    exact hL.trans (hL.toCovers.given (by simp) _ _ _) (hL.trans (hruns.moves hL) ih)

theorem Chain.Visits.moves (hL : L.Suffices around)
    {flows : List (Flow (.reporting around (.regardless L)))} {v : Visit _}
    (h : Chain.Visits around flows c token m last v) : L.moves (entered token m) v.machine := by
  obtain ⟨w, hleads, hreaches⟩ := h
  exact hL.trans (hleads.moves hL) (hreaches.moves hL)

end Moving

/-- The token has been cancelled. -/
def Machine.Stopped (m : Machine σ) (t : Token) : Prop :=
  ∃ reason, m.cancelled.lookup t = some reason

/-- Anything may happen that leaves the active token as it was and takes no cancellation back. -/
def Leeway.loyal (σ : Type) : Leeway σ :=
  ⟨fun m n => n.active = m.active ∧ ∀ t, m.Stopped t → n.Stopped t, fun _ => True⟩

theorem Leeway.loyal_suffices (around : Surroundings σ) : (loyal σ).Suffices around where
  refl := fun _ => ⟨rfl, fun _ h => h⟩
  trans := fun h h' => ⟨h'.1.trans h.1, fun t ht => h'.2 t (h.2 t ht)⟩
  emit := fun _ _ => ⟨rfl, fun _ h => h⟩
  stores := fun _ _ => ⟨rfl, fun _ h => h⟩
  failing := fun sink text m => ⟨by simp, fun _ h => by simpa [Machine.Stopped] using h⟩
  fresh := fun _ => ⟨rfl, fun _ h => h⟩
  call := fun c _ m => by
    rw [Action.call_run]
    exact ⟨⟨rfl, fun _ h => h⟩, fun _ _ => trivial⟩
  own := fun _ => trivial
  leaving := fun _ => trivial
  settings := fun _ => trivial

/-- Cancelling a token, any token, is loyal. -/
theorem Leeway.loyal_cancel (around : Surroundings σ) (t : Token) (reason : Value) :
    (Action.cancel t reason : Action σ Unit).Keeps around (.loyal σ) := by
  refine fun m => ⟨⟨rfl, fun t' ⟨former, hformer⟩ => ?_⟩, fun e he => by cases he⟩
  by_cases ht : t' = t
  · exact ⟨reason, by simp [Action.cancel, ht]⟩
  · have ht : (t' == t) = false := by simpa using ht
    exact ⟨former, by simpa [Action.cancel, List.lookup_cons, ht] using hformer⟩

/-- A visit that heeds a cancelled token comes to a failure and leaves the body alone. -/
theorem Visit.ended_of_stopped {M : Manners σ}
    {picks : Callback σ (List Locator) (Option Focus) → Prop} {v : Visit M picks}
    (around : Surroundings σ) (hc : v.context.failure = none) {reason : Value}
    (hreason : Step.stopReason v.token v.machine = some reason) :
    v.begins = none ∧ v.ended around =
      (.done { v.context with failure := some (v.flow.toStep.cancelFailure reason) },
        v.context.sink.given .error (v.flow.toStep.cancelFailure reason).line v.machine) := by
  constructor
  · rw [begins, Step.startOn, hreason, ite_self]
  · rw [ended, Step.execute_run _ _ _ _ hc, hreason]

/-- Under a token that is the active one nothing is started that has it cancelled. -/
theorem Leeway.loyal_lets {t : Token} {m : Machine σ} (hactive : m.active = some t) :
    Lets around (.reporting around (.regardless (.loyal σ)))
      (Manners.reporting around (.regardless (.loyal σ))).callback (fun _ n => ¬ n.Stopped t)
      (fun _ => True) (.loyal σ) (fun _ => True) (some t) m where
  covers := (loyal_suffices around).toCovers
  callback := fun hf => hf
  keeps := fun flow c token => flow.keeps (loyal_suffices around) c token
  passes := fun _ _ _ _ _ _ _ _ => trivial
  holding := fun _ _ => trivial
  hears := fun _ => trivial
  starts := by
    rintro c token n htoken - ⟨hmoved, -⟩ hreason ⟨reason, hstopped⟩
    have hnone : n.cancelled.lookup t = none := by
      rw [Step.stopReason, hmoved.trans hactive] at hreason
      rcases htoken with rfl | rfl <;> exact hreason
    rw [hnone] at hstopped
    cases hstopped

/-- A run that was given a token heeds it at every visit, whatever has happened by then. -/
theorem Chain.run_heeds_token (flows : List (Flow (.reporting around (.regardless (.loyal σ)))))
    (c : Context) (t : Token) (m : Machine σ) :
    (∀ last v, Chain.Visits around flows c (some t) m last v →
      v.machine.active = some t ∧ (m.Stopped t → v.machine.Stopped t) ∧
        (v.machine.Stopped t → (v.ended around).2.Stopped t) ∧
        ∀ reason, v.machine.cancelled.lookup t = some reason → v.begins = none ∧
          v.ended around =
            (.done { v.context with failure := some (v.flow.toStep.cancelFailure reason) },
              v.context.sink.given .error (v.flow.toStep.cancelFailure reason).line v.machine) ∧
          (last = true → FailsWith (v.flow.toStep.cancelFailure reason)
            (Chain.run ⟨Flow.toSteps flows⟩ c (some t) around m))) ∧
    Chain.run ⟨Flow.guardedAll (fun _ n => ¬ n.Stopped t) (fun _ => True) flows⟩ c (some t)
        around m =
      Chain.run ⟨Flow.toSteps flows⟩ c (some t) around m ∧
    (Chain.run ⟨Flow.toSteps flows⟩ c (some t) around m).2.active = m.active := by
  have hL := Leeway.loyal_suffices around
  refine ⟨fun last v hv => ?_, run_guarded flows (Leeway.loyal_lets rfl) trivial,
    by rw [run_run]; rfl⟩
  obtain ⟨hactive, hstopped⟩ := hv.moves hL
  refine ⟨hactive, hstopped t, ((v.flow.keeps hL _ _ _).1).2 t, fun reason hreason => ?_⟩
  have hheeded : Step.stopReason v.token v.machine = some reason := by
    rw [Step.stopReason, hactive]
    rcases hv.token_eq with htoken | htoken <;> rw [htoken] <;> exact hreason
  obtain ⟨hbegins, hended⟩ := Visit.ended_of_stopped around hv.visit_unfailed hheeded
  refine ⟨hbegins, hended, ?_⟩
  rintro rfl
  exact hv.relay ⟨_, _, hended, rfl⟩

/-- A callback of an inner chain cancels the token of the outer one. -/
theorem Chain.run_heeds_token_nested :
    let around : Surroundings Unit := ⟨.broken, .ok {}, 0⟩
    let t : Token := ⟨"t"⟩
    let stop : Step Unit := .ofCallback ⟨none, .callable "stop", fun _ c => do
      Action.cancel t (.str "enough")
      return .context c⟩
    let c : Context := { session := ⟨"fake", "s"⟩, items := 0, sink := .recorder }
    let ended :=
      Chain.run ⟨[Chain.asStep ⟨[stop, .pressEnter]⟩]⟩ c (some t) around (Machine.start ())
    FailsWith ⟨.cancelled, "Chain cancelled before 'press_enter': enough", some "press_enter",
      some "ChainCancelledError"⟩ ended ∧ ended.2.active = none := by
  intro around t stop c ended
  have hstop : stop.Reports around (.regardless (.loyal Unit)) := by
    refine fun c hc m => ⟨trivial, ?_⟩
    rw [hc]
    exact (Leeway.loyal_cancel around t (.str "enough") m).1
  let leaf : Flow (.reporting around (.regardless (.loyal Unit))) :=
    .plain .pressEnter (.atomic .pressEnter)
  let inner : Flow (.reporting around (.regardless (.loyal Unit))) :=
    .chain [.own stop hstop, leaf] none
  obtain ⟨hheeds, -, hactive⟩ := Chain.run_heeds_token [inner] c t (Machine.start ())
  let started : Machine Unit := { Machine.start () with
    active := some t, log := [.line .step inner.toStep.describe] }
  let stopped : Machine Unit := { started with
    cancelled := [(t, .str "enough")], log := started.log ++ [.line .step stop.describe] }
  have hfirst : stop.execute c none around started = (.done c, stopped) := rfl
  have hruns : inner.Runs around c started true ⟨leaf, none, c, stopped⟩ :=
    .chain (.onward hfirst (.here rfl))
  have hvisit : Chain.Visits around [inner] c (some t) (Machine.start ()) (true && true)
      ⟨leaf, none, c, stopped⟩ := ⟨_, .here rfl, .inside rfl hruns (.self _)⟩
  have hfailure : leaf.toStep.cancelFailure (.str "enough") = ⟨.cancelled,
      "Chain cancelled before 'press_enter': enough", some "press_enter",
      some "ChainCancelledError"⟩ := rfl
  have hfails := ((hheeds _ _ hvisit).2.2.2 (.str "enough") rfl).2.2 rfl
  rw [hfailure] at hfails
  exact ⟨hfails, hactive⟩

/-- The delay after a cancelled attempt is past the range of floats, and the error of that is what
comes back. -/
theorem Chain.run_loses_cancellation :
    let around : Surroundings Unit := ⟨.broken, .ok {}, 0⟩
    let t : Token := ⟨"t"⟩
    let stop : Step Unit := .ofCallback ⟨none, .callable "stop", fun _ c => do
      Action.cancel t (.str "enough")
      return .context c⟩
    let c : Context := { session := ⟨"fake", "s"⟩, items := 0, sink := .recorder }
    let inner : Step Unit := Chain.asStep ⟨[stop, .pressEnter]⟩
    let failureOf := fun s : Step Unit =>
      ((Chain.run ⟨[s]⟩ c (some t) around (Machine.start ())).1.result?.bind (·.failure))
    failureOf inner = some ⟨.cancelled, "Chain cancelled before 'press_enter': enough",
        some "press_enter", some "ChainCancelledError"⟩ ∧
      failureOf (inner.retrying (.int 2) (.str "always") (.int (Nat.pow 10 400))) =
        some ⟨.unexpected, "int too large to convert to float", some "retry_step",
          some "OverflowError"⟩ := by
  decide +kernel

end BrowserFlow
