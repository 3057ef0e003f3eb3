import BrowserFlow.Proofs.Settling
import BrowserFlow.Proofs.Visiting

/-!
# Contexts that come of a context

Whatever a step of the library hands on, with a failure or without, belongs to the session of the
context that it was given, keeps its items in the same store, tells its lines to the same sink, and
is sound if that context was. The same goes for all that is handed on inside a step, except that
failure lines may be held back there.
-/
namespace BrowserFlow

variable {σ : Type}

namespace Context

/-- The context has the session and the items of another one and is sound if that one is. -/
structure Kin (d c : Context) : Prop where
  session : d.session = c.session
  items : d.items = c.items
  sound : c.Sound → d.Sound

/-- The context is of the kin of another one and has its sink. -/
structure Heir (d c : Context) : Prop extends Kin d c where
  sink : d.sink = c.sink

theorem Kin.trans {c d e : Context} (h : d.Kin c) (h' : e.Kin d) : e.Kin c :=
  ⟨h'.session.trans h.session, h'.items.trans h.items, h'.sound ∘ h.sound⟩

theorem Kin.holding (c : Context) (cell : Nat) : (c.holding cell).Kin c :=
  ⟨rfl, rfl, fun h => ⟨h.apart, h.focus, h.collection⟩⟩

theorem Kin.toSink {c d : Context} (h : d.Kin c) : ({ d with sink := c.sink } : Context).Heir c :=
  ⟨⟨h.session, h.items, fun hc =>
    ⟨(h.sound hc).apart, (h.sound hc).focus, (h.sound hc).collection⟩⟩, rfl⟩

namespace Heir

variable (c : Context)

theorem refl : c.Heir c := ⟨⟨rfl, rfl, id⟩, rfl⟩

theorem failed (failure : Option Failure) : ({ c with failure } : Context).Heir c :=
  ⟨⟨rfl, rfl, fun h => ⟨h.apart, h.focus, h.collection⟩⟩, rfl⟩

variable {c} in
theorem trans {d e : Context} (h : d.Heir c) (h' : e.Heir d) : e.Heir c :=
  ⟨h.toKin.trans h'.toKin, h'.sink.trans h.sink⟩

end Heir

theorem Follows.heir {c d : Context} (h : d.Follows c) : d.Heir c :=
  ⟨⟨h.session, h.items, h.sound⟩, h.sink⟩

variable {around : Surroundings σ} {c : Context}

theorem withFailure_heir (hc : c.failure = none) {payload step : Value} {m n : Machine σ}
    {d : Context} (h : c.withFailure payload step around m = (.done d, n)) : d.Heir c := by
  rw [c.withFailure_run around m hc] at h
  split at h <;> cases h
  exact .failed c _

end Context

open BrowserFlow.Context (Heir Kin)

variable {around : Surroundings σ} {c : Context}

/-- Whatever context the body of a step gives back is an heir of the one that it was run on. -/
def Step.Bequeaths (around : Surroundings σ) (s : Step σ) : Prop :=
  ∀ c, c.failure = none → ∀ m d n, s.body c around m = (.done (.context d), n) → d.Heir c

/-- A callback that picks one of the elements that it is handed, or nothing. -/
def Callback.Chooses (around : Surroundings σ)
    (f : Callback σ (List Locator) (Option Focus)) : Prop :=
  ∀ earlier ls, (f.body earlier ls).Gives around fun picked =>
    ∀ p ∈ picked, ∃ l ∈ ls, p = .element l

/-- Nothing is asked of callbacks, and of steps of the caller's own that they hand on heirs. -/
def Manners.bequeathing (around : Surroundings σ) : Manners σ where
  callback := fun _ => True
  message := fun _ => True
  step := Step.Bequeaths around

/-- Anything may happen. -/
def Leeway.anything (σ : Type) : Leeway σ := ⟨fun _ _ => True, fun _ => True⟩

theorem Leeway.anything_tolerates (around : Surroundings σ) : (anything σ).Tolerates around where
  refl := fun _ => trivial
  trans := fun _ _ => trivial
  emit := fun _ _ => trivial
  fresh := fun _ => trivial
  call := fun _ _ _ => ⟨trivial, fun _ _ => trivial⟩
  own := fun _ => trivial
  leaving := fun _ => trivial
  settings := fun _ => trivial
  failing := fun _ _ _ => trivial

/-- What plain steps do when nothing is asked of their callbacks but that they pick what they are
handed. -/
theorem Plain.does_anything {M : Manners σ}
    {picks : Callback σ (List Locator) (Option Focus) → Prop}
    (hpicks : ∀ {f}, picks f → f.Chooses around) {s : Step σ} (h : Plain M picks s)
    {R : Context → Context → Prop} (hmoves : s.Moves → s.Does around (.anything σ) true R)
    (hR : ∀ {d c : Context}, d.Stays c → R d c) : s.Does around (.anything σ) true R := by
  have hkeeps : ∀ {α : Type} (p : Action σ α), p.Keeps around (.anything σ) :=
    fun p m => ⟨trivial, fun _ _ => trivial⟩
  have hpicked : ∀ {f}, picks f → ∀ ls, (f.invoke ls).Gives around fun picked =>
      ∀ p ∈ picked, ∀ c : Context, c.collection = some ls → R (c.withPicked p) c := by
    intro f hf ls
    apply Callback.invoke_gives
    intro earlier m picked n hdone p hp c hc
    obtain ⟨l, hl, rfl⟩ := hpicks hf earlier ls hdone p hp
    exact hR (.withFocus c fun hsound => hsound.collection ls hc l hl)
  exact h.does (fun _ _ => hkeeps _) (fun _ _ => ⟨hkeeps _, fun _ => trivial⟩)
    (fun hf ls => ⟨hkeeps _, hpicked hf ls⟩) hmoves hR

namespace Step

theorem bequeaths_ofBody {name : String} {args : List (String × Value)}
    {body : Context → Action σ Context}
    (h : ∀ c, c.failure = none → ∀ m d n, body c around m = (.done d, n) → d.Heir c) :
    (ofBody name args body).Bequeaths around := by
  intro c hc m d n hdone
  rw [ofBody_run] at hdone
  rcases hrun : body c around m with ⟨d' | e | _, o⟩ <;> rw [hrun] at hdone <;> cases hdone
  exact h c hc m d n hrun

/-- What comes of executing a step is an heir, whether the step was started or not. -/
theorem Bequeaths.execute {s : Step σ} (h : s.Bequeaths around) {token : Option Token}
    {m n : Machine σ} {d : Context} (hdone : s.execute c token around m = (.done d, n)) :
    d.Heir c := by
  by_cases hc : c.failure = none
  · rw [execute_run s token around m hc] at hdone
    split at hdone
    · cases hdone
      exact .failed c _
    · rw [start_run s around m hc] at hdone
      obtain hanswer | ⟨-, f, rfl⟩ := verdict_done (congrArg Prod.fst hdone)
      · exact h c hc _ d _ (call_done.1 (Prod.ext hanswer rfl))
      · exact .failed c _
  · rw [s.execute_of_failed token around m hc] at hdone
    cases hdone
    exact .refl c

theorem Bequeaths.executeOption {s : Option (Step σ)} (h : ∀ s' ∈ s, s'.Bequeaths around)
    {m n : Machine σ} {d : Context} (hdone : Step.executeOption s c around m = (.done d, n)) :
    d.Heir c := by
  cases s with
  | none => cases hdone; exact .refl c
  | some s => exact (h s rfl).execute hdone

theorem require_done {α : Type} {argument : Option α} {label what : String} {a : α}
    {m n : Machine σ} (h : require argument label what around m = (.done a, n)) :
    argument = some a ∧ n = m := by
  cases argument <;> cases h
  exact ⟨rfl, rfl⟩

theorem bequeaths_plain {M : Manners σ}
    {picks : Callback σ (List Locator) (Option Focus) → Prop}
    (hpicks : ∀ {f}, picks f → f.Chooses around) {s : Step σ} (h : Plain M picks s) :
    s.Bequeaths around := by
  obtain ⟨name, args, body, rfl, hbody⟩ := h.does_anything hpicks (R := Heir)
    (fun hs => hs.does.mono fun hd => hd.heir) fun hd => hd.heir
  refine bequeaths_ofBody fun c hc m d n hdone => ?_
  have hsettled := (hbody c).settled (Leeway.anything_tolerates around) (fun _ _ => trivial) hc m
  rw [hdone] at hsettled
  obtain ⟨hheir, -⟩ | ⟨⟨f, rfl⟩, -⟩ := hsettled
  · exact hheir
  · exact .failed c _

theorem bequeaths_when {predicate : Option (Callback σ Context Bool)}
    {step otherwise : Option (Step σ)} (hstep : ∀ s ∈ step, s.Bequeaths around)
    (hotherwise : ∀ s ∈ otherwise, s.Bequeaths around) :
    (when predicate step otherwise).Bequeaths around := by
  refine bequeaths_ofBody fun c _ m d n hdone => ?_
  obtain ⟨f, _, -, hdone⟩ := (Action.bind_eq_done around _).1 hdone
  obtain ⟨s, _, hs, hdone⟩ := (Action.bind_eq_done around _).1 hdone
  obtain ⟨holds, _, -, hdone⟩ := (Action.bind_eq_done around _).1 hdone
  cases holds with
  | true => exact (hstep s (require_done hs).1).execute hdone
  | false => exact Bequeaths.executeOption hotherwise hdone

theorem loopRound_heir {predicate : Callback σ Context Bool} {body : Step σ} {most : Value}
    (hbody : body.Bequeaths around) {state : LoopState} (hstate : state.context.failure = none)
    {m n : Machine σ} {d : Context}
    (h : loopRound predicate body most state around m = (.done (.inr d), n)) :
    d.Heir state.context := by
  obtain ⟨holds, k, -, h⟩ := (Action.bind_eq_done around _).1 h
  cases holds with
  | false => cases h; exact .refl _
  | true =>
    obtain ⟨exhausted, k', -, h⟩ := (Action.bind_eq_done around _).1 h
    cases exhausted with
    | true =>
      obtain ⟨d', _, hfail, h⟩ := (Action.bind_eq_done around _).1 h
      cases h
      exact Context.withFailure_heir hstate hfail
    | false =>
      obtain ⟨d', _, hexecute, h⟩ := (Action.bind_eq_done around _).1 h
      by_cases hd : d'.hasFailure
      · rw [if_pos hd] at h
        cases h
        exact hbody.execute hexecute
      · rw [if_neg hd] at h
        cases h

/-- What a loop carries from round to round are heirs of what it was started with. -/
theorem carried_heir {predicate : Callback σ Context Bool} {body : Step σ} {most : Value}
    (hbody : body.Bequeaths around) (hc : c.failure = none) {k j : Nat} {state : LoopState}
    {m n : Machine σ}
    (h : Carried around (loopRound predicate body most) k ⟨c, 0⟩ m j state n) :
    state.context.Heir c ∧ state.context.failure = none := by
  refine h.invariant (I := fun state _ => state.context.Heir c ∧ state.context.failure = none) ?_
    ⟨.refl c, hc⟩
  intro state next m n hstate hround
  obtain ⟨o, -, -, hexecute, hnext⟩ := loopRound_onward hround
  exact ⟨hstate.1.trans (hbody.execute hexecute), hnext⟩

theorem bequeaths_repeatWhile {predicate : Option (Callback σ Context Bool)}
    {step : Option (Step σ)} {most : Value} (hstep : ∀ s ∈ step, s.Bequeaths around) :
    (repeatWhile predicate step most).Bequeaths around := by
  refine bequeaths_ofBody fun c hc m d n hdone => ?_
  obtain ⟨f, _, -, hdone⟩ := (Action.bind_eq_done around _).1 hdone
  obtain ⟨s, _, hs, hdone⟩ := (Action.bind_eq_done around _).1 hdone
  obtain ⟨k, _, -, hdone⟩ := (Action.bind_eq_done around _).1 hdone
  have hbody := hstep s (require_done hs).1
  obtain ⟨j, state, o, hcarried, hlast⟩ := Carried.of_rounds hdone
  obtain ⟨hheir, hstate⟩ := carried_heir hbody hc hcarried
  exact hheir.trans (loopRound_heir hbody hstate hlast)

theorem handOver_heir {α β : Type} (hc : c.failure = none) {action : Callback σ α β} {a : α}
    {step : String} {m n : Machine σ} {d : Context}
    (h : c.handOver action a step around m = (.done d, n)) : d.Heir c := by
  obtain ⟨r, _, -, h⟩ := (Action.bind_eq_done around _).1 h
  cases r with
  | ok _ => cases h; exact .refl c
  | error e => exact Context.withFailure_heir hc h

theorem bequeaths_use {β : Type} {action : Option (Callback σ Context β)}
    {step : Option (Step σ)} (hstep : ∀ s ∈ step, s.Bequeaths around) :
    (use action step).Bequeaths around := by
  refine bequeaths_ofBody fun c hc m d n hdone => ?_
  cases action with
  | none => exact Context.withFailure_heir hc hdone
  | some action =>
    obtain ⟨d', _, hexecute, hdone⟩ := (Action.bind_eq_done around _).1 hdone
    have hheir := Bequeaths.executeOption hstep hexecute
    by_cases hd : d'.hasFailure
    · rw [if_pos hd] at hdone
      cases hdone
      exact hheir
    · rw [if_neg hd] at hdone
      exact hheir.trans (handOver_heir (by simpa [Context.hasFailure] using hd) hdone)

theorem bequeaths_useElement {β : Type} {action : Option (Callback σ Focus β)}
    {step : Option (Step σ)} (hstep : ∀ s ∈ step, s.Bequeaths around) :
    (useElement action step).Bequeaths around := by
  refine bequeaths_ofBody fun c hc m d n hdone => ?_
  cases action with
  | none => exact Context.withFailure_heir hc hdone
  | some action =>
    obtain ⟨d', _, hexecute, hdone⟩ := (Action.bind_eq_done around _).1 hdone
    have hheir := Bequeaths.executeOption hstep hexecute
    by_cases hd : d'.hasFailure
    · rw [if_pos hd] at hdone
      cases hdone
      exact hheir
    · rw [if_neg hd] at hdone
      cases hfocus : d'.focus with
      | none =>
        rw [hfocus] at hdone
        cases hdone
        exact hheir
      | some focus =>
        rw [hfocus] at hdone
        exact hheir.trans (handOver_heir (by simpa [Context.hasFailure] using hd) hdone)

theorem bequeaths_ifExists {selector timeout : Value} {onTrue onFalse : Option (Step σ)}
    (htrue : ∀ s ∈ onTrue, s.Bequeaths around)
    (hfalse : ∀ s ∈ onFalse, s.Bequeaths around) :
    (ifExists selector onTrue onFalse timeout).Bequeaths around := by
  refine bequeaths_ofBody fun c _ m d n hdone => ?_
  obtain ⟨shown, _, -, hdone⟩ := (Action.bind_eq_done around _).1 hdone
  obtain ⟨found, _, -, hdone⟩ := (Action.bind_eq_done around _).1 hdone
  cases found with
  | true => exact Bequeaths.executeOption htrue hdone
  | false => exact Bequeaths.executeOption hfalse hdone

/-- Each attempt starts from the same context, and the sink is put back into what they come to. -/
theorem bequeaths_retrying {body : Step σ} {attempts backoff baseDelayMs : Value}
    (hbody : body.Bequeaths around) :
    (body.retrying attempts backoff baseDelayMs).Bequeaths around := by
  refine bequeaths_ofBody fun c _ m d n hdone => ?_
  obtain ⟨cell, _, -, hdone⟩ := (Action.bind_eq_done around _).1 hdone
  obtain ⟨p, _, -, hdone⟩ := (Action.bind_eq_done around _).1 hdone
  obtain ⟨⟨last, ok⟩, _, hloop, hdone⟩ := (Action.bind_eq_done around _).1 hdone
  rw [Retry.conclude_run] at hdone
  cases hdone
  have hattempt : ∀ {x ok},
      (Retry.attempt body (c.holding cell) around x).1 = .done (last, ok) → last.Kin c := by
    intro x ok hx
    rw [Retry.attempt_run] at hx
    rcases hexecute : body.execute (c.holding cell) none around x with ⟨d | e | _, y⟩ <;>
      rw [hexecute] at hx <;> cases hx
    exact (Kin.holding c cell).trans (hbody.execute hexecute).toKin
  refine Kin.toSink ?_
  rcases Retry.loop_done p _ around hloop with
    ⟨-, x, -, hx⟩ | ⟨-, x, -, hx⟩ | ⟨-, hlast, -⟩
  · exact hattempt hx
  · exact hattempt hx
  · rw [hlast]
    exact .holding c cell

end Step

theorem Chain.runSteps_heir {token : Option Token} {steps : List (Step σ)}
    (hsteps : ∀ s ∈ steps, s.Bequeaths around) {m n : Machine σ} {d : Context}
    (h : runSteps token steps c around m = (.done d, n)) : d.Heir c := by
  induction steps generalizing c m with
  | nil => cases h; exact .refl _
  | cons s rest ih =>
    rw [List.forall_mem_cons] at hsteps
    by_cases hc : c.failure = none
    · rw [runSteps, if_neg (by simp [Context.hasFailure_of_none hc])] at h
      obtain ⟨d', o, hexecute, h⟩ := (Action.bind_eq_done around _).1 h
      exact (hsteps.1.execute hexecute).trans (ih hsteps.2 h)
    · obtain ⟨o, hskipped, -⟩ := runSteps_skips around token hc (s :: rest) m
      rw [hskipped] at h
      cases h
      exact .refl _

theorem Chain.run_heir {chain : Chain σ} {token : Option Token}
    (hsteps : ∀ s ∈ chain.steps, s.Bequeaths around) {m n : Machine σ} {d : Context}
    (h : chain.run c token around m = (.done d, n)) : d.Heir c := by
  rw [run_run] at h
  have hended : (runSteps token chain.steps c around (entered token m)).1 = .done d :=
    congrArg Prod.fst h
  exact runSteps_heir hsteps (Prod.ext hended rfl)

theorem Step.bequeaths_spreads :
    Spreads (.bequeathing around) (Callback.Chooses around) (Step.Bequeaths around) where
  own := id
  plain := bequeaths_plain id
  chain := fun hsteps => bequeaths_ofBody fun _ _ _ _ _ hdone => Chain.run_heir hsteps hdone
  when := fun _ => bequeaths_when
  repeatWhile := fun _ => bequeaths_repeatWhile
  use := fun _ => bequeaths_use
  useElement := fun _ => bequeaths_useElement
  ifExists := bequeaths_ifExists
  retrying := bequeaths_retrying

end BrowserFlow
