import BrowserFlow.Proofs.Acting

/-!
# Reporting failures

How a step reports: the machine moves within a leeway as long as no failure is recorded, and a
context that comes back with a failure comes back right after the failure was recorded in the way
under study. What is put together from actions that report, and leaves alone a context that has
failed, reports as well, whatever recording is taken to mean.
-/
namespace BrowserFlow

variable {σ : Type}

/-- A leeway for what happens while there is no failure, with what it takes to record one: the sinks
that a context may come back with, by the sink it came with, and how the machine moves up to the
return of a context that has failed. -/
structure Account (σ : Type) extends Leeway σ where
  sinks : Sink → Sink → Prop
  fails : Sink → Failure → Machine σ → Machine σ → Prop

namespace Account

/-- How the machine moves up to the return of a context, by its failure. -/
def Ends (A : Account σ) (sink : Sink) : Option Failure → Machine σ → Machine σ → Prop
  | none => A.moves
  | some f => A.fails sink f

/-- What an action that hands a context on has come to. -/
def Reported (A : Account σ) (sink : Sink) (m : Machine σ) :
    Outcome Context × Machine σ → Prop
  | (.done d, n) => A.sinks sink d.sink ∧ A.Ends sink d.failure m n
  | (.raised e, n) => A.moves m n ∧ A.errors e
  | (.endless, n) => A.moves m n

/-- What the body of a step has come to; a value in the place of a context is no report of a
failure. -/
def Answered (A : Account σ) (sink : Sink) (m : Machine σ) : Outcome Answer × Machine σ → Prop
  | (.done (.context d), n) => A.Reported sink m (.done d, n)
  | (.done (.value _), n) => A.moves m n
  | (.raised e, n) => A.Reported sink m (.raised e, n)
  | (.endless, n) => A.Reported sink m (.endless, n)

/-- What a round has come to: it carries on with what is ready for the next one, or it hands a
context on. -/
def Carried {α : Type} (A : Account σ) (ready : α → Prop) (sink : Sink) (m : Machine σ) :
    Outcome (α ⊕ Context) × Machine σ → Prop
  | (.done (.inl a), n) => ready a ∧ A.moves m n
  | (.done (.inr d), n) => A.Reported sink m (.done d, n)
  | (.raised e, n) => A.Reported sink m (.raised e, n)
  | (.endless, n) => A.Reported sink m (.endless, n)

/-- What recording a failure has to be for trees to report it: it may follow whatever lies within
the leeway, nothing but notes may follow it, and giving the line of the failure to the sink is one
way to do it. -/
structure Records (A : Account σ) (around : Surroundings σ) : Prop
    extends A.toLeeway.Covers around where
  stores : ∀ m stores, A.moves m { m with stores }
  same : ∀ sink, A.sinks sink sink
  onward : ∀ {s t u}, A.sinks s t → A.sinks t u → A.sinks s u
  before : ∀ {sink f m n o}, A.moves m n → A.fails sink f n o → A.fails sink f m o
  after : ∀ {sink f m n o}, A.fails sink f m n → Noted n o → A.fails sink f m o
  back : ∀ {s t f m n}, A.sinks s t → A.fails t f m n → A.fails s f m n
  given : ∀ sink (f : Failure) m, A.fails sink f m (sink.given .error f.line m)

/-- The account has room for chains that are given a token, which make it the active one and put the
former one back. -/
structure Switches (A : Account σ) : Prop where
  active : ∀ m active, A.moves m { m with active }
  back : ∀ {sink f m n} active, A.fails sink f m n → A.fails sink f m { n with active }

end Account

def Action.Reports (around : Surroundings σ) (A : Account σ) (sink : Sink)
    (p : Action σ Context) : Prop :=
  ∀ m, A.Reported sink m (p around m)

def Action.Carries {α : Type} (around : Surroundings σ) (A : Account σ) (ready : α → Prop)
    (sink : Sink) (p : Action σ (α ⊕ Context)) : Prop :=
  ∀ m, A.Carried ready sink m (p around m)

/-- A step whose body reports whenever it is run on a context without a failure. -/
def Step.Reports (around : Surroundings σ) (A : Account σ) (s : Step σ) : Prop :=
  ∀ c, c.failure = none → ∀ m, A.Answered c.sink m (s.body c around m)

/-- What is asked of the leaves of a tree so that the tree reports. -/
def Manners.reporting (around : Surroundings σ) (A : Account σ) : Manners σ where
  callback := fun f => f.Keeps around A.toLeeway
  message := fun f => f.Keeps around A.toLeeway ∧
    f.Gives around fun v => A.errors { cls := .step .assertion, args := [v] }
  step := fun s => s.Reports around A

variable {around : Surroundings σ} {A : Account σ}

namespace Account

section Ends

variable {s t : Sink} {failure : Option Failure} {m n o : Machine σ}

theorem Ends.before (hA : A.Records around) (h : A.moves m n) (hends : A.Ends s failure n o) :
    A.Ends s failure m o := by
  cases failure with
  | none => exact hA.trans h hends
  | some f => exact hA.before h hends

theorem Ends.after (hA : A.Records around) (hends : A.Ends s failure m n) (h : Noted n o) :
    A.Ends s failure m o := by
  cases failure with
  | none => exact hA.trans hends (hA.noting h)
  | some f => exact hA.after hends h

theorem Ends.back (hA : A.Records around) (h : A.sinks s t) (hends : A.Ends t failure m n) :
    A.Ends s failure m n := by
  cases failure with
  | none => exact hends
  | some f => exact hA.back h hends

end Ends

theorem Reported.moves {sink : Sink} {m n : Machine σ} {d : Context}
    (hr : A.Reported sink m (.done d, n)) (hd : d.failure = none) : A.moves m n := by
  have hends := hr.2
  rw [hd] at hends
  exact hends

theorem Reported.fails {sink : Sink} {m n : Machine σ} {d : Context} {f : Failure}
    (hr : A.Reported sink m (.done d, n)) (hd : d.failure = some f) : A.fails sink f m n := by
  have hends := hr.2
  rw [hd] at hends
  exact hends

theorem Reported.before (hA : A.Records around) {sink : Sink} {m n : Machine σ}
    {r : Outcome Context × Machine σ} (h : A.moves m n) (hr : A.Reported sink n r) :
    A.Reported sink m r := by
  rcases r with ⟨d | e | _, o⟩
  · exact ⟨hr.1, .before hA h hr.2⟩
  · exact ⟨hA.trans h hr.1, hr.2⟩
  · exact hA.trans h hr

/-- Nothing but notes may follow a report. -/
theorem Reported.after (hA : A.Records around) {sink : Sink} {m n o : Machine σ}
    {ending : Outcome Context} (hr : A.Reported sink m (ending, n)) (h : Noted n o) :
    A.Reported sink m (ending, o) := by
  rcases ending with d | e | _
  · exact ⟨hr.1, .after hA hr.2 h⟩
  · exact ⟨hA.trans hr.1 (hA.noting h), hr.2⟩
  · exact hA.trans hr (hA.noting h)

/-- The active token can be put back after a report, if there is room for that. -/
theorem Reported.switched (hA : A.Records around) (hswitches : A.Switches) {sink : Sink}
    {m n : Machine σ} {ending : Outcome Context} (hr : A.Reported sink m (ending, n))
    (active : Option Token) : A.Reported sink m (ending, { n with active }) := by
  rcases ending with d | e | _
  · refine ⟨hr.1, ?_⟩
    cases hd : d.failure with
    | none => exact hA.trans (hr.moves hd) (hswitches.active n active)
    | some f => exact hswitches.back active (hr.fails hd)
  · exact ⟨hA.trans hr.1 (hswitches.active n active), hr.2⟩
  · exact hA.trans hr (hswitches.active n active)

/-- A report to the sink of a context that came back is one to the sink that the context came
with. -/
theorem Reported.back (hA : A.Records around) {s t : Sink} {m : Machine σ}
    {r : Outcome Context × Machine σ}
    (h : A.sinks s t) (hr : A.Reported t m r) : A.Reported s m r := by
  rcases r with ⟨d | e | _, o⟩
  · exact ⟨hA.onward h hr.1, .back hA h hr.2⟩
  · exact hr
  · exact hr

theorem Carried.before {α : Type} {ready : α → Prop} (hA : A.Records around) {sink : Sink}
    {m n : Machine σ}
    {r : Outcome (α ⊕ Context) × Machine σ} (h : A.moves m n) (hr : A.Carried ready sink n r) :
    A.Carried ready sink m r := by
  rcases r with ⟨⟨a | d⟩ | e | _, o⟩
  · exact ⟨hr.1, hA.trans h hr.2⟩
  · exact ⟨hr.1, .before hA h hr.2⟩
  · exact ⟨hA.trans h hr.1, hr.2⟩
  · exact hA.trans h hr

end Account

namespace Action

namespace Reports

variable {sink : Sink}

theorem pure (hA : A.Records around) {c : Context} (hc : c.failure = none) :
    (Pure.pure c : Action σ Context).Reports around A c.sink := by
  intro m
  refine ⟨hA.same _, ?_⟩
  rw [hc]
  exact hA.refl m

/-- What comes before anything is handed on, with what is known of what it gives. -/
theorem bind_gives {α : Type} {P : α → Prop} (hA : A.Records around) {p : Action σ α}
    {f : α → Action σ Context} (hp : p.Keeps around A.toLeeway) (hgives : p.Gives around P)
    (hf : ∀ a, P a → (f a).Reports around A sink) : (p >>= f).Reports around A sink := by
  intro m
  obtain ⟨hmoves, herrors⟩ := hp m
  rw [bind_run]
  rcases h : p around m with ⟨a | e | _, n⟩
  · rw [h] at hmoves
    exact (hf a (hgives h) n).before hA hmoves
  · rw [h] at hmoves herrors
    exact ⟨hmoves, herrors e rfl⟩
  · rw [h] at hmoves
    exact hmoves

theorem keeps_bind {α : Type} (hA : A.Records around) {p : Action σ α}
    {f : α → Action σ Context} (hp : p.Keeps around A.toLeeway)
    (hf : ∀ a, (f a).Reports around A sink) : (p >>= f).Reports around A sink :=
  bind_gives (P := fun _ => True) hA hp (fun _ => trivial) fun a _ => hf a

/-- What follows an action that hands a context on leaves a context that has failed alone. -/
theorem bind (hA : A.Records around) {p : Action σ Context} {f : Context → Action σ Context}
    (hp : p.Reports around A sink)
    (hf : ∀ d, (∃ m n, p around m = (.done d, n)) → d.failure = none →
      (f d).Reports around A d.sink)
    (hfailed : ∀ d, d.failure ≠ none →
      ∀ m, ∃ n, f d around m = (.done d, n) ∧ Noted m n) :
    (p >>= f).Reports around A sink := by
  intro m
  have hr := hp m
  rw [bind_run]
  rcases h : p around m with ⟨d | e | _, n⟩
  · rw [h] at hr
    cases hd : d.failure with
    | none => exact ((hf d ⟨m, n, h⟩ hd n).back hA hr.1).before hA (hr.moves hd)
    | some f =>
      obtain ⟨o, ho, hnoted⟩ := hfailed d (by simp [hd]) n
      dsimp only
      rw [ho]
      exact hr.after hA hnoted
  · rw [h] at hr; exact hr
  · rw [h] at hr; exact hr

/-- What is done only to a context that has not failed. -/
theorem unlessFailed (hA : A.Records around) {p : Action σ Context}
    {f : Context → Action σ Context} (hp : p.Reports around A sink)
    (hf : ∀ d, (∃ m n, p around m = (.done d, n)) → d.failure = none →
      (f d).Reports around A d.sink) :
    (p >>= fun d => if d.hasFailure then Pure.pure d else f d).Reports around A sink := by
  refine hp.bind hA (fun d hdone hd => ?_) fun d hd m => ⟨m, ?_, .refl m⟩
  · simpa [Context.hasFailure_of_none hd] using hf d hdone hd
  · simp [Context.hasFailure_of_ne hd]

theorem withFailure (hA : A.Records around) {c : Context} (hc : c.failure = none)
    (payload step : Value) :
    (c.withFailure payload step : Action σ Context).Reports around A c.sink := by
  intro m
  rw [Context.withFailure_run c around m hc]
  rcases h : Failure.coerce payload step with e | f
  · exact ⟨hA.refl m, hA.own (Failure.recordableIn_coerce payload step _ e h)⟩
  · exact ⟨hA.same _, hA.given c.sink f m⟩

theorem fail (hA : A.Records around) {c : Context} (hc : c.failure = none) (kind : FailureKind)
    (message : String) (step : Option String) :
    (c.fail kind message step : Action σ Context).Reports around A c.sink :=
  withFailure hA hc _ _

theorem work_bind {α : Type} {P : α → Prop} {c : Context} (hA : A.Records around)
    {p : Action σ α} {f : α → Action σ Context} (hp : Work around A.toLeeway c p P)
    (hf : ∀ a, P a → (f a).Reports around A sink) : (p >>= f).Reports around A sink :=
  bind_gives hA (hp.keeps hA.toCovers fun _ _ => trivial) hp.gives hf

/-- Work that hands on a context derived from the one it was done for. -/
theorem of_work (hA : A.Records around) {c : Context} {p : Action σ Context}
    (hp : Work around A.toLeeway c p (·.DerivedFrom c)) (hc : c.failure = none) :
    p.Reports around A c.sink := by
  have hderived : (p >>= Pure.pure).Reports around A c.sink :=
    work_bind hA hp fun d hd m => ⟨hd.sink ▸ hA.same _, by
      rw [hd.failure, hc]
      exact hA.refl m⟩
  rwa [bind_pure] at hderived

end Reports

namespace Carries

variable {α : Type} {ready : α → Prop} {sink : Sink}

theorem keeps_bind {β : Type} (hA : A.Records around) {p : Action σ β}
    {f : β → Action σ (α ⊕ Context)}
    (hp : p.Keeps around A.toLeeway) (hf : ∀ b, (f b).Carries around A ready sink) :
    (p >>= f).Carries around A ready sink := by
  intro m
  obtain ⟨hmoves, herrors⟩ := hp m
  rw [bind_run]
  rcases h : p around m with ⟨b | e | _, n⟩
  · rw [h] at hmoves
    exact (hf b n).before hA hmoves
  · rw [h] at hmoves herrors
    exact ⟨hmoves, herrors e rfl⟩
  · rw [h] at hmoves
    exact hmoves

/-- A round that carries on from a context that has not failed, and ends with one that has. -/
theorem onward {p : Action σ Context} (hp : p.Reports around A sink)
    {next : Context → α}
    (hnext : ∀ d, d.failure = none → A.sinks sink d.sink → ready (next d)) :
    (p >>= fun d => if d.hasFailure then Pure.pure (.inr d) else Pure.pure (.inl (next d))).Carries
      around A ready sink := by
  intro m
  have hr := hp m
  rw [bind_run]
  rcases h : p around m with ⟨d | e | _, n⟩ <;> rw [h] at hr
  · cases hd : d.failure with
    | none =>
      simp only [Context.hasFailure_of_none hd]
      exact ⟨hnext d hd hr.1, hr.moves hd⟩
    | some f =>
      simp only [Context.hasFailure_of_ne (by simp [hd] : d.failure ≠ none)]
      exact hr
  · exact hr
  · exact hr

/-- A round that ends with what there is to report. -/
theorem last {p : Action σ Context} (hp : p.Reports around A sink) :
    (p >>= fun d => Pure.pure (.inr d)).Carries around A ready sink := by
  intro m
  have hr := hp m
  rw [bind_run]
  rcases h : p around m with ⟨d | e | _, n⟩ <;> rw [h] at hr <;> exact hr

/-- Rounds report when each round carries on or reports. -/
theorem rounds (hA : A.Records around) {round : α → Action σ (α ⊕ Context)}
    (hround : ∀ a, ready a → (round a).Carries around A ready sink) (k : Nat) {a : α}
    (ha : ready a) : (Action.rounds k round a).Reports around A sink := by
  induction k generalizing a with
  | zero => exact fun m => hA.refl m
  | succ k ih =>
    intro m
    have h := hround a ha m
    rw [rounds_succ]
    rcases hr : round a around m with ⟨⟨b | d⟩ | e | _, n⟩ <;> rw [hr] at h
    · exact (ih h.1 n).before hA h.2
    all_goals exact h

end Carries

end Action

namespace Step

theorem reports_ofBody {name : String} {args : List (String × Value)}
    {body : Context → Action σ Context}
    (h : ∀ c, c.failure = none → (body c).Reports around A c.sink) :
    (Step.ofBody name args body).Reports around A := by
  intro c hc m
  have hr := h c hc m
  change A.Answered c.sink m ((body c >>= fun d => pure (Answer.context d)) around m)
  rw [Action.bind_run]
  rcases hb : body c around m with ⟨d | e | _, n⟩ <;> rw [hb] at hr <;> exact hr

/-- A step that reports does so when it is executed. -/
theorem Reports.execute (hA : A.Records around) {s : Step σ} (hs : s.Reports around A)
    {c : Context} (hc : c.failure = none) (token : Option Token) :
    (s.execute c token).Reports around A c.sink := by
  intro m
  rw [execute_run s token around m hc]
  cases stopReason token m with
  | some reason => exact ⟨hA.same _, hA.given c.sink _ m⟩
  | none =>
    rw [start_run s around m hc]
    have hannounced := hA.toCovers.given (by simp : LineKind.step ≠ .error) s.describe c.sink m
    have hbody := hs c hc (c.sink.given .step s.describe m)
    dsimp only
    rw [call, Action.awaited_run]
    refine Account.Reported.before hA hannounced ?_
    rcases hb : s.body c around (c.sink.given .step s.describe m) with
      ⟨⟨d | v⟩ | e | _, n⟩ <;> rw [hb] at hbody
    -- What the body does not report itself is recorded by the step, in the context it was given.
    · exact hbody
    · exact ⟨hA.same _, hA.before hbody (hA.given c.sink _ n)⟩
    · have herror := hA.leaving hbody.2
      have hnoted := hA.trans hbody.1 (hA.toCovers.noted s e.leaving n)
      by_cases ho : e.leaving.isOrdinary
      · simp only [verdict, settled, ho, if_true]
        rcases hf : Failure.ofRaised e.leaving (.str s.name) with e' | f
        · exact ⟨hnoted, hA.own (Failure.ofRaised_error hf)⟩
        · exact ⟨hA.same _, hA.before hnoted (hA.given c.sink f _)⟩
      · simp only [verdict, settled, ho]
        exact ⟨hbody.1, herror⟩
    · exact hbody

theorem Reports.executeOption (hA : A.Records around) {s : Option (Step σ)}
    (hs : ∀ t ∈ s, t.Reports around A) {c : Context} (hc : c.failure = none) :
    (Step.executeOption s c).Reports around A c.sink := by
  cases s with
  | none => exact .pure hA hc
  | some t => exact (hs t rfl).execute hA hc none

end Step

end BrowserFlow
