import BrowserFlow.Proofs.Attempts
import BrowserFlow.Steps.Act

/-!
# What comes of a retry

When a retry of a step comes back without a failure: an attempt came back without one, or every
attempt there was to be raised an error that could not be recorded. In the second case the context
is the one that was given, since an attempt that raises leaves the result of those before it, and
before the first that is the given context itself.
-/
namespace BrowserFlow

variable {σ : Type}

/-- The body of a step raises an error that is an ordinary one but cannot be recorded. -/
def Step.Escapes (s : Step σ) (c : Context) (around : Surroundings σ) (m : Machine σ) : Prop :=
  ∃ n e, s.startOn c none m = some n ∧ (s.call c around n).1 = .raised e ∧
    e.isOrdinary = true ∧ ¬ e.Readable

/-- An error that escapes leaves the step as the error of recording it, which has a text. -/
theorem Step.Escapes.execute {s : Step σ} {c : Context} {around : Surroundings σ} {m : Machine σ}
    (h : s.Escapes c around m) :
    ∃ e, (s.execute c none around m).1 = .raised e ∧ e.isOrdinary = true ∧
      ∃ text, e.readText = .ok text := by
  obtain ⟨n, e, hn, hcall, ho, hreadable⟩ := h
  obtain ⟨e', hverdict, ⟨-, he'⟩ | ⟨hno, -⟩⟩ :=
    verdict_of_not_recordable (s := s) (c := c)
      fun h : e.Recordable => hreadable h.readable
  · refine ⟨e', ?_, (Failure.ofRaised_error he').ordinary, Failure.ofRaised_error_text he'⟩
    rw [(s.execute_of_started none around m hn).2, hcall]
    exact hverdict
  · rw [ho] at hno
    cases hno

/-- Nothing else leaves an executed step as an ordinary error. -/
theorem Step.escapes_of_raised {s : Step σ} {c : Context} {around : Surroundings σ}
    {m : Machine σ} {e : Raised} (h : (s.execute c none around m).1 = .raised e)
    (he : e.isOrdinary = true) : s.Escapes c around m := by
  obtain ⟨n, e', hn, hcall, ⟨ho, hf⟩ | ⟨hno, rfl⟩⟩ := execute_raised h
  · refine ⟨n, e', hn, hcall, ho, fun hreadable => ?_⟩
    obtain ⟨f, hf'⟩ := (Failure.ofRaised_ok_iff e' s.name).2 hreadable
    cases hf.symm.trans hf'
  · rw [hno] at he
    cases he

namespace Retry

/-- The terms of a retry, as the arguments and the settings turn out. -/
def terms (around : Surroundings σ) (attempts backoff baseDelayMs : Value) :
    Except Raised Plan := do
  let s ← around.settings
  let policy ← readPolicy backoff s
  let n ← attempts.toWhole
  return ⟨clamp n, policy, if baseDelayMs.isNone then .int s.retryBaseDelayMs else baseDelayMs⟩

theorem plan_run (around : Surroundings σ) (attempts backoff baseDelayMs : Value)
    (m : Machine σ) :
    plan attempts backoff baseDelayMs around m =
      (Action.ofExcept (terms around attempts backoff baseDelayMs) : Action σ Plan) around m := by
  have hsettings : (Action.settings : Action σ Settings) around m =
    (Action.ofExcept around.settings) around m := rfl
  rw [plan, terms, Action.ofExcept_bind, Action.bind_run, Action.bind_run, hsettings]
  cases around.settings with
  | error e => rfl
  | ok s =>
    dsimp only [Action.ofExcept_ok]
    rw [Action.ofExcept_bind, Action.bind_run, Action.bind_run]
    cases readPolicy backoff s with
    | error e => rfl
    | ok policy =>
      dsimp only [Action.ofExcept_ok]
      rw [Action.ofExcept_bind]
      rfl

/-- There is at least one attempt. -/
theorem attempts_pos {around : Surroundings σ} {attempts backoff baseDelayMs : Value} {p : Plan}
    (h : terms around attempts backoff baseDelayMs = .ok p) : 0 < p.attempts := by
  rw [terms] at h
  rcases hs : around.settings with e | s <;> rw [hs] at h
  · cases h
  rcases hpolicy : readPolicy backoff s with e | policy <;>
    simp only [bind, Except.bind, hpolicy] at h
  · cases h
  rcases hn : attempts.toWhole with e | n <;> simp only [hn] at h
  · cases h
  · cases h
    simp only [clamp]
    omega

end Retry

namespace Step

variable (body : Step σ) (attempts backoff baseDelayMs : Value) (c : Context)
  (token : Option Token) (around : Surroundings σ) (m : Machine σ)

theorem startOn_fresh {s : Step σ} {c : Context} {token : Option Token} {m n : Machine σ}
    (h : s.startOn c token m = some n) : n.fresh = m.fresh := by
  obtain ⟨-, -, rfl⟩ := (startOn_eq_some ..).1 h
  obtain ⟨log, held, hframe⟩ := c.sink.given_frame .step s.describe m
  rw [hframe]

/-- The machines on which a retry of the step begins its attempts, in their order. -/
def trials : List (Machine σ) :=
  match (body.retrying attempts backoff baseDelayMs).startOn c token m,
    Retry.terms around attempts backoff baseDelayMs with
  | some n, .ok p =>
    Retry.begun p (Retry.attempt body (c.holding n.fresh)) around p.attempts
      { n with fresh := n.fresh + 1 }
  | _, _ => []

variable {c} {attempts backoff baseDelayMs} {token} {around} {m}

theorem trials_of_started {n : Machine σ} {p : Retry.Plan}
    (hn : (body.retrying attempts backoff baseDelayMs).startOn c token m = some n)
    (hp : Retry.terms around attempts backoff baseDelayMs = .ok p) :
    body.trials attempts backoff baseDelayMs c token around m =
      Retry.begun p (Retry.attempt body (c.holding n.fresh)) around p.attempts
        { n with fresh := n.fresh + 1 } := by
  simp only [trials, hn, hp]

theorem started_of_trials {x : Machine σ}
    (hx : x ∈ body.trials attempts backoff baseDelayMs c token around m) :
    ∃ n p, (body.retrying attempts backoff baseDelayMs).startOn c token m = some n ∧
      Retry.terms around attempts backoff baseDelayMs = .ok p := by
  rw [trials] at hx
  split at hx
  · exact ⟨_, _, ‹_›, ‹_›⟩
  · cases hx

variable (attempts backoff baseDelayMs) (token) (around) (m)

end Step

end BrowserFlow
