import BrowserFlow.Proofs.Backoff
import BrowserFlow.Proofs.Cancelling

/-!
# Retries in a cancelled run

What a retry still waits for once the token of its run has been cancelled. A retry that has not been
started by then is not started any more. One that is at an attempt goes on as it would: the attempts
that are left come to nothing at once, but as far as they are misses with a delay, the delays are
gone through.
-/
namespace BrowserFlow

variable {σ β : Type}

namespace Retry

namespace Plan

variable (p : Plan)

/-- The delays before the last attempts, so many of them, up to the first that cannot be worked
out. -/
def delaysBefore : Nat → List Float
  | 0 => []
  | left + 1 =>
    match delay p.unitMs (p.attempts - (left + 1)) with
    | .ok seconds => seconds :: delaysBefore left
    | .error _ => []

/-- The delays after the k-th attempt and those that follow it, all but the last, up to the first
that cannot be worked out. -/
def delaysFrom (k : Nat) : List Float := p.delaysBefore (p.attempts - k)

variable {p} {k : Nat}

theorem delaysFrom_of_le (hk : p.attempts ≤ k) : p.delaysFrom k = [] := by
  rw [delaysFrom, Nat.sub_eq_zero_of_le hk, delaysBefore]

theorem delaysFrom_of_lt (hk : k < p.attempts) :
    p.delaysFrom k = match delay p.unitMs k with
      | .ok seconds => seconds :: p.delaysFrom (k + 1)
      | .error _ => [] := by
  obtain ⟨left, hleft⟩ : ∃ left, p.attempts - k = left + 1 :=
    ⟨p.attempts - k - 1, by omega⟩
  have hfirst : p.attempts - (left + 1) = k := by omega
  have hrest : p.attempts - (k + 1) = left := by omega
  rw [delaysFrom, delaysFrom, hleft, hrest, delaysBefore, hfirst]

theorem delaysFrom_of_error (h : ¬ ∃ seconds, delay p.unitMs k = .ok seconds) :
    p.delaysFrom k = [] := by
  by_cases hk : k < p.attempts
  · rw [delaysFrom_of_lt hk]
    cases hdelay : delay p.unitMs k with
    | ok seconds => exact absurd ⟨seconds, hdelay⟩ h
    | error e => rfl
  · exact delaysFrom_of_le (Nat.le_of_not_lt hk)

variable (p) (k)

/-- The delays after attempts that only miss, from the k-th on. -/
def delaysOfMisses : List Float := if p.policy = .always then p.delaysFrom k else []

/-- What is waited for after the k-th attempt, if those that follow it only miss. -/
def lingers : Outcome (β × Bool) → List Float
  | .done (_, true) => []
  | .done (_, false) => p.delaysOfMisses k
  | .raised e =>
    if e.isOrdinary then
      if p.policy = .always then p.delaysFrom k else (p.delaysFrom k).take 1
    else []
  | .endless => []

variable {p k} {o : Outcome (β × Bool)}

theorem delaysOfMisses_of_le (hk : p.attempts ≤ k) : p.delaysOfMisses k = [] := by
  rw [delaysOfMisses, delaysFrom_of_le hk, ite_self]

theorem lingers_of_succeeded (ho : succeeded o = true) : p.lingers k o = [] := by
  obtain ⟨b, rfl⟩ := succeeded_iff.1 ho
  rfl

/-- If there is a delay after an attempt, it is the first of those that are left. -/
theorem Copes.pauses_due (h : p.Copes k o) (hk : k < p.attempts) (hdue : p.due k o = true) :
    Event.pauses (p.waited k o) ++ p.delaysOfMisses (k + 1) =
      if p.policy = .always then p.delaysFrom k else (p.delaysFrom k).take 1 := by
  obtain ⟨seconds, hseconds, hwaited⟩ := h.pauses_waited hdue
  rw [hwaited, delaysFrom_of_lt hk, hseconds, delaysOfMisses]
  split <;> rfl

/-- The delay after an attempt and those after the misses that follow it. -/
theorem Copes.lingers_eq (h : p.Copes k o) (ho : succeeded o = false) :
    Event.pauses (p.waited k o) ++ p.delaysOfMisses (k + 1) = p.lingers k o := by
  by_cases hk : k < p.attempts
  · rcases o with ⟨b, _ | _⟩ | e | _
    · by_cases halways : p.policy = .always
      · rw [h.pauses_due hk (by simp [due, hk, halways]), lingers, delaysOfMisses, if_pos halways,
          if_pos halways]
      · rw [waited_of_not_due p (by simp [due, halways]), lingers]
        simp [delaysOfMisses, halways, Event.pauses]
    · cases ho
    · rw [h.pauses_due hk (by simp [due, hk]), lingers, if_pos (h.caught e rfl).1]
    · exact absurd rfl h.ends
  · have hlast : p.attempts ≤ k := Nat.le_of_not_lt hk
    rw [delaysOfMisses_of_le (Nat.le_succ_of_le hlast)]
    rcases o with ⟨b, _ | _⟩ | e | _
    · rw [waited_of_not_due p (by simp [due, hk]), lingers, delaysOfMisses_of_le hlast]
      rfl
    · cases ho
    · rw [waited_of_not_due p (by simp [due, hk]), lingers, delaysFrom_of_le hlast]
      simp [Event.pauses]
    · exact absurd rfl h.ends

/-- An attempt that the retry cannot cope with, though its error has a text, has a delay after it
that cannot be worked out, or none. -/
theorem lingers_of_not_copes (h : ¬ p.Copes k o)
    (hcaught : ∀ e, o = .raised e → e.isOrdinary = true → ∃ text, e.readText = .ok text) :
    p.lingers k o = [] := by
  rcases o with ⟨b, _ | _⟩ | e | _
  · have hnone : p.delaysFrom k = [] :=
      delaysFrom_of_error fun hdelay => h ⟨by simp, by simp, fun _ => hdelay⟩
    rw [lingers, delaysOfMisses, hnone, ite_self]
  · rfl
  · rw [lingers]
    split
    · have hnone : p.delaysFrom k = [] := by
        refine delaysFrom_of_error fun hdelay => h ⟨by simp, fun e' he => ?_, fun _ => hdelay⟩
        cases he
        exact ⟨‹_›, hcaught e rfl ‹_›⟩
      simp [hnone]
    · rfl
  · rfl

end Plan

section Stopped

variable {p : Plan} {body : Step σ} {held : Context} {around : Surroundings σ} {k : Nat}
  {last : Context} {m : Machine σ} {xs : List (Machine σ)}
  {r : Outcome (Context × Bool) × Machine σ} {reason : Value}

/-- On a machine whose active token has been cancelled an attempt at a step only misses. -/
theorem attempt_stopped (hheld : held.failure = none)
    (hstopped : Step.stopReason none m = some reason) :
    Retry.attempt body held around m =
      (.done ({ held with failure := some (body.cancelFailure reason) }, false),
        held.sink.given .error (body.cancelFailure reason).line m) := by
  rw [attempt_run, Step.execute_run _ _ _ _ hheld, hstopped]
  rfl

/-- An ordinary error that leaves an attempt at a step has a text. -/
theorem attempt_text {x : Machine σ} (e : Raised)
    (he : (Retry.attempt body held around x).1 = .raised e) (ho : e.isOrdinary = true) :
    ∃ text, e.readText = .ok text := by
  have hexecute := Step.attempt_raised.1 he
  obtain ⟨e', he', -, htext⟩ := (Step.escapes_of_raised hexecute ho).execute
  cases hexecute.symm.trans he'
  exact htext

theorem stopReason_after {o : Outcome (Context × Bool)} {n : Machine σ} (token : Option Token) :
    Step.stopReason token (p.after k o n) = Step.stopReason token n := rfl

theorem stopReason_given {kind : LineKind} {line : String} {sink : Sink} (token : Option Token) :
    Step.stopReason token (sink.given kind line m) = Step.stopReason token m := by
  rw [Step.stopReason, Step.stopReason, Sink.given_active, Sink.given_cancelled]

/-- Attempts that are begun on such a machine are gone through with their delays. -/
theorem Tries.pauses_of_stopped (h : Tries p (Retry.attempt body held) around k last m xs r)
    (hheld : held.failure = none) (hstopped : Step.stopReason none m = some reason) :
    Event.pauses r.2.log = Event.pauses m.log ++ p.delaysOfMisses (k + 1) := by
  induction h with
  | spent hk =>
    rw [Plan.delaysOfMisses_of_le (by omega)]
    exact (List.append_nil _).symm
  | succeeds _ ha ho =>
    rw [attempt_stopped hheld hstopped] at ha
    cases ha
    cases ho
  | onward _ ha ho hcopes _ ih =>
    rw [attempt_stopped hheld hstopped] at ha
    cases ha
    rw [ih (by rw [stopReason_after, stopReason_given, hstopped]), Plan.pauses_after,
      Sink.pauses_given, List.append_assoc, hcopes.lingers_eq ho]
    rfl
  | @breaks k _ _ _ _ _ _ ha hcopes _ hpauses =>
    rw [attempt_stopped hheld hstopped] at ha
    cases ha
    have hnone : p.delaysOfMisses (k + 1) = [] := Plan.lingers_of_not_copes hcopes (by simp)
    rw [hpauses, Sink.pauses_given, hnone, List.append_nil]

/-- After an attempt that leaves such a machine, no more is waited for than the delays that are
left. -/
theorem Tries.pauses_lingering (h : Tries p (Retry.attempt body held) around k last m xs r)
    (hheld : held.failure = none) {i : Nat} {x : Machine σ} (hx : xs[i]? = some x)
    (hstopped : Step.stopReason none (Retry.attempt body held around x).2 = some reason) :
    Event.pauses r.2.log = Event.pauses (Retry.attempt body held around x).2.log ++
      p.lingers (k + i + 1) (Retry.attempt body held around x).1 := by
  induction h generalizing i with
  | spent => simp at hx
  | succeeds _ ha ho =>
    obtain ⟨rfl, rfl⟩ := only_attempt hx
    rw [ha, Plan.lingers_of_succeeded ho, List.append_nil]
  | @onward k _ _ _ _ _ _ _ ha ho hcopes hrest ih =>
    cases i with
    | zero =>
      cases hx
      rw [ha] at hstopped ⊢
      rw [hrest.pauses_of_stopped hheld hstopped, Plan.pauses_after, List.append_assoc,
        hcopes.lingers_eq ho]
    | succ i =>
      rw [Nat.add_right_comm k (i + 1) 1]
      exact ih hx
  | @breaks _ _ m _ _ _ _ ha hcopes _ hpauses =>
    obtain ⟨rfl, rfl⟩ := only_attempt hx
    have hcaught : ∀ e, (Retry.attempt body held around m).1 = .raised e →
        e.isOrdinary = true → ∃ text, e.readText = .ok text := attempt_text
    rw [ha] at hcaught ⊢
    rw [Plan.lingers_of_not_copes hcopes hcaught, List.append_nil, hpauses]

theorem lingers_of_missed {x : Machine σ} {e : Context}
    (hdone : (body.execute held none around x).1 = .done e) (he : e.failure ≠ none) :
    p.lingers k (Retry.attempt body held around x).1 = p.delaysOfMisses k := by
  rw [Step.attempt_of_missed hdone he, Plan.lingers]

theorem lingers_of_escapes {x : Machine σ} (h : body.Escapes held around x) :
    p.lingers k (Retry.attempt body held around x).1 =
      if p.policy = .always then p.delaysFrom k else (p.delaysFrom k).take 1 := by
  obtain ⟨e, he, ho, -⟩ := h.execute
  rw [Step.attempt_raised.2 he, Plan.lingers, if_pos ho]

theorem lingers_of_neither {x : Machine σ}
    (hmissed : ¬ ∃ e, (body.execute held none around x).1 = .done e ∧ e.failure ≠ none)
    (hescapes : ¬ body.Escapes held around x) :
    p.lingers k (Retry.attempt body held around x).1 = [] := by
  rw [attempt_run]
  rcases hrun : body.execute held none around x with ⟨e | e | _, n⟩
  · have he : e.failure = none := by
      by_contra he
      exact hmissed ⟨e, by rw [hrun], he⟩
    simp [Context.hasFailure_of_none he, Plan.lingers]
  · have ho : ¬ e.isOrdinary = true := fun ho =>
      hescapes (Step.escapes_of_raised (by rw [hrun]) ho)
    simp [Plan.lingers, ho]
  · rfl

end Stopped

end Retry

section Running

variable {around : Surroundings σ}
  {flows : List (Flow (.reporting around (.regardless (.loyal σ))))}
  {flow : Flow (.reporting around (.regardless (.loyal σ)))} {attempts backoff baseDelayMs : Value}
  {c d : Context} {t : Token} {token : Option Token} {m n : Machine σ} {last : Bool}

/-- An attempt of a retry is begun, and left, with the active token of the run. -/
theorem Chain.Visits.trial_active
    (hv : Chain.Visits around flows c (some t) m last
      ⟨.retrying flow attempts backoff baseDelayMs, token, d, n⟩) {i : Nat} {x : Machine σ}
    (hx : (flow.toStep.trials attempts backoff baseDelayMs d token around n)[i]? = some x) :
    (flow.toStep.execute (d.holding n.fresh) none around x).2.active = some t := by
  have hL := Leeway.loyal_suffices around
  obtain ⟨o, p, ho, hp⟩ := flow.toStep.started_of_trials (List.mem_of_getElem? hx)
  rw [flow.toStep.trials_of_started ho hp] at hx
  have hruns : Flow.Runs around (.retrying flow attempts backoff baseDelayMs) d o _
      ⟨flow, none, d.holding o.fresh, x⟩ := .retrying (Retry.plan_of_terms hp _) hx
  have hattempt :
      Visit.Reaches around ⟨.retrying flow attempts backoff baseDelayMs, token, d, n⟩ _
        ⟨flow, none, d.holding o.fresh, x⟩ :=
    .inside ho hruns (.self _)
  have hmoves := hL.trans (hv.moves hL) (hL.trans (hattempt.moves hL)
    ((flow.keeps hL (d.holding n.fresh) none).moved rfl))
  exact hmoves.1

/-- At a visit of a run under a token it is this token that is heeded. -/
theorem Chain.Visits.stopReason_eq {v : Visit (.reporting around (.regardless (.loyal σ)))}
    (hv : Chain.Visits around flows c (some t) m last v) :
    Step.stopReason v.token v.machine = v.machine.cancelled.lookup t := by
  obtain ⟨hactive, -⟩ := hv.moves (Leeway.loyal_suffices around)
  rw [Step.stopReason, hactive]
  rcases hv.token_eq with htoken | htoken <;> rw [htoken] <;> rfl

/-- What a retry in a run waits for once the token of the run has been cancelled. It is not started
any more. If the token was cancelled by the time one of its attempts has come to its end, it goes
through the delays that are left with a policy to wait after every miss, unless that attempt
succeeded; through the first of them with the other policy, if that attempt raised an error from
which no failure could be built; and through none otherwise. -/
theorem Chain.run_lingers
    (hv : Chain.Visits around flows c (some t) m last
      ⟨.retrying flow attempts backoff baseDelayMs, token, d, n⟩) :
    let body := flow.toStep
    let run := (body.retrying attempts backoff baseDelayMs).execute d token around n
    (n.Stopped t → (body.retrying attempts backoff baseDelayMs).startOn d token n = none ∧
      Event.pauses run.2.log = Event.pauses n.log) ∧
    ∀ p, Retry.terms around attempts backoff baseDelayMs = .ok p →
      ∀ i x, (body.trials attempts backoff baseDelayMs d token around n)[i]? = some x →
        let ended := body.execute (d.holding n.fresh) none around x
        let missed := ∃ e, ended.1 = .done e ∧ e.failure ≠ none
        let escapes := body.Escapes (d.holding n.fresh) around x
        ended.2.Stopped t →
          (p.policy = .always → missed ∨ escapes →
            Event.pauses run.2.log = Event.pauses ended.2.log ++ p.delaysFrom (i + 1)) ∧
          (p.policy = .onException → escapes →
            Event.pauses run.2.log =
              Event.pauses ended.2.log ++ (p.delaysFrom (i + 1)).take 1) ∧
          (¬ escapes → (p.policy = .always → ¬ missed) →
            Event.pauses run.2.log = Event.pauses ended.2.log) := by
  intro body run
  constructor
  · rintro ⟨reason, hreason⟩
    obtain ⟨hbegins, hended⟩ :=
      Visit.ended_of_stopped around hv.visit_unfailed (hv.stopReason_eq.trans hreason)
    refine ⟨hbegins, ?_⟩
    rw [show run = _ from hended, Sink.pauses_given]
  · rintro p hp i x hx ended missed escapes ⟨reason, hreason⟩
    obtain ⟨o, -, ho, -⟩ := body.started_of_trials (List.mem_of_getElem? hx)
    have hmachine : (Retry.attempt body (d.holding n.fresh) around x).2 = ended.2 :=
      Step.attempt_machine ..
    have hstopped : Step.stopReason none ended.2 = some reason := by
      rw [Step.stopReason, hv.trial_active hx]
      exact hreason
    have hpauses : Event.pauses run.2.log = Event.pauses ended.2.log ++
        p.lingers (i + 1) (Retry.attempt body (d.holding n.fresh) around x).1 := by
      have htries := Step.tries_trials ho hp
      rw [← hmachine] at hstopped
      have hlingering := htries.pauses_lingering hv.visit_unfailed hx hstopped
      rw [hmachine, Nat.zero_add] at hlingering
      rw [show run = _ from rfl, Step.pauses_retrying ho hp, Step.startOn_fresh ho, hlingering]
    rw [hpauses]
    refine ⟨fun halways hany => ?_, fun hpolicy hescapes => ?_, fun hescapes hmissed => ?_⟩
    · obtain ⟨e, hdone, he⟩ | hescapes := hany
      · rw [Retry.lingers_of_missed hdone he, Retry.Plan.delaysOfMisses, if_pos halways]
      · rw [Retry.lingers_of_escapes hescapes, if_pos halways]
    · rw [Retry.lingers_of_escapes hescapes, if_neg (by simp [hpolicy])]
    · by_cases h : missed
      · obtain ⟨e, hdone, he⟩ := h
        rw [Retry.lingers_of_missed hdone he, Retry.Plan.delaysOfMisses,
          if_neg fun halways => hmissed halways ⟨e, hdone, he⟩, List.append_nil]
      · rw [Retry.lingers_of_neither h hescapes, List.append_nil]

end Running

/-- The first attempt cancels the token, and the delay after it is gone through. -/
theorem Chain.run_lingers_once :
    let around : Surroundings Unit := ⟨.broken, .ok {}, 0⟩
    let t : Token := ⟨"t"⟩
    let stop : Step Unit := .ofCallback ⟨none, .callable "stop", fun _ c => do
      Action.cancel t (.str "enough")
      return .context c⟩
    let c : Context := { session := ⟨"fake", "s"⟩, items := 0, sink := .recorder }
    let inner : Step Unit := Chain.asStep ⟨[stop, .pressEnter]⟩
    let started : Machine Unit := { Machine.start () with active := some t }
    ∃ seconds, Retry.delay (.int 100) 1 = .ok seconds ∧
      Event.pauses ((inner.retrying (.int 2) (.str "always") (.int 100)).execute c (some t) around
        started).2.log = [seconds] := by
  intro around t stop c inner started
  have hstop : stop.Reports around (.regardless (.loyal Unit)) := by
    refine fun c hc m => ⟨trivial, ?_⟩
    rw [hc]
    exact (Leeway.loyal_cancel around t (.str "enough") m).1
  let flow : Flow (.reporting around (.regardless (.loyal Unit))) :=
    .chain [.own stop hstop, .plain .pressEnter (.atomic .pressEnter)] none
  have hvisit : Chain.Visits around [.retrying flow (.int 2) (.str "always") (.int 100)] c (some t)
      (Machine.start ()) true
      ⟨.retrying flow (.int 2) (.str "always") (.int 100), some t, c, started⟩ :=
    ⟨_, .here rfl, .self _⟩
  obtain ⟨-, hlingers⟩ := Chain.run_lingers hvisit
  have hfirst := hlingers ⟨2, .always, .int 100⟩ rfl 0 _ rfl ⟨.str "enough", rfl⟩
  exact ⟨_, rfl, hfirst.1 rfl (.inl ⟨_, rfl, by simp⟩)⟩

/-- The token is cancelled at the first attempt, with nothing waited for by then. The run waits
before it comes back with the cancellation. -/
theorem Chain.run_waits_cancelled :
    let around : Surroundings Unit := ⟨.broken, .ok {}, 0⟩
    let t : Token := ⟨"t"⟩
    let stop : Step Unit := .ofCallback ⟨none, .callable "stop", fun _ c => do
      Action.cancel t (.str "enough")
      return .context c⟩
    let c : Context := { session := ⟨"fake", "s"⟩, items := 0, sink := .recorder }
    let inner : Step Unit := Chain.asStep ⟨[stop, .pressEnter]⟩
    let retried := inner.retrying (.int 2) (.str "always") (.int 100)
    let run := Chain.run ⟨[retried]⟩ c (some t) around (Machine.start ())
    (∃ x, (inner.trials (.int 2) (.str "always") (.int 100) c (some t) around
        { Machine.start () with active := some t }).head? = some x ∧
      (inner.execute (c.holding 0) none around x).2.Stopped t ∧
      Event.pauses (inner.execute (c.holding 0) none around x).2.log = []) ∧
    (∃ seconds, Retry.delay (.int 100) 1 = .ok seconds ∧
      Event.pauses run.2.log = [seconds]) ∧
    FailsWith ⟨.cancelled, "Chain cancelled before 'chain': enough", some "chain",
      some "ChainCancelledError"⟩ run :=
  ⟨⟨_, rfl, ⟨.str "enough", rfl⟩, rfl⟩, ⟨_, rfl, rfl⟩, ⟨_, _, rfl, rfl⟩⟩

end BrowserFlow
