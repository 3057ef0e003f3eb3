import BrowserFlow.Proofs.Pausing

/-!
# Delays of a retry

When a retry waits. Of an operation there is the whole account: which calls are made, what is logged
and waited for after each of them, and what comes of it. When a step is retried, an error that its
body raises is a failure by the time the retry sees it, unless no failure can be built from it. So
with delays after exceptions only there is a delay after an attempt whose error could not be
recorded, and after no other.
-/
namespace BrowserFlow

variable {σ : Type}

namespace Retry

/-- An attempt at an operation. -/
def calling (operation : Callback σ Unit Bool) : Action σ (Unit × Bool) := do
  return ((), ← operation.invoke ())

/-- The terms of a retry with a whole number of attempts, and a policy and a unit that are given or
left to the settings. -/
def settledTerms (n : Int) (policy : Option BackoffPolicy) (unit : Option Int) (s : Settings) :
    Plan :=
  ⟨clamp n, policy.getD s.retryBackoff, .int (unit.getD s.retryBaseDelayMs)⟩

theorem readPolicy_word (policy : Option BackoffPolicy) (s : Settings) :
    readPolicy (.ofOption (policy.map (·.word))) s = .ok (policy.getD s.retryBackoff) := by
  rcases policy with _ | _ | _ <;> rfl

theorem terms_settled {around : Surroundings σ} {s : Settings} (hs : around.settings = .ok s)
    (n : Int) (policy : Option BackoffPolicy) (unit : Option Int) :
    terms around (.int n) (.ofOption (policy.map (·.word))) (unit.elim .none .int) =
      .ok (settledTerms n policy unit s) := by
  rw [terms, hs]
  simp only [bind, Except.bind, readPolicy_word]
  cases unit <;> rfl

theorem plan_of_terms {around : Surroundings σ} {attempts backoff baseDelayMs : Value} {p : Plan}
    (hp : terms around attempts backoff baseDelayMs = .ok p) (m : Machine σ) :
    plan attempts backoff baseDelayMs around m = (.done p, m) := by
  rw [plan_run, hp]
  rfl

end Retry

theorem retry_run (operation : Callback σ Unit Bool) {attempts backoff baseDelayMs : Value}
    {around : Surroundings σ} {p : Retry.Plan}
    (hp : Retry.terms around attempts backoff baseDelayMs = .ok p) (m : Machine σ) :
    retry (some operation) attempts backoff baseDelayMs around m =
      match Retry.loop p (Retry.calling operation) p.attempts () around m with
      | (.done (_, ok), n) => (.done ok, n)
      | (.raised e, n) => (.raised e, n)
      | (.endless, n) => (.endless, n) := by
  have hrequire : (Step.require (some operation) "retry" "operation" :
      Action σ (Callback σ Unit Bool)) around m = (.done operation, m) := rfl
  rw [retry, Action.bind_done hrequire, Action.bind_done (Retry.plan_of_terms hp m),
    Action.bind_run, Retry.run, ← Retry.calling]
  rcases Retry.loop p (Retry.calling operation) p.attempts () around m with ⟨_ | _ | _, n⟩ <;>
    rfl

/-- The whole account of a retry of an operation. The first call finds the machine as it is. After a
call that the retry can cope with no more is left behind than its warning and its delay, on which
the next call or the result follows; it is a call if there may be another and this one did not
succeed. There is a result exactly when the retry can cope with each call. Then there are as many
calls as there may be, or as many as it takes for one to succeed, and the result tells whether one
did. -/
theorem retry_calls (operation : Callback σ Unit Bool) (n : Int) (policy : Option BackoffPolicy)
    (unit : Option Int) {around : Surroundings σ} {s : Settings} (hs : around.settings = .ok s)
    (m : Machine σ) :
    let p := Retry.settledTerms n policy unit s
    let call := Retry.calling operation around
    let calls := Retry.begun p (Retry.calling operation) around p.attempts m
    let run := retry (some operation) (.int n) (.ofOption (policy.map (·.word)))
      (unit.elim .none .int) around m
    (calls ++ [run.2]).head? = some m ∧
      (∀ k x, calls[k]? = some x → p.Copes (k + 1) (call x).1 →
        (calls ++ [run.2])[k + 1]? = some (p.after (k + 1) (call x).1 (call x).2)) ∧
      (∀ k x, calls[k]? = some x → ((∃ y, calls[k + 1]? = some y) ↔ k + 1 < p.attempts ∧
        Retry.succeeded (call x).1 = false ∧ p.Copes (k + 1) (call x).1)) ∧
      ((∃ ok, run.1 = .done ok) ↔
        ∀ k x, calls[k]? = some x → p.Copes (k + 1) (call x).1) ∧
      ∀ ok, run.1 = .done ok →
        calls.length = min p.attempts (calls.findIdx (fun x => Retry.succeeded (call x).1) + 1) ∧
          ok = calls.any fun x => Retry.succeeded (call x).1 := by
  intro p call calls run
  have htries : Retry.Tries p (Retry.calling operation) around 0 () m calls
      (Retry.loop p (Retry.calling operation) p.attempts () around m) :=
    Retry.tries_loop (Nat.zero_add _)
  have hrun : run = _ := retry_run operation (Retry.terms_settled hs n policy unit) m
  generalize hloop : Retry.loop p (Retry.calling operation) p.attempts () around m = r at htries
  rw [show Retry.loop (Retry.settledTerms n policy unit s) _ _ _ _ _ = r from hloop] at hrun
  have hmachine : run.2 = r.2 := by
    rw [hrun]
    rcases r with ⟨_ | _ | _, o⟩ <;> rfl
  have hdone : ∀ ok, run.1 = .done ok ↔ r.1 = .done ((), ok) := by
    intro ok
    rw [hrun]
    rcases r with ⟨⟨_, _⟩ | _ | _, o⟩ <;> simp
  rw [hmachine]
  refine ⟨htries.first, fun k x hx hcopes => ?_, fun k x hx => ?_, ?_, fun ok hok => ?_⟩
  · rw [← Nat.zero_add k] at hcopes
    simpa only [Nat.zero_add] using htries.next hx hcopes
  · simpa only [Nat.zero_add] using htries.more_iff hx
  · have hgives := htries.gives_iff
    simp only [Nat.zero_add] at hgives
    rw [← hgives]
    simp only [hdone]
    exact ⟨fun ⟨ok, h⟩ => ⟨_, h⟩, fun ⟨⟨_, ok⟩, h⟩ => ⟨ok, h⟩⟩
  · exact htries.given ((hdone ok).1 hok)

/-- The first call raises, the second one succeeds, and a third is not made. -/
theorem retry_calls_again :
    let around : Surroundings Unit := ⟨.broken, .ok {}, 0⟩
    let operation : Callback Unit Unit Bool := ⟨some (0, "operation"), .callable "operation",
      fun earlier _ => if earlier = 0 then Action.raise (.driver "down") else pure true⟩
    around.settings = .ok {} ∧
      (retry (some operation) (.int 3) .none (.int 100) around (Machine.start ())).1 =
        .done true := by
  intro around operation
  obtain ⟨-, -, -, hreturns, hresult⟩ :=
    retry_calls operation 3 none (some 100) (show around.settings = .ok {} from rfl)
      (Machine.start ())
  have hcopes : ∀ k x, (Retry.begun (Retry.settledTerms 3 none (some 100) {})
      (Retry.calling operation) around 3 (Machine.start ()))[k]? = some x →
      (Retry.settledTerms 3 none (some 100) {}).Copes (k + 1)
        (Retry.calling operation around x).1 := by
    intro k x hx
    match k with
    | 0 =>
      cases hx
      refine ⟨fun h => ?_, fun e he => ?_, fun _ => ⟨_, rfl⟩⟩
      · cases h
      · cases he
        exact ⟨rfl, _, rfl⟩
    | 1 =>
      cases hx
      exact Retry.Plan.copes_of_succeeded rfl
    | k + 2 => cases hx
  obtain ⟨ok, hok⟩ := hreturns.2 hcopes
  obtain rfl : ok = true := (hresult ok hok).2
  exact ⟨rfl, hok⟩

/-- The only call raises an error that has no text. The warning about it cannot be written, and the
error of that leaves the retry. -/
theorem retry_escapes :
    let around : Surroundings Unit := ⟨.broken, .ok {}, 0⟩
    let e : Raised := { cls := .step .missingItem, args := [.int 5] }
    let operation : Callback Unit Unit Bool :=
      ⟨none, .callable "operation", fun _ _ => Action.raise e⟩
    (∀ m, operation.invoke () around m = (.raised e, m)) ∧ e.isOrdinary = true ∧
      (retry (some operation) (.int 1) .none .none around (Machine.start ())).1 =
        .raised (.typeError "__str__ returned non-string (type int)") :=
  ⟨fun _ => rfl, rfl, rfl⟩

namespace Step

variable {body : Step σ} {attempts backoff baseDelayMs : Value} {c : Context}
  {token : Option Token} {around : Surroundings σ} {m n : Machine σ} {p : Retry.Plan}

/-- A retry of a step waits in its attempts and between them, and at no other time. -/
theorem pauses_retrying
    (hn : (body.retrying attempts backoff baseDelayMs).startOn c token m = some n)
    (hp : Retry.terms around attempts backoff baseDelayMs = .ok p) :
    Event.pauses ((body.retrying attempts backoff baseDelayMs).execute c token around m).2.log =
      Event.pauses (Retry.loop p (Retry.attempt body (c.holding n.fresh)) p.attempts
        (c.holding n.fresh) around { n with fresh := n.fresh + 1 }).2.log := by
  rw [(execute_of_started _ token around m hn).2, pauses_settled, call, Action.awaited_machine,
    Retry.retrying_body, Retry.inCell, bind_assoc,
    Action.bind_done (Retry.plan_of_terms hp _), bind_assoc, Action.bind_run, Retry.run]
  rcases Retry.loop p (Retry.attempt body (c.holding n.fresh)) p.attempts (c.holding n.fresh) around
    { n with fresh := n.fresh + 1 } with ⟨last | e | _, o⟩
  · dsimp only
    rw [Action.bind_done (Retry.conclude_run ..)]
    exact Retry.pauses_concluded ..
  · rfl
  · rfl

theorem attempt_machine (body : Step σ) (held : Context) (around : Surroundings σ)
    (x : Machine σ) :
    (Retry.attempt body held around x).2 = (body.execute held none around x).2 := by
  rw [Retry.attempt_run]
  rcases body.execute held none around x with ⟨d | e | _, o⟩ <;> rfl

theorem attempt_raised {held : Context} {x : Machine σ} {e : Raised} :
    (Retry.attempt body held around x).1 = .raised e ↔
      (body.execute held none around x).1 = .raised e := by
  rw [Retry.attempt_run]
  rcases body.execute held none around x with ⟨d | e' | _, o⟩ <;> simp

theorem attempt_of_missed {held d : Context} {x : Machine σ}
    (hd : (body.execute held none around x).1 = .done d) (hfailed : d.failure ≠ none) :
    (Retry.attempt body held around x).1 = .done (d, false) := by
  rw [Retry.attempt_run]
  rcases hrun : body.execute held none around x with ⟨o, n⟩
  obtain rfl : o = .done d := by rw [← hd, hrun]
  simp [Context.hasFailure_of_ne hfailed]

/-- An attempt at a step that did not succeed, and that the retry can cope with: the step gave a
context that has failed, or it raised an error from which no failure could be built. -/
theorem attempt_missed {held : Context} {x : Machine σ} {k : Nat}
    (ho : Retry.succeeded (Retry.attempt body held around x).1 = false)
    (hcopes : p.Copes k (Retry.attempt body held around x).1) :
    (∃ d, (body.execute held none around x).1 = .done d ∧ d.failure ≠ none ∧
        (Retry.attempt body held around x).1 = .done (d, false)) ∨
      body.Escapes held around x ∧ ∃ e, (Retry.attempt body held around x).1 = .raised e := by
  have hended := Retry.attempt_run body held around x
  rcases hexecute : body.execute held none around x with ⟨d | e | _, o⟩ <;>
    rw [hexecute] at hended
  · have hfailed : d.failure ≠ none := by
      rw [hended] at ho
      simpa [Retry.succeeded, Context.hasFailure, Option.isSome_iff_ne_none] using ho
    exact .inl ⟨d, rfl, hfailed, attempt_of_missed (by rw [hexecute]) hfailed⟩
  · rw [hended] at hcopes ⊢
    exact .inr ⟨escapes_of_raised (by rw [hexecute]) (hcopes.caught e rfl).1, e, rfl⟩
  · rw [hended] at hcopes
    exact absurd rfl hcopes.ends

/-- When there is a delay after an attempt at a step that may be followed by another one. -/
theorem due_attempt {held : Context} {x : Machine σ} {k : Nat} (hk : k < p.attempts)
    (ho : Retry.succeeded (Retry.attempt body held around x).1 = false)
    (hcopes : p.Copes k (Retry.attempt body held around x).1) :
    p.due k (Retry.attempt body held around x).1 = true ↔
      p.policy = .always ∨ body.Escapes held around x := by
  obtain ⟨d, hd, -, hended⟩ | ⟨hescapes, e, hended⟩ := attempt_missed ho hcopes
  · have hescapes : ¬ body.Escapes held around x := by
      intro h
      obtain ⟨e, he, -⟩ := h.execute
      cases hd.symm.trans he
    simp [hended, Retry.Plan.due, hk, hescapes]
  · simp [hended, Retry.Plan.due, hk, hescapes]

/-- When a retry can cope with an attempt at a step that may be followed by another one, and that
did not succeed. -/
theorem copes_attempt_iff {held : Context} {x : Machine σ} {k : Nat} (hk : k < p.attempts) :
    Retry.succeeded (Retry.attempt body held around x).1 = false ∧
        p.Copes k (Retry.attempt body held around x).1 ↔
      ((∃ d, (body.execute held none around x).1 = .done d ∧ d.failure ≠ none) ∨
          body.Escapes held around x) ∧
        (p.policy = .always ∨ body.Escapes held around x →
          ∃ seconds, Retry.delay p.unitMs k = .ok seconds) := by
  constructor
  · rintro ⟨ho, hcopes⟩
    refine ⟨?_, fun hdue => hcopes.waits ((due_attempt hk ho hcopes).2 hdue)⟩
    exact (attempt_missed ho hcopes).imp
      (fun ⟨d, hd, hfailed, _⟩ => ⟨d, hd, hfailed⟩) And.left
  · rintro ⟨⟨d, hd, hfailed⟩ | hescapes, hwaits⟩
    · rw [attempt_of_missed hd hfailed]
      refine ⟨rfl, by simp, by simp, fun hdue => hwaits (.inl ?_)⟩
      simpa [Retry.Plan.due, hk] using hdue
    · obtain ⟨e, he, ho, htext⟩ := hescapes.execute
      rw [attempt_raised.2 he]
      refine ⟨rfl, by simp, fun e' he' => ?_, fun _ => hwaits (.inr hescapes)⟩
      cases he'
      exact ⟨ho, htext⟩

theorem tries_trials
    (hn : (body.retrying attempts backoff baseDelayMs).startOn c token m = some n)
    (hp : Retry.terms around attempts backoff baseDelayMs = .ok p) :
    Retry.Tries p (Retry.attempt body (c.holding m.fresh)) around 0 (c.holding m.fresh)
      { n with fresh := m.fresh + 1 } (body.trials attempts backoff baseDelayMs c token around m)
      (Retry.loop p (Retry.attempt body (c.holding m.fresh)) p.attempts (c.holding m.fresh) around
        { n with fresh := m.fresh + 1 }) := by
  rw [body.trials_of_started hn hp, startOn_fresh hn]
  exact Retry.tries_loop (Nat.zero_add _)

variable (body attempts backoff baseDelayMs c token around m)

/-- When a retry of a step waits: not before its first attempt and not after its last, and after any
other exactly if its policy is to wait after each of them, or an error was raised from which no
failure could be built. Another attempt follows on one that failed or raised such an error, if there
may be another and the delay that is due can be worked out. -/
theorem retrying_pauses (hp : Retry.terms around attempts backoff baseDelayMs = .ok p) {i : Nat}
    {x : Machine σ}
    (hx : (body.trials attempts backoff baseDelayMs c token around m)[i]? = some x) :
    let ended := body.execute (c.holding m.fresh) none around x
    let run := (body.retrying attempts backoff baseDelayMs).execute c token around m
    (i = 0 → Event.pauses x.log = Event.pauses m.log) ∧
      ((∃ y, (body.trials attempts backoff baseDelayMs c token around m)[i + 1]? = some y) ↔
        i + 1 < p.attempts ∧
          ((∃ d, ended.1 = .done d ∧ d.failure ≠ none) ∨
            body.Escapes (c.holding m.fresh) around x) ∧
          (p.policy = .always ∨ body.Escapes (c.holding m.fresh) around x →
            ∃ seconds, Retry.delay p.unitMs (i + 1) = .ok seconds)) ∧
      (∀ y, (body.trials attempts backoff baseDelayMs c token around m)[i + 1]? = some y →
        (p.policy = .always ∨ body.Escapes (c.holding m.fresh) around x →
          ∃ seconds, Retry.delay p.unitMs (i + 1) = .ok seconds ∧
            Event.pauses y.log = Event.pauses ended.2.log ++ [seconds]) ∧
        (¬ (p.policy = .always ∨ body.Escapes (c.holding m.fresh) around x) →
          Event.pauses y.log = Event.pauses ended.2.log)) ∧
      ((body.trials attempts backoff baseDelayMs c token around m).length = i + 1 →
        Event.pauses run.2.log = Event.pauses ended.2.log) := by
  intro ended run
  obtain ⟨n, p', hn, hp'⟩ := body.started_of_trials (List.mem_of_getElem? hx)
  obtain rfl : p = p' := Except.ok.inj (hp.symm.trans hp')
  have htries := tries_trials hn hp
  have hmachine := attempt_machine body (c.holding m.fresh) around x
  have hmore := htries.more_iff hx
  rw [Nat.zero_add] at hmore
  refine ⟨?_, hmore.trans (and_congr_right copes_attempt_iff), fun y hy => ?_, fun hlast => ?_⟩
  · rintro rfl
    have hfirst := htries.first
    rw [← List.head?_eq_getElem?] at hx
    rw [List.head?_append, hx] at hfirst
    cases hfirst
    obtain ⟨-, -, rfl⟩ := (startOn_eq_some ..).1 hn
    exact Sink.pauses_given ..
  · obtain ⟨hroom, ho, hcopes⟩ := hmore.1 ⟨y, hy⟩
    have hnext := htries.next hx (by rwa [Nat.zero_add])
    rw [List.getElem?_append_left (List.getElem?_eq_some_iff.1 hy).1, hy, Nat.zero_add] at hnext
    obtain rfl := Option.some.inj hnext
    rw [Retry.Plan.pauses_after, hmachine, ← due_attempt hroom ho hcopes]
    refine ⟨fun hdue => ?_, fun hdue => ?_⟩
    · obtain ⟨seconds, hseconds, hwaited⟩ := hcopes.pauses_waited hdue
      exact ⟨seconds, hseconds, by rw [hwaited]⟩
    · rw [Retry.Plan.waited_of_not_due p (Bool.not_eq_true _ ▸ hdue)]
      exact List.append_nil _
  · have hx' : (body.trials attempts backoff baseDelayMs c token around m).getLast? = some x := by
      rw [List.getLast?_eq_getElem?, hlast]
      exact hx
    rw [show run = _ from rfl, pauses_retrying hn hp, startOn_fresh hn, htries.pauses_eq hx',
      hmachine]

/-- With delays after every miss there is one between two attempts that raise. -/
theorem retrying_pauses_always :
    let around : Surroundings Unit := ⟨.broken, .ok {}, 0⟩
    let c : Context := { session := ⟨"fake", "s"⟩, items := 0, sink := .recorder }
    let body : Step Unit :=
      .ofCallback ⟨none, .callable "step", fun _ _ => Action.raise (.driver "down")⟩
    Retry.terms around (.int 2) (.str "always") (.int 100) = .ok ⟨2, .always, .int 100⟩ ∧
      ∃ x y, body.trials (.int 2) (.str "always") (.int 100) c none around (Machine.start ()) =
          [x, y] ∧
        Event.pauses x.log = [] ∧ ∃ seconds, Retry.delay (.int 100) 1 = .ok seconds ∧
          Event.pauses y.log = [seconds] := by
  intro around c body
  refine ⟨rfl, _, _, rfl, rfl, ?_⟩
  obtain ⟨-, -, hbetween, -⟩ := retrying_pauses body (.int 2) (.str "always") (.int 100) c none
    around (Machine.start ()) (p := ⟨2, .always, .int 100⟩) rfl (i := 0) rfl
  exact (hbetween _ rfl).1 (.inl rfl)

/-- The body raises at both attempts. By the time the retry sees it, it is a failure, and with
delays after exceptions only nothing is waited for. -/
theorem retrying_hurries :
    let around : Surroundings Unit := ⟨.broken, .ok {}, 0⟩
    let c : Context := { session := ⟨"fake", "s"⟩, items := 0, sink := .recorder }
    let e : Raised := .driver "down"
    let body : Step Unit := .ofCallback ⟨none, .callable "step", fun _ _ => Action.raise e⟩
    let trials := body.trials (.int 2) (.str "on_exception") (.int 100) c none around
      (Machine.start ())
    let run := (body.retrying (.int 2) (.str "on_exception") (.int 100)).execute c none around
      (Machine.start ())
    trials.length = 2 ∧ (∀ m, (body.body (c.holding 0) around m).1 = .raised e) ∧
      e.isOrdinary = true ∧ Event.pauses run.2.log = [] :=
  ⟨rfl, fun _ => rfl, rfl, rfl⟩

end Step

end BrowserFlow
