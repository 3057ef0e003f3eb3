import BrowserFlow.Chain
import BrowserFlow.Proofs.Hearing
import BrowserFlow.Proofs.Recording

/-!
# Executing steps and chains

What executing a step comes to, by how its body ends, and which steps a run of a chain starts. A
chain hands a context back exactly when each body that it starts ends in an answer or in an error
that can be recorded.
-/
namespace BrowserFlow

namespace Step

variable {σ : Type} (s : Step σ) (c : Context) (token : Option Token) (around : Surroundings σ)
  (m : Machine σ)

/-- Why a step is not to be started: the reason that the token it heeds was cancelled for. -/
def stopReason (token : Option Token) (m : Machine σ) : Option Value :=
  (token <|> m.active).bind fun heeded => m.cancelled.lookup heeded

/-- The machine on which the body of a step starts, if the step is started at all. -/
def startOn : Option (Machine σ) :=
  if c.hasFailure then none
  else
    match stopReason token m with
    | some _ => none
    | none => some (c.sink.given .step s.describe m)

/-- The failure of a step that is not started because its token was cancelled. -/
def cancelFailure (reason : Value) : Failure :=
  ⟨.cancelled, "Chain cancelled before '" ++ s.name ++ "': " ++ reason.text, some s.name,
    some "ChainCancelledError"⟩

/-- The failure of a step whose body gives back something other than a context. -/
def strayFailure (v : Value) : Failure :=
  ⟨.usage, "Step returned " ++ v.typeName ++ " instead of a Context", some s.name, none⟩

/-- The machine after a note that the body of a step raised an error. -/
def noted (e : Raised) : Machine σ :=
  { m with log := m.log ++ [.log
    ⟨.debug, "uiflow.chain", "Step '" ++ s.name ++ "' raised " ++ e.cls.name, m.tag, none⟩] }

/-- What a step hands back, by how its body ended. -/
def verdict : Outcome Answer → Outcome Context
  | .done (.context d) => .done d
  | .done (.value v) => .done { c with failure := some (s.strayFailure v) }
  | .raised e =>
    if e.isOrdinary then
      match Failure.ofRaised e (.str s.name) with
      | .ok f => .done { c with failure := some f }
      | .error e' => .raised e'
    else .raised e
  | .endless => .endless

/-- The machine that a step leaves, from how its body ended and the machine it ended on. -/
def settled (n : Machine σ) : Outcome Answer → Machine σ
  | .done (.value v) => c.sink.given .error (s.strayFailure v).line n
  | .raised e =>
    if e.isOrdinary then
      match Failure.ofRaised e (.str s.name) with
      | .ok f => c.sink.given .error f.line (s.noted n e)
      | .error _ => s.noted n e
    else n
  | _ => n

variable {c} in
theorem start_run (hc : c.failure = none) :
    s.start c around m =
      let ended := s.call c around (c.sink.given .step s.describe m)
      (s.verdict c ended.1, s.settled c ended.2 ended.1) := by
  rw [start, Action.bind_done (Sink.write_run ..), Action.bind_run, Action.rescue_run]
  rcases s.call c around (c.sink.given .step s.describe m) with ⟨⟨d | v⟩ | e | _, n⟩
  · rfl
  · exact Context.fail_run c around n hc _ _ _
  · by_cases he : e.isOrdinary
    · simp only [he, if_true, verdict, settled]
      rw [Action.bind_done (Action.record_run ..), Context.withFailure_run c around _ hc,
        Failure.coerce_raised]
      rcases Failure.ofRaised e (.str s.name) with e' | f <;> rfl
    · simp only [he, verdict, settled]
      rfl
  · rfl

theorem execute_of_failed {c : Context} (hc : c.failure ≠ none) :
    s.execute c token around m = (.done c, m) := by
  rw [execute, if_pos (Context.hasFailure_of_ne hc)]
  rfl

variable {c} in
theorem execute_run (hc : c.failure = none) :
    s.execute c token around m = match stopReason token m with
      | some reason => (.done { c with failure := some (s.cancelFailure reason) },
          c.sink.given .error (s.cancelFailure reason).line m)
      | none => s.start c around m := by
  have hheeded : (heeded token : Action σ (Option Token)) around m =
      (.done (token <|> m.active), m) := rfl
  rw [execute, if_neg (by simp [Context.hasFailure_of_none hc]),
    Action.bind_done hheeded, stopReason]
  cases token <|> m.active with
  | none => rfl
  | some heeded =>
    simp only [Option.bind_some]
    rw [Action.bind_done (Action.cancellation_run ..)]
    cases m.cancelled.lookup heeded with
    | none => rfl
    | some reason => exact Context.withFailure_run c around m hc _ _

theorem startOn_eq_some {c : Context} {n : Machine σ} :
    s.startOn c token m = some n ↔
      c.failure = none ∧ stopReason token m = none ∧ n = c.sink.given .step s.describe m := by
  rw [startOn]
  by_cases hc : c.failure = none
  · rw [if_neg (by simp [Context.hasFailure_of_none hc])]
    cases stopReason token m <;> simp [hc, eq_comm]
  · simp [Context.hasFailure_of_ne hc, hc]

/-- A step that is not started leaves its body alone: it fails, or it has failed before. -/
theorem execute_of_not_started {c : Context} (h : s.startOn c token m = none) :
    ∃ d n, s.execute c token around m = (.done d, n) ∧ d.failure ≠ none := by
  by_cases hc : c.failure = none
  · rw [startOn, if_neg (by simp [Context.hasFailure_of_none hc])] at h
    rw [execute_run s token around m hc]
    cases hr : stopReason token m with
    | none => rw [hr] at h; cases h
    | some reason => exact ⟨_, _, rfl, by simp⟩
  · exact ⟨c, m, execute_of_failed s token around m hc, hc⟩

theorem execute_of_started {c : Context} {n : Machine σ} (h : s.startOn c token m = some n) :
    c.failure = none ∧ s.execute c token around m =
      (s.verdict c (s.call c around n).1,
        s.settled c (s.call c around n).2 (s.call c around n).1) := by
  rw [startOn] at h
  split at h
  · cases h
  · have hc : c.failure = none := by simp_all [Context.hasFailure]
    cases hr : stopReason token m with
    | some reason => rw [hr] at h; cases h
    | none =>
      rw [hr] at h
      cases h
      refine ⟨hc, ?_⟩
      rw [execute_run s token around m hc, hr]
      exact start_run s around m hc

end Step

/-- A body ends in a way that a chain goes on from. -/
def Outcome.Settles : Outcome Answer → Prop
  | .done _ => True
  | .raised e => e.Recordable
  | .endless => False

/-- A step that was started, with the context and the machine that its body was run on. -/
structure Start (σ : Type) where
  step : Step σ
  context : Context
  machine : Machine σ

/-- How the body of a started step ended. -/
def Start.ending {σ : Type} (around : Surroundings σ) (start : Start σ) : Outcome Answer :=
  (start.step.call start.context around start.machine).1

namespace Step

variable {σ : Type} {s : Step σ} {c : Context} {around : Surroundings σ}

/-- An error that can be recorded becomes the failure of the context that the step was given. -/
theorem verdict_of_recordable {e : Raised} (he : e.Recordable) :
    ∃ f, Failure.ofRaised e (.str s.name) = .ok f ∧
      s.verdict c (.raised e) = .done { c with failure := some f } := by
  obtain ⟨f, hf⟩ := (Failure.ofRaised_ok_iff e s.name).2 he.readable
  exact ⟨f, hf, by simp only [verdict, he.ordinary, if_true, hf]⟩

/-- Any other error leaves the step, as it is or as the error of recording it. -/
theorem verdict_of_not_recordable {e : Raised} (he : ¬ e.Recordable) :
    ∃ e', s.verdict c (.raised e) = .raised e' ∧
      (e.isOrdinary = true ∧ Failure.ofRaised e (.str s.name) = .error e' ∨
        e.isOrdinary = false ∧ e' = e) := by
  by_cases ho : e.isOrdinary
  · rcases hf : Failure.ofRaised e (.str s.name) with e' | f
    · exact ⟨e', by simp only [verdict, ho, if_true, hf], .inl ⟨ho, rfl⟩⟩
    · exact absurd ⟨ho, (Failure.ofRaised_ok_iff e s.name).1 ⟨f, hf⟩⟩ he
  · exact ⟨e, by simp only [verdict, ho]; rfl, .inr ⟨by simpa using ho, rfl⟩⟩

/-- A started step hands a context back exactly when its body ends in a way that a chain goes on
from. -/
theorem verdict_returns_iff (ending : Outcome Answer) :
    (∃ d, s.verdict c ending = .done d) ↔ ending.Settles := by
  rcases ending with ⟨d | v⟩ | e | _
  · exact iff_of_true ⟨d, rfl⟩ trivial
  · exact iff_of_true ⟨_, rfl⟩ trivial
  · by_cases he : e.Recordable
    · obtain ⟨f, -, hv⟩ := verdict_of_recordable (s := s) (c := c) he
      exact iff_of_true ⟨_, hv⟩ he
    · obtain ⟨e', hv, -⟩ := verdict_of_not_recordable (s := s) (c := c) he
      exact iff_of_false (by simp [hv]) he
  · exact iff_of_false (by simp [verdict]) id

/-- A body that gives no answer never comes back as a context without a failure. -/
theorem verdict_unanswered {ending : Outcome Answer} {d : Context}
    (hending : ∀ a, ending ≠ .done a) (h : s.verdict c ending = .done d) :
    d.failure ≠ none := by
  rcases ending with a | e | _
  · exact absurd rfl (hending a)
  · by_cases he : e.Recordable
    · obtain ⟨f, -, hv⟩ := verdict_of_recordable (s := s) (c := c) he
      rw [hv] at h
      cases h
      simp
    · obtain ⟨e', hv, -⟩ := verdict_of_not_recordable (s := s) (c := c) he
      rw [hv] at h
      cases h
  · cases h

/-- Only a body that gives a context without a failure comes back as one. -/
theorem verdict_unfailed_iff {ending : Outcome Answer} {d : Context} :
    s.verdict c ending = .done d ∧ d.failure = none ↔
      ending = .done (.context d) ∧ d.failure = none := by
  constructor
  · rintro ⟨h, hd⟩
    rcases hending : ending with ⟨d' | v⟩ | e | _ <;> rw [hending] at h
    · cases h; exact ⟨rfl, hd⟩
    · cases h; cases hd
    · exact absurd hd (verdict_unanswered (by simp) h)
    · cases h
  · rintro ⟨rfl, hd⟩
    exact ⟨rfl, hd⟩

/-- A step comes back without a failure exactly when it was started and its body gave that
context. -/
theorem execute_unfailed_iff {token : Option Token} {m : Machine σ} {d : Context} :
    (∃ m', s.execute c token around m = (.done d, m')) ∧ d.failure = none ↔
      ∃ n, s.startOn c token m = some n ∧ (s.call c around n).1 = .done (.context d) ∧
        d.failure = none := by
  cases hn : s.startOn c token m with
  | none =>
    obtain ⟨d', n, hd', hfailed⟩ := s.execute_of_not_started token around m hn
    refine iff_of_false ?_ (by simp)
    rintro ⟨⟨m', h⟩, hd⟩
    rw [hd'] at h
    cases h
    exact hfailed hd
  | some n =>
    rw [(s.execute_of_started token around m hn).2]
    simp only [Prod.mk.injEq, exists_and_left, exists_eq', and_true, Option.some.injEq,
      exists_eq_left']
    exact verdict_unfailed_iff

theorem ofBody_run (name : String) (args : List (String × Value))
    (body : Context → Action σ Context) (c : Context) (around : Surroundings σ)
    (m : Machine σ) :
    (ofBody name args body).body c around m = match body c around m with
      | (.done d, n) => (.done (.context d), n)
      | (.raised e, n) => (.raised e, n)
      | (.endless, n) => (.endless, n) := by
  change (body c >>= fun d => pure (Answer.context d)) around m = _
  rw [Action.bind_run]
  rcases body c around m with ⟨d | e | _, n⟩ <;> rfl

theorem call_done {m n : Machine σ} {a : Answer} :
    s.call c around m = (.done a, n) ↔ s.body c around m = (.done a, n) :=
  Action.awaited_done

/-- A step of the library comes back without a failure only with what its body gave. -/
theorem execute_ofBody_unfailed {name : String} {args : List (String × Value)}
    {body : Context → Action σ Context} {token : Option Token} {m n : Machine σ} {d : Context}
    (h : (ofBody name args body).execute c token around m = (.done d, n)) (hd : d.failure = none) :
    ∃ k o, body c around k = (.done d, o) := by
  obtain ⟨k, -, hcall, -⟩ := execute_unfailed_iff.1 ⟨⟨n, h⟩, hd⟩
  have hbody := call_done.1 (Prod.ext hcall rfl)
  rw [ofBody_run] at hbody
  rcases hrun : body c around k with ⟨d' | e | _, o⟩ <;> rw [hrun] at hbody <;> cases hbody
  exact ⟨k, _, hrun⟩

/-- A context that comes back from a step without a failure, or with one that its body did not hand
over, is the one that the body gave or the one that the step was given with a failure. -/
theorem verdict_done {ending : Outcome Answer} {d : Context} (h : s.verdict c ending = .done d) :
    ending = .done (.context d) ∨
      (∀ d', ending ≠ .done (.context d')) ∧ ∃ f, d = { c with failure := some f } := by
  rcases ending with ⟨d' | v⟩ | e | _
  · cases h; exact .inl rfl
  · cases h; exact .inr ⟨by simp, _, rfl⟩
  · refine .inr ⟨by simp, ?_⟩
    by_cases he : e.Recordable
    · obtain ⟨f, -, hv⟩ := verdict_of_recordable (s := s) (c := c) he
      cases hv.symm.trans h
      exact ⟨f, rfl⟩
    · obtain ⟨e', hv, -⟩ := verdict_of_not_recordable (s := s) (c := c) he
      cases hv.symm.trans h
  · cases h

/-- An error that leaves an executed step comes from its body: as the error of recording an ordinary
one, or as it is. -/
theorem execute_raised {token : Option Token} {m : Machine σ} {e' : Raised}
    (h : (s.execute c token around m).1 = .raised e') :
    ∃ n e, s.startOn c token m = some n ∧ (s.call c around n).1 = .raised e ∧
      (e.isOrdinary = true ∧ Failure.ofRaised e (.str s.name) = .error e' ∨
        e.isOrdinary = false ∧ e' = e) := by
  cases hn : s.startOn c token m with
  | none =>
    obtain ⟨d, n, hd, -⟩ := s.execute_of_not_started token around m hn
    rw [hd] at h
    cases h
  | some n =>
    rw [(s.execute_of_started token around m hn).2] at h
    rcases hcall : (s.call c around n).1 with ⟨d | v⟩ | e | _ <;> rw [hcall] at h
    · cases h
    · cases h
    · refine ⟨n, e, rfl, hcall, ?_⟩
      by_cases he : e.Recordable
      · obtain ⟨f, -, hverdict⟩ := verdict_of_recordable (s := s) (c := c) he
        cases hverdict.symm.trans h
      · obtain ⟨e'', hverdict, hcause⟩ := verdict_of_not_recordable (s := s) (c := c) he
        cases hverdict.symm.trans h
        exact hcause
    · cases h

end Step

namespace Chain

variable {σ : Type} (around : Surroundings σ) (token : Option Token)

/-- The steps that running a list of steps starts, in their order. -/
def startsOf : List (Step σ) → Context → Machine σ → List (Start σ)
  | [], _, _ => []
  | s :: rest, c, m =>
    match s.startOn c token m with
    | none => []
    | some n => ⟨s, c, n⟩ ::
      match s.execute c token around m with
      | (.done d, m') => startsOf rest d m'
      | _ => []

/-- Of the steps after a failure there is a note and nothing else. -/
theorem runSteps_skips {c : Context} (hc : c.failure ≠ none) (steps : List (Step σ))
    (m : Machine σ) :
    ∃ n, runSteps token steps c around m = (.done c, n) ∧ Noted m n := by
  cases steps with
  | nil => exact ⟨m, rfl, .refl m⟩
  | cons s rest =>
    rw [runSteps, if_pos (Context.hasFailure_of_ne hc),
      Action.bind_done (Action.record_run ..)]
    refine ⟨_, rfl, _, ?_, rfl⟩
    simp [Event.IsNote]

variable {around token}

theorem runSteps_of_failed {c : Context} (hc : c.failure ≠ none) (steps : List (Step σ))
    (m : Machine σ) :
    (runSteps token steps c around m).1 = .done c := by
  obtain ⟨n, hn, -⟩ := runSteps_skips around token hc steps m
  rw [hn]

theorem runSteps_cons {s : Step σ} {rest : List (Step σ)} {c d : Context} {m n : Machine σ}
    (h : s.execute c token around m = (.done d, n)) (hc : c.failure = none) :
    runSteps token (s :: rest) c around m = runSteps token rest d around n := by
  rw [runSteps, if_neg (by simp [Context.hasFailure_of_none hc]), Action.bind_done h]

theorem runSteps_cons_raised {s : Step σ} {rest : List (Step σ)} {c : Context} {e : Raised}
    {m n : Machine σ} (h : s.execute c token around m = (.raised e, n)) (hc : c.failure = none) :
    runSteps token (s :: rest) c around m = (.raised e, n) := by
  rw [runSteps, if_neg (by simp [Context.hasFailure_of_none hc]), Action.bind_raised h]

theorem runSteps_cons_endless {s : Step σ} {rest : List (Step σ)} {c : Context}
    {m n : Machine σ} (h : s.execute c token around m = (.endless, n)) (hc : c.failure = none) :
    runSteps token (s :: rest) c around m = (.endless, n) := by
  rw [runSteps, if_neg (by simp [Context.hasFailure_of_none hc]), Action.bind_endless h]

/-- A list of steps hands a context back exactly when every step that it starts settles. -/
theorem runSteps_returns_iff (steps : List (Step σ)) (c : Context) (m : Machine σ) :
    (∃ r, (runSteps token steps c around m).1 = .done r) ↔
      ∀ start ∈ startsOf around token steps c m, (start.ending around).Settles := by
  induction steps generalizing c m with
  | nil => exact iff_of_true ⟨c, rfl⟩ (by simp [startsOf])
  | cons s rest ih =>
    rw [startsOf]
    cases hn : s.startOn c token m with
    | none =>
      obtain ⟨d, n, hd, hfail⟩ := s.execute_of_not_started token around m hn
      refine iff_of_true ⟨d, ?_⟩ (by simp)
      by_cases hc : c.failure = none
      · rw [runSteps_cons hd hc]
        exact runSteps_of_failed hfail rest n
      · rw [Step.execute_of_failed s token around m hc] at hd
        cases hd
        exact runSteps_of_failed hc _ m
    | some n =>
      obtain ⟨hc, hs⟩ := s.execute_of_started token around m hn
      have hiff := Step.verdict_returns_iff (s := s) (c := c) (s.call c around n).1
      have hverdict : (s.execute c token around m).1 =
          s.verdict c (s.call c around n).1 := by rw [hs]
      simp only [List.forall_mem_cons]
      rw [show Start.ending around ⟨s, c, n⟩ = (s.call c around n).1 from rfl,
        ← hiff, ← hverdict]
      rcases he : s.execute c token around m with ⟨d | e | _, m'⟩
      · rw [runSteps_cons he hc, ih d m']
        exact ⟨fun h => ⟨⟨d, rfl⟩, h⟩, fun h => h.2⟩
      · rw [runSteps_cons_raised he hc]
        exact iff_of_false (by simp) (by simp)
      · rw [runSteps_cons_endless he hc]
        exact iff_of_false (by simp) (by simp)

/-- A body that is started and gives no answer decides what the whole run hands back. -/
theorem runSteps_of_unanswered {steps : List (Step σ)} {c : Context} {m : Machine σ}
    {start : Start σ}
    (hmem : start ∈ startsOf around token steps c m)
    (h : ∀ a, start.ending around ≠ .done a) :
    (runSteps token steps c around m).1 =
      start.step.verdict start.context (start.ending around) := by
  induction steps generalizing c m with
  | nil => simp [startsOf] at hmem
  | cons s rest ih =>
    rw [startsOf] at hmem
    cases hn : s.startOn c token m with
    | none => rw [hn] at hmem; simp at hmem
    | some n =>
      obtain ⟨hc, hs⟩ := s.execute_of_started token around m hn
      rw [hn, List.mem_cons] at hmem
      rcases hmem with rfl | hmem
      · have hverdict : (s.execute c token around m).1 =
            s.verdict c (Start.ending around ⟨s, c, n⟩) := by
          rw [hs]
          rfl
        rw [← hverdict]
        rcases hx : s.execute c token around m with ⟨d | e' | _, m'⟩
        · rw [hx] at hverdict
          rw [runSteps_cons hx hc]
          exact runSteps_of_failed (Step.verdict_unanswered h hverdict.symm) rest m'
        · rw [runSteps_cons_raised hx hc]
        · rw [runSteps_cons_endless hx hc]
      · rcases hx : s.execute c token around m with ⟨d | e' | _, m'⟩ <;> rw [hx] at hmem
        · rw [runSteps_cons hx hc]
          exact ih hmem
        · simp at hmem
        · simp at hmem

/-- The machine on which a chain runs its steps: a token that it is given has become the active
one. -/
def entered (token : Option Token) (m : Machine σ) : Machine σ :=
  match token with
  | none => m
  | some given => { m with active := some given }

/-- The machine that a chain leaves, from the one it was run on and the one its steps left. -/
def leaving (token : Option Token) (m n : Machine σ) : Machine σ :=
  match token with
  | none => n
  | some _ => { n with active := m.active }

theorem run_run (chain : Chain σ) (c : Context) (token : Option Token) (around : Surroundings σ)
    (m : Machine σ) :
    chain.run c token around m =
      let ended := runSteps token chain.steps c around (entered token m)
      (ended.1, leaving token m ended.2) := by
  cases token <;> rfl

/-- The steps that a run of a chain starts, in their order. -/
def starts (chain : Chain σ) (c : Context) (token : Option Token) (around : Surroundings σ)
    (m : Machine σ) : List (Start σ) :=
  startsOf around token chain.steps c (entered token m)

/-- A run hands a context back exactly when every step that it starts settles. -/
theorem returns_iff (chain : Chain σ) (c : Context) (m : Machine σ) :
    (∃ r, (chain.run c token around m).1 = .done r) ↔
      ∀ start ∈ chain.starts c token around m, (start.ending around).Settles := by
  rw [run_run]
  exact runSteps_returns_iff chain.steps c (entered token m)

theorem run_of_unanswered {chain : Chain σ} {c : Context} {m : Machine σ} {start : Start σ}
    (hmem : start ∈ chain.starts c token around m) (h : ∀ a, start.ending around ≠ .done a) :
    (chain.run c token around m).1 = start.step.verdict start.context (start.ending around) := by
  rw [run_run]
  exact runSteps_of_unanswered hmem h

end Chain

end BrowserFlow
