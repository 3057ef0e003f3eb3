import BrowserFlow.Proofs.Pairing
import BrowserFlow.Proofs.Retrying
import BrowserFlow.Proofs.Visiting

/-!
# Relaying failures

Whatever layers are put around a step, the failure that it comes back with is the failure of the
whole, kind, message, step and type of error, and it is the one that the step comes back with when
it is executed alone. A layer hands on a failure of the step that it runs; a retry does so if each
of its attempts comes to the step or ends in this failure anyway, as one can that finds the page
moved by those before it, and the delays between them can be worked out. Inside, the step is run
with another sink and after more was traced, which makes no difference to its failure.
-/
namespace BrowserFlow

variable {σ : Type}

/-- Nothing differs but what was traced, and where to. -/
def Likeness.untraced : Likeness where
  stores := Eq
  traces := fun t u => ∀ id, Event.invocations id t.log = Event.invocations id u.log
  sinks := fun _ _ => True

/-- A line is no invocation. -/
theorem Sink.given_invocations (kind : LineKind) (line : String) (sink : Sink) (m : Machine σ)
    (id : Nat) :
    Event.invocations id (sink.given kind line m).log = Event.invocations id m.log := by
  induction sink with
  | recorder => exact Event.invocations_append id m.log _
  | logger enabled =>
    simp only [given]
    split
    · exact Event.invocations_append id m.log _
    · rfl
  | holder cell inner ih =>
    simp only [given]
    split
    · rfl
    · exact ih

theorem Retry.concluded_invocations (cell : Nat) (sink : Sink) (last : Context) (m : Machine σ)
    (id : Nat) :
    Event.invocations id (concluded cell sink last m).log = Event.invocations id m.log := by
  rw [concluded]
  split
  · split
    · exact Sink.given_invocations _ _ _ _ id
    · rfl
  · rfl

namespace Likeness

theorem untraced_fits : untraced.Fits where
  append := fun es h id => by
    rw [Event.invocations_append, Event.invocations_append, h id]
  fresh := fun h => h
  invocations := fun id h => h id
  given := fun kind line _ hm id => by
    have h := hm.trace id
    exact (Sink.given_invocations kind line _ _ id).trans
      (h.trans (Sink.given_invocations kind line _ _ id).symm)
  holding := fun _ _ => trivial
  concluded := fun _ _ _ hm id => by
    have h := hm.trace id
    exact (Retry.concluded_invocations _ _ _ _ id).trans
      (h.trans (Retry.concluded_invocations _ _ _ _ id).symm)
  empty := rfl
  set := fun {a b} key value (h : a = b) => by rw [h]; rfl
  remove := fun key h => h ▸ .refl _

/-- A line that one of the runs is given more makes no difference. -/
theorem Machines.told {m n : Machine σ} (h : untraced.Machines m n) (kind : LineKind)
    (line : String) (sink : Sink) : untraced.Machines m (sink.given kind line n) := by
  obtain ⟨log, held, hframe⟩ := Sink.given_frame kind line sink n
  have hcount := Sink.given_invocations kind line sink n
  rw [hframe] at hcount ⊢
  have htrace := fun id => (h.trace id).trans (hcount id).symm
  exact ⟨h.world, h.stores, htrace, h.cancelled, h.active, h.tag⟩

theorem untraced_legible (key : Value) : untraced.Legible key := fun h => congrArg (·.get key) h

end Likeness

/-- Runs that end alike end with the same failure. -/
theorem FailsWith.ends {K : Likeness} {f : Failure} {r r' : Outcome Context × Machine σ}
    (h : K.Ends K.Contexts r r') (hr : FailsWith f r) : FailsWith f r' := by
  obtain ⟨c, m, rfl, hc⟩ := hr
  cases h with
  | done hcd hm => exact ⟨_, _, rfl, hcd.failure ▸ hc⟩

namespace Retry

variable {p : Plan} {tried : Action σ (Context × Bool)} {around : Surroundings σ} {f : Failure}

/-- The delay after each attempt that can be followed by another one can be worked out. -/
def Plan.Pauses (p : Plan) : Prop :=
  p.policy = .always →
    ∀ k, 0 < k → k < p.attempts → ∃ duration, delay p.unitMs k = .ok duration

theorem afterMiss_done (around : Surroundings σ) (hp : p.Pauses) {remaining : Nat}
    (hremaining : remaining < p.attempts) (m : Machine σ) :
    ∃ n, afterMiss p remaining around m = (.done (), n) := by
  rw [afterMiss]
  split
  case isTrue h =>
    obtain ⟨duration, hduration⟩ := hp h.2 (p.attempts - remaining) (by omega) (by omega)
    rw [pause, hduration, Action.bind_done (Action.ofExcept_ok around m duration)]
    exact ⟨_, rfl⟩
  case isFalse => exact ⟨m, rfl⟩

theorem afterMiss_lost (hpolicy : p.policy = .always) {k : Nat} (hk : k ≠ 0) {e : Raised}
    (hdelay : delay p.unitMs (p.attempts - k) = .error e) (m : Machine σ) :
    afterMiss p k around m = (.raised e, m) := by
  rw [afterMiss, if_pos ⟨hk, hpolicy⟩, pause, hdelay]
  rfl

/-- No attempt is begun after a delay that cannot be worked out. -/
theorem begun_of_lost {k : Nat} {r : Context} {e : Raised} {m n o : Machine σ}
    (htried : tried around m = (.done (r, false), n))
    (hafter : afterMiss p k around n = (.raised e, o)) :
    begun p tried around (k + 1) m = [m] := by
  rw [begun, htried]
  simp only [hafter]

/-- Attempts that all fail the same way make a loop that does. -/
theorem loop_of_misses (hp : p.Pauses) {k : Nat} (hk : k ≤ p.attempts) (last : Context)
    {m : Machine σ} (hlast : k = 0 → last.failure = some f)
    (htried : ∀ x ∈ begun p tried around k m,
      ∃ d n, tried around x = (.done (d, false), n) ∧ d.failure = some f) :
    ∃ d n, loop p tried k last around m = (.done (d, false), n) ∧ d.failure = some f := by
  induction k generalizing last m with
  | zero => exact ⟨last, m, rfl, hlast rfl⟩
  | succ k ih =>
    obtain ⟨d, n, hfirst, hd⟩ := htried m List.mem_cons_self
    obtain ⟨o, ho⟩ := afterMiss_done around hp (Nat.lt_of_succ_le hk) n
    rw [begun, hfirst] at htried
    simp only [ho] at htried
    rw [loop_succ, hfirst]
    dsimp only
    rw [Action.bind_done ho]
    exact ih (Nat.le_of_succ_le hk) d (fun _ => hd) fun x hx => htried x (List.mem_cons_of_mem m hx)

end Retry

variable {M : Manners σ} {picks : Callback σ (List Locator) (Option Focus) → Prop}

/-- Control comes from a visit to one of which `P` holds, through layers that hand a failure on: the
layers that run one step, and retries of which every attempt gets there or ends in the failure on
whatever it finds. -/
inductive Visit.Comes (around : Surroundings σ) (f : Failure) (P : Visit M picks → Prop) :
    Visit M picks → Prop
  | here {v : Visit M picks} (h : P v) : Comes around f P v
  | inside {v w : Visit M picks} {n : Machine σ} (hbegins : v.begins = some n)
    (hruns : v.flow.Runs around v.context n true w) (hrest : Comes around f P w) :
    Comes around f P v
  | retrying {flow : Flow M picks} {attempts backoff baseDelayMs : Value} {token : Option Token}
    {c : Context} {m n o : Machine σ} {p : Retry.Plan}
    (hbegins : (flow.toStep.retrying attempts backoff baseDelayMs).startOn c token m = some n)
    (hplan : Retry.plan attempts backoff baseDelayMs around { n with fresh := n.fresh + 1 } =
      (.done p, o)) (hpauses : p.Pauses)
    (hattempts : ∀ x ∈ Retry.begun p (Retry.attempt flow.toStep (c.holding n.fresh)) around
      p.attempts o, ¬ FailsWith f (flow.toStep.execute (c.holding n.fresh) none around x) →
        Comes around f P ⟨flow, none, c.holding n.fresh, x⟩) :
    Comes around f P ⟨.retrying flow attempts backoff baseDelayMs, token, c, m⟩

/-- The visit is of this step, with the context and on the machine that are given, up to what was
traced and where to. -/
structure Visit.IsOf (s : Flow M picks) (c : Context) (m : Machine σ) (v : Visit M picks) :
    Prop where
  flow : v.flow = s
  token : v.token = none
  context : Likeness.untraced.Contexts c v.context
  machine : Likeness.untraced.Machines m v.machine

namespace Visit.Comes

variable {around : Surroundings σ} {P : Visit M picks → Prop} {f : Failure}

theorem retried {flow : Flow M picks} {attempts backoff baseDelayMs : Value} {token : Option Token}
    {c : Context} {m n o : Machine σ} {p : Retry.Plan}
    (hbegins : (flow.toStep.retrying attempts backoff baseDelayMs).startOn c token m = some n)
    (hplan : Retry.plan attempts backoff baseDelayMs around { n with fresh := n.fresh + 1 } =
      (.done p, o)) (hpauses : p.Pauses)
    (hattempts : ∀ x ∈ Retry.begun p (Retry.attempt flow.toStep (c.holding n.fresh)) around
      p.attempts o, FailsWith f (flow.toStep.execute (c.holding n.fresh) none around x)) :
    FailsWith f ((flow.toStep.retrying attempts backoff baseDelayMs).execute c token around m) := by
  have hmisses : ∀ x ∈ Retry.begun p (Retry.attempt flow.toStep (c.holding n.fresh)) around
      p.attempts o, ∃ d n', Retry.attempt flow.toStep (c.holding n.fresh) around x =
        (.done (d, false), n') ∧ d.failure = some f := by
    intro x hx
    obtain ⟨d, n', hended, hd⟩ := hattempts x hx
    refine ⟨d, n', ?_, hd⟩
    rw [Retry.attempt_run, hended]
    simp [Context.hasFailure, hd]
  have hpos : 0 < p.attempts := by
    rw [Retry.plan_run] at hplan
    exact Retry.attempts_pos (Action.ofExcept_eq_done.1 hplan).1
  obtain ⟨d, n', hloop, hd⟩ := Retry.loop_of_misses hpauses (Nat.le_refl _)
    (c.holding n.fresh) (fun h => absurd h (by omega)) hmisses
  refine Step.execute_failsWith hbegins
    (.bind_done (Action.newReference_run ..) (.bind_done hplan ?_))
  refine .bind_done hloop ?_
  rw [Retry.conclude_run]
  exact ⟨_, _, rfl, hd⟩

/-- A failure comes back through all the layers. -/
theorem relay {v : Visit M picks} (h : v.Comes around f P)
    (hP : ∀ w, P w → FailsWith f (w.ended around)) :
    FailsWith f (v.ended around) := by
  induction h with
  | here h => exact hP _ h
  | inside hbegins hruns _ ih => exact hruns.relay hbegins ih
  | retrying hbegins hplan hpauses _ ih =>
    refine retried hbegins hplan hpauses fun x hx => ?_
    by_contra hother
    exact hother (ih x hx hother)

/-- The failure of a step is the same whatever layers are around it. -/
theorem failsWith {s : Flow M picks} (hs : Tree (.matching around .untraced) true s.toStep)
    {c : Context} {m : Machine σ} (halone : FailsWith f (s.toStep.execute c none around m))
    {v : Visit M picks} (h : v.Comes around f (Visit.IsOf s c m)) :
    FailsWith f (v.ended around) := by
  refine h.relay fun w hw => ?_
  obtain ⟨flow, token, d, n⟩ := w
  obtain ⟨rfl, rfl, hd, hn⟩ := hw
  have hagrees := (hs.matches Likeness.untraced_fits Likeness.untraced_legible).agrees
    Likeness.untraced_fits
  exact halone.ends (hagrees hd hn)

/-- A key is pressed with nothing in focus, in a branch that is attempted twice. The second attempt
finds the question of the branch asked once before. -/
theorem failsWith_pressing :
    let around : Surroundings Unit := ⟨.broken, .ok {}, 0⟩
    let c : Context := { session := ⟨"fake", "s"⟩, items := 0, sink := .recorder }
    let M : Manners Unit := ⟨fun _ => True, fun _ => True, fun _ => True⟩
    let pressing : Flow M := .plain .pressEnter (.atomic .pressEnter)
    let asked : Callback Unit Context Bool := ⟨none, .callable "asked", fun _ _ => pure true⟩
    let branch : Flow M := .when (some asked) (some pressing) none fun _ _ => trivial
    let retried : Flow M := .retrying branch (.int 2) .none .none
    FailsWith ⟨.usage, "press: missing context element", some "press_enter", some "UsageError"⟩
      (retried.toStep.execute c none around (Machine.start ())) := by
  intro around c M pressing asked branch retried
  let f : Failure :=
    ⟨.usage, "press: missing context element", some "press_enter", some "UsageError"⟩
  have hfirst : ∀ o : Machine Unit, Likeness.untraced.Machines (Machine.start ()) o →
      Visit.Comes around f (Visit.IsOf pressing c (Machine.start ()))
        ⟨branch, none, c.holding 0, o⟩ := by
    intro o ho
    have hstop : Step.stopReason none o = none := (ho.stopReason none).symm
    exact .inside ((Step.startOn_eq_some ..).2 ⟨rfl, hstop, rfl⟩) (.whenTrue rfl)
      (.here ⟨rfl, rfl, ⟨rfl, trivial⟩, ho.told _ _ _⟩)
  have hstart : Likeness.untraced.Machines (Machine.start ()) (Machine.start ()) :=
    ⟨rfl, fun _ => rfl, fun _ => rfl, rfl, rfl, rfl⟩
  have hbegun := hstart.told .step retried.toStep.describe .recorder
  refine failsWith (s := pressing) (c := c) (m := Machine.start ()) (.atomic .pressEnter)
    ⟨_, _, rfl, rfl⟩ (.retrying rfl rfl (fun h => by cases h)
      (List.forall_mem_cons.2 ⟨fun _ => ?_, ?_⟩))
  · exact hfirst _ ⟨hbegun.world, hbegun.stores, hbegun.trace, rfl, rfl, rfl⟩
  · exact List.forall_mem_singleton.2 fun hother => (hother (.of_failure rfl)).elim

/-- The only attempt that is begun fails as the step does alone, but the delay after it is past the
range of floats, and the error of that is the failure that comes back. -/
theorem failsWith_delay :
    let around : Surroundings Unit := ⟨.broken, .ok {}, 0⟩
    let c : Context := { session := ⟨"fake", "s"⟩, items := 0, sink := .recorder }
    let f : Failure :=
      ⟨.usage, "press: missing context element", some "press_enter", some "UsageError"⟩
    let unit : Value := .int (Nat.pow 10 400)
    let retried : Step Unit := .retrying .pressEnter (.int 2) (.str "always") unit
    let begun : Machine Unit := c.sink.given .step retried.describe (Machine.start ())
    FailsWith f (Step.pressEnter.execute c none around (Machine.start ())) ∧
      (∀ x ∈ Retry.begun ⟨2, .always, unit⟩ (Retry.attempt .pressEnter (c.holding 0)) around
          2 { begun with fresh := 1 },
        FailsWith f (Step.pressEnter.execute (c.holding 0) none around x)) ∧
      FailsWith ⟨.unexpected, "int too large to convert to float", some "retry_step",
        some "OverflowError"⟩ (retried.execute c none around (Machine.start ())) := by
  intro around c f unit retried begun
  have hdelay : Retry.delay unit 1 =
      .error (.ofText (.foreign "OverflowError") "int too large to convert to float") := by
    rw [Retry.delay, floatOfInt, if_pos (by decide +kernel)]
    rfl
  refine ⟨⟨_, _, rfl, rfl⟩, ?_, FailsWith.of_failure (by decide +kernel)⟩
  rw [Retry.begun_of_lost rfl (Retry.afterMiss_lost rfl (by decide) hdelay _)]
  exact List.forall_mem_singleton.2 ⟨_, _, rfl, rfl⟩

end Visit.Comes

end BrowserFlow
