import BrowserFlow.Proofs.Attempts
import BrowserFlow.Proofs.Stopping

/-!
# Tracing failures

Each failure is told once. A step that is executed gives its sink one failure line if it comes back
with a failure, the line of that failure, and none otherwise; and no other sink hears of it.
Retrying keeps to this since the last line that it holds back is always that of the failure of the
last attempt that came back with one.
-/
namespace BrowserFlow

variable {σ : Type} {around : Surroundings σ}

/-- Sinks hear of a failure once, at the outlet of the sink that the context came with, and of
nothing else. -/
def Account.tracing (σ : Type) : Account σ where
  toLeeway := .quiet σ
  sinks := fun s t => t = s
  fails := fun sink f => Told sink.outlet f.line

theorem Account.tracing_records (hdriver : around.driver.Discreet) :
    (tracing σ).Records around where
  toCovers := (Leeway.quiet_covers hdriver).toCovers
  stores := (Leeway.quiet_covers hdriver).stores
  same := fun _ => rfl
  onward := fun h h' => Eq.trans h' h
  before := fun h hfails => h.told hfails
  after := fun h hnoted => Told.quiet h hnoted.hush.quiet
  back := fun h hfails => h ▸ hfails
  given := fun sink f m => Told.given sink f.line m

namespace Retry

variable {m n o : Machine σ} {sink : Sink} {last : Context}

/-- What is so between the attempts of a retry that was begun on a machine: nothing has been heard
of failures, but the last line held back is that of the failure of the last context that an attempt
came back with. -/
structure Holds (m : Machine σ) (sink : Sink) (last : Context) (n : Machine σ) : Prop where
  quiet : Quiet m n
  known : m.fresh < n.fresh
  sink : last.sink = .holder m.fresh sink
  told : ∀ f, last.failure = some f → (n.held m.fresh).getLast? = some f.line

theorem Holds.onward (h : Holds m sink last n) (hquiet : Quiet n o) : Holds m sink last o := by
  have hheld : o.held m.fresh = n.held m.fresh := hquiet.heard (.cell m.fresh) h.known
  refine ⟨h.quiet.trans hquiet, Nat.lt_of_lt_of_le h.known hquiet.fresh, h.sink, ?_⟩
  rw [hheld]
  exact h.told

/-- The cell of a retry is not among what was there before it was begun. -/
theorem Holds.failed (h : Holds m sink last n) {d : Context} {f : Failure}
    (hsink : d.sink = .holder m.fresh sink) (hd : d.failure = some f)
    (htold : Told (.cell m.fresh) f.line n o) : Holds m sink d o := by
  have hheld := htold.heard (.cell m.fresh) h.known
  have hquiet : ∀ out, m.Knows out → o.heard out = m.heard out := by
    intro out hout
    have hne : out ≠ .cell m.fresh := by
      rintro rfl
      exact Nat.lt_irrefl _ hout
    rw [htold.heard out (h.quiet.knows hout), if_neg hne, List.append_nil, h.quiet.heard out hout]
  refine ⟨⟨h.quiet.toGrows.trans htold.toGrows, hquiet⟩,
    Nat.lt_of_lt_of_le h.known htold.fresh, hsink, ?_⟩
  intro f' hf'
  obtain rfl : f = f' := Option.some.inj (hd.symm.trans hf')
  rw [show o.held m.fresh = n.held m.fresh ++ [f.line] by simpa [Machine.heard] using hheld]
  simp

/-- What attempts have come to. -/
def Holding (m : Machine σ) (sink : Sink) : Outcome (Context × Bool) × Machine σ → Prop
  | (.done (d, _), o) => Holds m sink d o
  | (.raised _, o) => Quiet m o
  | (.endless, o) => Quiet m o

/-- The failure of the context that attempts have come to is told when the retry is concluded. -/
theorem Holds.concluded {c : Context} (h : Holds m c.sink last n) :
    (Account.tracing σ).Reported c.sink m
      (.done { last with sink := c.sink }, Retry.concluded m.fresh c.sink last n) := by
  refine ⟨rfl, ?_⟩
  rw [Retry.concluded]
  cases hlast : last.failure with
  | none =>
    simp only [Context.hasFailure, hlast]
    exact h.quiet
  | some f =>
    simp only [Context.hasFailure, hlast, Option.isSome_some, if_true, h.told f hlast]
    exact h.quiet.told (Told.given c.sink f.line n)

/-- Quiet work between two attempts. -/
theorem Holding.after (h : Holds m sink last n) {p : Action σ Unit}
    (hp : p.Keeps around (.quiet σ)) {rest : Action σ (Context × Bool)}
    (hrest : ∀ o, Holds m sink last o → Holding m sink (rest around o)) :
    Holding m sink ((p >>= fun _ => rest) around n) := by
  have hquiet := (hp n).1
  rw [Action.bind_run]
  rcases hr : p around n with ⟨_ | e | _, o⟩ <;> rw [hr] at hquiet
  · exact hrest o (h.onward hquiet)
  · exact h.quiet.trans hquiet
  · exact h.quiet.trans hquiet

theorem loop_holds (hL : (Leeway.quiet σ).Covers around) {body : Step σ} {held : Context}
    (hbody : (body.execute held).Reports around (.tracing σ) (.holder m.fresh sink)) (p : Plan)
    {k : Nat} (h : Holds m sink last n) :
    Holding m sink (loop p (Retry.attempt body held) k last around n) := by
  -- `Holds` is what one attempt leaves for the next, whichever context the last one came back with.
  induction k generalizing last n with
  | zero => exact h
  | succ k ih =>
    have hattempt := hbody n
    rw [loop_succ, attempt_run]
    rcases he : body.execute held none around n with ⟨d | e | _, o⟩ <;> rw [he] at hattempt
    · cases hd : d.failure with
      | none =>
        have hnext := h.onward (hattempt.moves hd)
        simp only [Context.hasFailure_of_none hd]
        exact ⟨hnext.quiet, hnext.known, hattempt.1, by simp [hd]⟩
      | some f =>
        have hnext := h.failed hattempt.1 hd (hattempt.fails hd)
        simp only [Context.hasFailure_of_ne (by simp [hd] : d.failure ≠ none)]
        exact .after hnext (keeps_afterMiss hL p k) fun _ ho => ih ho
    · dsimp only
      split
      · exact .after (h.onward hattempt.1) (keeps_afterError hL p k e) fun _ ho => ih ho
      · exact h.quiet.trans hattempt.1
    · exact h.quiet.trans hattempt

end Retry

namespace Step

/-- Retrying a step that tells of its failures once tells of its own failure once: the line that is
given to the sink in the end is the last one held back, and that is the line of the failure that
comes back. -/
theorem reports_retrying (hdriver : around.driver.Discreet) {body : Step σ}
    (hbody : body.Reports around (.tracing σ)) (attempts backoff baseDelayMs : Value) :
    (body.retrying attempts backoff baseDelayMs).Reports around (.tracing σ) := by
  have hL := (Leeway.quiet_covers hdriver).toCovers
  refine reports_ofBody fun c hc m => ?_
  have hheld : (c.holding m.fresh).failure = none := hc
  have hfresh : Quiet m { m with fresh := m.fresh + 1 } := hL.fresh m
  have hplan := (Retry.keeps_plan hL attempts backoff baseDelayMs { m with fresh := m.fresh + 1 }).1
  change (Account.tracing σ).Reported c.sink m
    (Retry.inCell body attempts backoff baseDelayMs c m.fresh around
      { m with fresh := m.fresh + 1 })
  rw [Retry.inCell, Action.bind_run]
  rcases hp : Retry.plan attempts backoff baseDelayMs around { m with fresh := m.fresh + 1 } with
    ⟨p | e | _, n⟩ <;> rw [hp] at hplan
  · have hstart : Retry.Holds m c.sink (c.holding m.fresh) n :=
      ⟨hfresh.trans hplan, hplan.fresh, rfl, by simp [hheld]⟩
    have hattempt := hbody.execute (Account.tracing_records hdriver) hheld none
    have hrun := Retry.loop_holds hL hattempt p (k := p.attempts) hstart
    dsimp only
    rw [Action.bind_run, Retry.run]
    rcases hr : Retry.loop p (Retry.attempt body (c.holding m.fresh)) p.attempts
      (c.holding m.fresh) around n with ⟨⟨d, _⟩ | e | _, o⟩ <;> rw [hr] at hrun
    · dsimp only
      rw [Retry.conclude_run]
      exact Retry.Holds.concluded hrun
    · exact ⟨hrun, trivial⟩
    · exact hrun
  · exact ⟨hfresh.trans hplan, trivial⟩
  · exact hfresh.trans hplan

end Step

/-- What sinks hear of in a run that a context with this sink was given to: the sink of one failure
if the context that comes back has one, by the line of that failure, and of none otherwise; any
other sink of none. -/
structure Sink.HearsOnce (sink : Sink) (m : Machine σ) (ended : Outcome Context × Machine σ) :
    Prop where
  kept : ∀ r, ended.1 = .done r → r.sink = sink
  told : ∀ r, ended.1 = .done r →
    ended.2.heard sink.outlet = m.heard sink.outlet ++ (r.failure.map Failure.line).toList
  silent : (∀ r, ended.1 ≠ .done r) → ended.2.heard sink.outlet = m.heard sink.outlet
  others : ∀ o, m.Knows o → o ≠ sink.outlet → ended.2.heard o = m.heard o

theorem Account.hearsOnce_of_reported {sink : Sink} {m : Machine σ}
    {ended : Outcome Context × Machine σ}
    (hsink : m.Knows sink.outlet) (h : (tracing σ).Reported sink m ended) :
    sink.HearsOnce m ended := by
  rcases ended with ⟨r | e | _, m'⟩
  · cases hf : r.failure with
    | none =>
      have hquiet : Quiet m m' := h.moves hf
      refine ⟨fun d hd => ?_, fun d hd => ?_, fun hnone => absurd rfl (hnone r), fun o ho _ =>
        hquiet.heard o ho⟩
      · cases hd; exact h.1
      · cases hd; simpa [hf] using hquiet.heard _ hsink
    | some f =>
      have htold : Told sink.outlet f.line m m' := h.fails hf
      refine ⟨fun d hd => ?_, fun d hd => ?_, fun hnone => absurd rfl (hnone r),
        fun o ho hne => ?_⟩
      · cases hd; exact h.1
      · cases hd; simpa [hf] using htold.heard _ hsink
      · simpa [hne] using htold.heard o ho
  · exact ⟨by simp, by simp, fun _ => h.1.heard _ hsink, fun o ho _ => h.1.heard o ho⟩
  · exact ⟨by simp, by simp, fun _ => h.heard _ hsink, fun o ho _ => h.heard o ho⟩

/-- Each failure of a tree of steps is told exactly once, whatever was retried inside it. -/
theorem Tree.execute_tells_once (hdriver : around.driver.Discreet) {s : Step σ}
    (hs : Tree (.reporting around (.tracing σ)) true s) {c : Context} (hc : c.failure = none)
    {m : Machine σ} (hsink : m.Knows c.sink.outlet) (token : Option Token) :
    c.sink.HearsOnce m (s.execute c token around m) := by
  have hA := Account.tracing_records hdriver
  have hreports : s.Reports around (.tracing σ) :=
    hs.reports hA fun _ _ attempts backoff baseDelayMs hbody =>
      Step.reports_retrying hdriver hbody attempts backoff baseDelayMs
  exact Account.hearsOnce_of_reported hsink (hreports.execute hA hc token m)

/-- Two retries of a click that fails four times in all tell of one failure, the last. -/
theorem Tree.execute_tells_last_click :
    let around : Surroundings Unit := ⟨.broken, .ok {}, 0⟩
    let s : Step Unit := ((Step.click (.str "#a")).retrying (.int 2)).retrying (.int 2)
    let c : Context := { session := ⟨"fake", "s"⟩, items := 0, sink := .recorder }
    ∃ r m', s.execute c none around (Machine.start ()) = (.done r, m') ∧
      r.failure = some ⟨.interaction, "down", some "find", some "DriverError"⟩ ∧
      (Event.calls m'.log).length = 4 ∧ m'.heard .lines =
        ["Failure created: [interaction] find: down"] := by
  intro around s c
  have hs : Tree (.reporting around (.tracing Unit)) true s :=
    .retrying rfl (.retrying rfl (.atomic (.click _ _ _)))
  have htold := hs.execute_tells_once Driver.broken_discreet (c := c) rfl
    (m := Machine.start ()) trivial none
  have hfailure : ((s.execute c none around (Machine.start ())).1.result?.map (·.failure)) =
      some (some ⟨.interaction, "down", some "find", some "DriverError"⟩) := by decide +kernel
  have hcalls : (Event.calls (s.execute c none around (Machine.start ())).2.log).length = 4 := by
    decide +kernel
  rcases he : s.execute c none around (Machine.start ()) with ⟨r | e | _, m'⟩ <;>
    rw [he] at hfailure hcalls
  · have hr : r.failure = some ⟨.interaction, "down", some "find", some "DriverError"⟩ :=
      Option.some.inj hfailure
    refine ⟨r, m', rfl, hr, hcalls, ?_⟩
    have hheard := htold.told r (by rw [he])
    rw [he, hr] at hheard
    exact hheard
  · cases hfailure
  · cases hfailure

end BrowserFlow
