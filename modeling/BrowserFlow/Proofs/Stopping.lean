import BrowserFlow.Proofs.Combining
import BrowserFlow.Proofs.Discretion

/-!
# Stopping at a failure

A run of steps without retries records at most one failure, the one it hands back, and that is the
end of it: nothing but notes for debugging comes after, no call, no callback, no line. Callbacks and
steps of the caller's own may do whatever they like as long as they undo nothing; if they write no
failure lines of their own, the failure that the run hands back is also the first of which there was
a line.
-/
namespace BrowserFlow

variable {σ : Type} {around : Surroundings σ}

namespace Leeway

/-- Anything may happen that undoes nothing. -/
def growing (σ : Type) : Leeway σ := ⟨Grows, fun _ => True⟩

/-- Anything may happen that undoes nothing and that no sink hears of as a failure. -/
def quiet (σ : Type) : Leeway σ := ⟨Quiet, fun _ => True⟩

theorem growing_covers (around : Surroundings σ) : (growing σ).Spans around where
  refl := Grows.refl
  trans := Grows.trans
  emit := fun _ m => Grows.append m _
  stores := fun _ _ => ⟨Nat.le_refl _, List.prefix_refl _⟩
  active := fun _ _ => ⟨Nat.le_refl _, List.prefix_refl _⟩
  fresh := fun m => ⟨Nat.le_succ m.fresh, List.prefix_refl _⟩
  call := fun c _ m => by
    rw [Action.call_run]
    exact ⟨⟨Nat.le_refl _, List.prefix_append _ _⟩, fun _ _ => trivial⟩
  own := fun _ => trivial
  leaving := fun _ => trivial
  settings := fun _ => trivial

theorem quiet_covers (hdriver : around.driver.Discreet) : (quiet σ).Spans around where
  refl := Quiet.refl
  trans := Quiet.trans
  emit := fun he m => Quiet.append (by simpa using Event.silent_of_aside he) m
  stores := fun m _ => ⟨⟨Nat.le_refl _, List.prefix_refl _⟩, fun o _ => by cases o <;> rfl⟩
  active := fun m _ => ⟨⟨Nat.le_refl _, List.prefix_refl _⟩, fun o _ => by cases o <;> rfl⟩
  fresh :=
    fun m => ⟨⟨Nat.le_succ m.fresh, List.prefix_refl _⟩, fun o _ => by cases o <;> rfl⟩
  call := fun c _ m => by
    have hsent : ∀ e ∈ Event.call c :: (around.driver.answer c ⟨m.world, []⟩).2.sent.map
      (Action.eventOf m.tag),
        e.tellsFailure = false := by
      intro e he
      rcases List.mem_cons.mp he with rfl | he
      · rfl
      · obtain ⟨s, hs, rfl⟩ := List.mem_map.mp he
        exact hdriver c m.world s hs m.tag
    have hquiet := Quiet.append hsent m
    rw [Action.call_run]
    exact ⟨⟨⟨Nat.le_refl _, hquiet.log⟩,
      fun o ho => by cases o <;> exact hquiet.heard _ ho⟩, fun _ _ => trivial⟩
  own := fun _ => trivial
  leaving := fun _ => trivial
  settings := fun _ => trivial

end Leeway

namespace Account

/-- A failure is recorded by giving its line to a sink, and nothing but hush may follow. -/
def stopping (L : Leeway σ) : Account σ where
  toLeeway := L
  sinks := fun _ _ => True
  fails := fun _ f m m' => ∃ (sink : Sink) (n : Machine σ), L.moves m n ∧
    Hush (sink.given .error f.line n) m'

theorem stopping_records {L : Leeway σ} (hL : L.Spans around) : (stopping L).Records around where
  toCovers := hL.toCovers
  stores := hL.stores
  same := fun _ => trivial
  onward := fun _ _ => trivial
  before := fun h ⟨sink, n, hn, hhush⟩ => ⟨sink, n, hL.trans h hn, hhush⟩
  after := fun ⟨sink, n, hn, hhush⟩ h => ⟨sink, n, hn, hhush.trans h.hush⟩
  back := fun _ h => h
  given := fun sink _ m => ⟨sink, m, hL.refl m, .refl _⟩

theorem stopping_switches {L : Leeway σ} (hL : L.Spans around) : (stopping L).Switches where
  active := hL.active
  back := fun active ⟨sink, n, hn, hhush⟩ =>
    ⟨sink, n, hn, hhush.trans ⟨[], active, by simp, by simp⟩⟩

end Account

/-- How a run that ends with its first failure goes: without a failure everything lies within the
leeway, and a context that has failed comes back when the line of its failure has been given to a
sink and nothing but hush has followed. -/
def Leeway.StopsAtFailure (L : Leeway σ) (m : Machine σ) : Outcome Context × Machine σ → Prop
  | (.done r, m') =>
    match r.failure with
    | none => L.moves m m'
    | some f =>
      ∃ (sink : Sink) (n : Machine σ), L.moves m n ∧ Hush (sink.given .error f.line n) m'
  | (.raised _, m') => L.moves m m'
  | (.endless, m') => L.moves m m'

theorem Account.stops_of_reported {L : Leeway σ} {sink : Sink} {m : Machine σ}
    {r : Outcome Context × Machine σ}
    (h : (stopping L).Reported sink m r) : L.StopsAtFailure m r := by
  rcases r with ⟨d | e | _, n⟩
  · rw [Leeway.StopsAtFailure]
    cases hd : d.failure with
    | none => exact h.moves hd
    | some f => exact h.fails hd
  · exact h.1
  · exact h

/-- Trees of steps without retries stop at their first failure when they are run in a chain, and so
do their callbacks and the steps of the caller's own as far as they do the same. -/
theorem Chain.run_stops {L : Leeway σ} (hL : L.Spans around) {steps : List (Step σ)}
    (hsteps : ∀ s ∈ steps, Tree (.reporting around (.stopping L)) false s) {c : Context}
    (hc : c.failure = none) (token : Option Token) (m : Machine σ) :
    L.StopsAtFailure m (Chain.run ⟨steps⟩ c token around m) := by
  have hA := Account.stopping_records hL
  have hreports : ∀ s ∈ steps, s.Reports around (.stopping L) := fun s hs =>
    (hsteps s hs).reports hA (by simp)
  exact Account.stops_of_reported
    (run_reports hA ⟨steps⟩ token (fun _ => Account.stopping_switches hL) hreports hc m)

/-- Once the failure of a run has been recorded nothing else happens in that run; and if no callback
writes failure lines of its own, nor the driver, it was the first failure. -/
theorem Chain.run_stops_at_failure (steps : List (Step σ)) {c : Context} (hc : c.failure = none)
    (token : Option Token) (around : Surroundings σ) (m : Machine σ) :
    ((∀ s ∈ steps, Tree (.reporting around (.stopping (.growing σ))) false s) →
        (Leeway.growing σ).StopsAtFailure m (Chain.run ⟨steps⟩ c token around m)) ∧
      (around.driver.Discreet → (∀ s ∈ steps,
        Tree (.reporting around (.stopping (.quiet σ))) false s) →
        (Leeway.quiet σ).StopsAtFailure m (Chain.run ⟨steps⟩ c token around m)) :=
  ⟨fun h => run_stops (Leeway.growing_covers around) h hc token m,
    fun hdriver h => run_stops (Leeway.quiet_covers hdriver) h hc token m⟩

/-- Without a working driver a probe only misses; the failure that is then created is the end of the
run, and no key is pressed. -/
theorem Chain.run_stops_before_key :
    let around : Surroundings Unit := ⟨.broken, .error (.typeError "no settings"), 0⟩
    let steps : List (Step Unit) :=
      [.ifExists (.str "#a") none (some (.createFailure (.fixed (.str "nothing there")))),
        .pressEnter]
    let c : Context := { session := ⟨"fake", "s"⟩, items := 0, sink := .recorder }
    (∃ r m', Chain.run ⟨steps⟩ c none around (Machine.start ()) = (.done r, m') ∧
      r.failure = some ⟨.assertion, "nothing there", some "create_failure", none⟩ ∧
      Event.calls m'.log = [.waitFor (.root none "#a" none) (.int 0) (.bool true)]) ∧
    (Leeway.quiet Unit).StopsAtFailure (Machine.start ())
      (Chain.run ⟨steps⟩ c none around (Machine.start ())) := by
  intro around steps c
  refine ⟨⟨_, _, rfl, rfl, rfl⟩, ?_⟩
  refine (Chain.run_stops_at_failure steps rfl none around _).2 Driver.broken_discreet
    fun s hs => ?_
  have hmade : Tree (.reporting around (.stopping (.quiet Unit))) false
      (.createFailure (.fixed (.str "nothing there"))) := .createFailure (by simp)
  simp only [steps, List.mem_cons, List.not_mem_nil, or_false] at hs
  rcases hs with rfl | rfl
  · exact .ifExists (by simp) (by simpa using hmade)
  · exact .atomic .pressEnter

end BrowserFlow
