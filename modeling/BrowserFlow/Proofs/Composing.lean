import BrowserFlow.Proofs.Regardless

/-!
# Composing chains

A chain with steps appended to it comes to the same as the chain itself and then a chain of those
steps, with the same token. Only after a failure do the two leave different notes for debugging, of
which the second way leaves one for each chain that skips steps. A token is made the active one once
on the first way and twice on the second, so the steps in front have to leave the active token as
they found it; whatever is built from the library does.
-/
namespace BrowserFlow

variable {σ : Type} {around : Surroundings σ}

/-- Anything may happen that leaves the active token as it was. -/
def Leeway.restoring (σ : Type) : Leeway σ := ⟨fun m n => n.active = m.active, fun _ => True⟩

theorem Leeway.restoring_suffices (around : Surroundings σ) : (restoring σ).Suffices around where
  refl := fun _ => rfl
  trans := fun h h' => Eq.trans h' h
  emit := fun _ _ => rfl
  stores := fun _ _ => rfl
  failing := fun sink text m => sink.given_active .error text m
  fresh := fun _ => rfl
  call := fun c _ m => by
    rw [Action.call_run]
    exact ⟨rfl, fun _ _ => trivial⟩
  own := fun _ => trivial
  leaving := fun _ => trivial
  settings := fun _ => trivial

/-- Two runs came to the same, up to notes for debugging after a failure. -/
structure Alike (r r' : Outcome Context × Machine σ) : Prop where
  ending : r.1 = r'.1
  machine : r.2 = r'.2 ∨
    (∃ d, r.1 = .done d ∧ d.failure ≠ none) ∧ ∃ o, Noted o r.2 ∧ Noted o r'.2

theorem Alike.refl (r : Outcome Context × Machine σ) : Alike r r := ⟨rfl, .inl rfl⟩

theorem Noted.switched {m n : Machine σ} (h : Noted m n) (active : Option Token) :
    Noted { m with active } { n with active } := by
  obtain ⟨notes, hnotes, rfl⟩ := h
  exact ⟨notes, hnotes, rfl⟩

namespace Chain

variable {token : Option Token}

theorem runSteps_append (xs ys : List (Step σ)) (c : Context) (m : Machine σ) :
    Alike (runSteps token (xs ++ ys) c around m)
      ((runSteps token xs c >>= runSteps token ys) around m) := by
  induction xs generalizing c m with
  | nil => exact .refl _
  | cons s rest ih =>
    by_cases hc : c.failure = none
    · rw [List.cons_append]
      rcases h : s.execute c token around m with ⟨d | e | _, n⟩
      · rw [runSteps_cons h hc, Action.bind_run, runSteps_cons h hc, ← Action.bind_run]
        exact ih d n
      · rw [runSteps_cons_raised h hc, Action.bind_raised (runSteps_cons_raised h hc)]
        exact .refl _
      · rw [runSteps_cons_endless h hc, Action.bind_endless (runSteps_cons_endless h hc)]
        exact .refl _
    · -- The steps that are skipped are noted once here and twice there.
      obtain ⟨n, hn, hnoted⟩ := runSteps_skips around token hc (s :: rest ++ ys) m
      obtain ⟨k, hk, hfirst⟩ := runSteps_skips around token hc (s :: rest) m
      obtain ⟨o, ho, hsecond⟩ := runSteps_skips around token hc ys k
      rw [hn, Action.bind_done hk, ho]
      exact ⟨rfl, .inr ⟨⟨c, rfl, hc⟩, m, hnoted, hfirst.trans hsecond⟩⟩

/-- A chain leaves a context that has failed as it is, and all but a note of it. -/
theorem run_of_failed (chain : Chain σ) {c : Context} (hc : c.failure ≠ none) (m : Machine σ) :
    ∃ n, chain.run c token around m = (.done c, n) ∧ Noted m n := by
  obtain ⟨n, hn, hnoted⟩ := runSteps_skips around token hc chain.steps (entered token m)
  rw [run_run, hn]
  cases token with
  | none => exact ⟨n, rfl, hnoted⟩
  | some given => exact ⟨_, rfl, hnoted.switched m.active⟩

/-- A chain can put the former token back on both ways. -/
theorem alike_leaving {r r' : Outcome Context × Machine σ} (h : Alike r r') (m : Machine σ) :
    Alike (r.1, leaving token m r.2) (r'.1, leaving token m r'.2) := by
  refine ⟨h.ending,
    h.machine.imp (congrArg (leaving token m)) fun ⟨hfailed, o, ho, ho'⟩ => ?_⟩
  refine ⟨hfailed, leaving token m o, ?_⟩
  cases token with
  | none => exact ⟨ho, ho'⟩
  | some given => exact ⟨ho.switched m.active, ho'.switched m.active⟩

/-- The second of two chains takes the machine up as the steps of the first one left it, if they
left the token the active one. -/
theorem run_bind_run {chain : Chain σ} {c : Context} {m : Machine σ}
    (h : token ≠ none →
      (runSteps token chain.steps c around (entered token m)).2.active = token) (next : Chain σ) :
    (chain.run c token >>= fun d => next.run d token) around m =
      let ended := (runSteps token chain.steps c >>= runSteps token next.steps) around
        (entered token m)
      (ended.1, leaving token m ended.2) := by
  rw [Action.bind_run, Action.bind_run, run_run]
  rcases hrun : runSteps token chain.steps c around (entered token m) with ⟨d | e | _, n⟩
  · rw [hrun] at h
    dsimp only
    rw [run_run]
    cases token with
    | none => rfl
    | some t =>
      have hentered : entered (some t) (leaving (some t) m n) = n := by
        rw [entered, leaving, ← h (by simp)]
      rw [hentered]
      rfl
  · rfl
  · rfl

/-- Appending steps to a chain comes to the same as running them in a chain of their own afterwards,
whatever fails, raises or never ends, and whatever is cancelled; and a chain does nothing with a
context that has failed. -/
theorem run_append (chain : Chain σ) (steps : List (Step σ)) (token : Option Token)
    (around : Surroundings σ)
    (hchain : token ≠ none → ∀ s ∈ chain.steps,
      Tree (.reporting around (.regardless (.restoring σ))) true s)
    (c : Context) (m : Machine σ) :
    Alike ((chain.append steps).run c token around m)
        ((chain.run c token >>= fun d => Chain.run ⟨steps⟩ d token) around m) ∧
      ∀ (next : Chain σ) (d : Context), d.failure ≠ none →
        ∃ n, next.run d token around m = (.done d, n) ∧ Noted m n := by
  refine ⟨?_, fun next d hd => run_of_failed next hd m⟩
  have hactive : token ≠ none →
      (runSteps token chain.steps c around (entered token m)).2.active = token := by
    intro htoken
    have hkept := (runSteps_keeps (Leeway.restoring_suffices around) token (hchain htoken) c
      (entered token m)).1
    cases token with
    | none => exact absurd rfl htoken
    | some t => exact hkept
  rw [run_bind_run hactive, run_run]
  exact alike_leaving (runSteps_append chain.steps steps c (entered token m)) m

/-- The first step of two cancels the token that the chain was given. -/
theorem run_append_cancelled :
    let around : Surroundings Unit := ⟨.broken, .ok {}, 0⟩
    let t : Token := ⟨"t"⟩
    let stop : Step Unit := .ofCallback ⟨none, .callable "stop", fun _ c => do
      Action.cancel t (.str "enough")
      return .context c⟩
    let c : Context := { session := ⟨"fake", "s"⟩, items := 0, sink := .recorder }
    let whole := (Chain.append ⟨[stop]⟩ [.pressEnter]).run c (some t) around (Machine.start ())
    whole.1.result?.map (·.failure) = some (some ⟨.cancelled,
        "Chain cancelled before 'press_enter': enough", some "press_enter",
        some "ChainCancelledError"⟩) ∧
      Alike whole ((Chain.run ⟨[stop]⟩ c (some t) >>= fun d =>
        Chain.run ⟨[.pressEnter]⟩ d (some t)) around (Machine.start ())) := by
  intro around t stop c whole
  refine ⟨rfl, (run_append ⟨[stop]⟩ [.pressEnter] (some t) around (fun _ s hs => ?_) c _).1⟩
  rw [List.mem_singleton.1 hs]
  exact .own fun c hc m => ⟨trivial, by rw [hc]; rfl⟩

end Chain

end BrowserFlow
