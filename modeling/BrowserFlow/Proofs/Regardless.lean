import BrowserFlow.Proofs.Attempts
import BrowserFlow.Proofs.Combining

/-!
# Regardless of failures

Some things are so whether a failure is recorded or not. To a leeway that also has room for lines of
failures, a tree of steps keeps however it ends, with its retries, provided that its leaves do.
-/
namespace BrowserFlow

variable {σ : Type} {around : Surroundings σ} {L : Leeway σ}

/-- Everything lies within the leeway, whether there is a failure or not. -/
def Account.regardless (L : Leeway σ) : Account σ where
  toLeeway := L
  sinks := fun _ _ => True
  fails := fun _ _ => L.moves

/-- The leeway has room for what the library does, the keeping of items and the recording of
failures included. -/
structure Leeway.Suffices (L : Leeway σ) (around : Surroundings σ) : Prop
    extends L.Tolerates around where
  stores : ∀ m stores, L.moves m { m with stores }

namespace Account

theorem regardless_records (hL : L.Suffices around) : (regardless L).Records around where
  toCovers := hL.toCovers
  stores := hL.stores
  same := fun _ => trivial
  onward := fun _ _ => trivial
  before := hL.trans
  after := fun h hnoted => hL.trans h (hL.toCovers.noting hnoted)
  back := fun _ h => h
  given := fun sink f m => hL.failing sink f.line m

theorem regardless_ends {sink : Sink} {failure : Option Failure} {m n : Machine σ} :
    (regardless L).Ends sink failure m n ↔ L.moves m n := by
  cases failure <;> rfl

/-- To report regardless of failures is to keep to the leeway. -/
theorem regardless_reports {sink : Sink} {p : Action σ Context} :
    p.Reports around (regardless L) sink ↔ p.Keeps around L := by
  refine forall_congr' fun m => ?_
  rcases p around m with ⟨d | e | _, n⟩
  · exact ⟨fun h => ⟨regardless_ends.1 h.2, fun e he => by cases he⟩,
      fun h => ⟨trivial, regardless_ends.2 h.1⟩⟩
  · simp [Reported, regardless]
  · simp [Reported, regardless]

end Account

namespace Step

theorem regardless_retrying (hL : L.Suffices around) {body : Step σ}
    (hbody : body.Reports around (.regardless L)) (attempts backoff baseDelayMs : Value) :
    (body.retrying attempts backoff baseDelayMs).Reports around (.regardless L) := by
  refine reports_ofBody fun c hc => Account.regardless_reports.2 ?_
  have hcovers := hL.toCovers
  refine (Action.Keeps.newReference hcovers).bind hcovers fun cell => ?_
  have hheld : (c.holding cell).failure = none := hc
  have hexecute := hbody.execute (Account.regardless_records hL) hheld none
  have hattempt : (Retry.attempt body (c.holding cell)).Keeps around L :=
    (Account.regardless_reports.1 hexecute).bind hcovers fun d => .pure hcovers _
  refine (Retry.keeps_plan hcovers attempts backoff baseDelayMs).bind hcovers fun plan => ?_
  refine Action.Keeps.bind hcovers (Retry.keeps_loop hcovers plan hattempt _ _) fun last m => ?_
  rw [Retry.conclude_run]
  refine ⟨?_, fun e he => by cases he⟩
  rw [Retry.concluded]
  split
  · split
    · exact hL.failing _ _ m
    · exact hcovers.refl m
  · exact hcovers.refl m

end Step

theorem Tree.reports_regardless (hL : L.Suffices around) {s : Step σ}
    (hs : Tree (.reporting around (.regardless L)) true s) : s.Reports around (.regardless L) :=
  hs.reports (Account.regardless_records hL) fun _ _ attempts backoff baseDelayMs hbody =>
    Step.regardless_retrying hL hbody attempts backoff baseDelayMs

/-- Trees whose leaves keep to the leeway do so when they are executed, whatever comes of them. -/
theorem Tree.keeps (hL : L.Suffices around) {s : Step σ}
    (hs : Tree (.reporting around (.regardless L)) true s) (c : Context) (token : Option Token) :
    (s.execute c token).Keeps around L := by
  by_cases hc : c.failure = none
  · have hA := Account.regardless_records hL
    exact Account.regardless_reports.1 ((hs.reports_regardless hL).execute hA hc token)
  · intro m
    rw [s.execute_of_failed token around m hc]
    exact ⟨hL.refl m, fun e he => by cases he⟩

theorem Chain.runSteps_keeps (hL : L.Suffices around) (token : Option Token)
    {steps : List (Step σ)}
    (hsteps : ∀ s ∈ steps, Tree (.reporting around (.regardless L)) true s) (c : Context) :
    (runSteps token steps c).Keeps around L := by
  induction steps generalizing c with
  | nil => exact .pure hL.toCovers c
  | cons s rest ih =>
    rw [List.forall_mem_cons] at hsteps
    by_cases hc : c.failure = none
    · rw [runSteps, if_neg (by simp [Context.hasFailure_of_none hc])]
      exact (hsteps.1.keeps hL c token).bind hL.toCovers (ih hsteps.2)
    · intro m
      obtain ⟨n, hn, hnoted⟩ := runSteps_skips around token hc (s :: rest) m
      rw [hn]
      exact ⟨hL.toCovers.noting hnoted, fun e he => by cases he⟩

end BrowserFlow
