import BrowserFlow.Proofs.Acting

/-!
# What executing a plain step comes to

Up to the point where a plain step may keep items, nothing has been done that could not be done by
one that fails: when it comes back without a failure of its own, what is known of its deeds is known
of the context, and otherwise it comes back with the context that it was given, however much of it
had been done by then. The machine moves within a leeway for the library and the recording of
failures.
-/
namespace BrowserFlow

variable {σ : Type} {around : Surroundings σ} {L : Leeway σ} {asks : Call → Prop}
  {keeps : Bool} {P : Context → Prop} {c : Context}

/-- What a body has come to, if a failure is that of the context it was run on: but for items that
it may have kept together with its success, the machine has moved within the leeway. -/
def Settled (L : Leeway σ) (keeps : Bool) (P : Context → Prop) (c : Context) (m : Machine σ) :
    Outcome Context × Machine σ → Prop
  | (.done d, n) =>
    (P d ∧ ∃ stores, L.moves m { n with stores } ∧ (keeps = false → stores = n.stores)) ∨
      (∃ f, d = { c with failure := some f }) ∧ L.moves m n
  | (.raised _, n) => L.moves m n
  | (.endless, n) => L.moves m n

theorem Settled.before (hL : L.Covers around asks) {m n : Machine σ}
    {r : Outcome Context × Machine σ} (h : L.moves m n) (hr : Settled L keeps P c n r) :
    Settled L keeps P c m r := by
  rcases r with ⟨d | e | _, o⟩
  · exact hr.imp
      (fun ⟨hP, stores, hmoves, hkeeps⟩ => ⟨hP, stores, hL.trans h hmoves, hkeeps⟩)
      fun ⟨hd, hmoves⟩ => ⟨hd, hL.trans h hmoves⟩
  · exact hL.trans h hr
  · exact hL.trans h hr

/-- Work keeps nothing and fails only by raising, whichever context it is done for. -/
theorem Work.settled (hL : L.Covers around asks) {d : Context}
    (hasks : ∀ k : Call, (d.Sound → ∀ s ∈ k.scope?, s = d.scope) → asks k)
    {p : Action σ Context} (h : Work around L d p P) (m : Machine σ) :
    Settled L keeps P c m (p around m) := by
  have hmoves := (h.keeps hL hasks m).1
  rcases hrun : p around m with ⟨d | e | _, n⟩ <;> rw [hrun] at hmoves
  · exact .inl ⟨h.gives hrun, n.stores, hmoves, fun _ => rfl⟩
  · exact hmoves
  · exact hmoves

namespace Step

/-- What a step writes on its own account once its body has ended. -/
theorem settled_moves (hL : L.Tolerates around asks) (s : Step σ) (n : Machine σ)
    (ending : Outcome Answer) : L.moves n (s.settled c n ending) := by
  rcases ending with ⟨d | v⟩ | e | _
  · exact hL.refl n
  · exact hL.failing c.sink _ n
  · simp only [settled]
    split
    · split
      · exact hL.trans (hL.toCovers.noted s e n) (hL.failing c.sink _ _)
      · exact hL.toCovers.noted s e n
    · exact hL.refl n
  · exact hL.refl n

/-- A step of the library that is executed settles if its body does: what it writes on its own
account is a failure of the context that it was given. -/
theorem execute_settled (hL : L.Tolerates around asks) (name : String)
    (args : List (String × Value)) {body : Context → Action σ Context} (hc : c.failure = none)
    (hbody : ∀ m, Settled L keeps P c m (body c around m)) (token : Option Token)
    (m : Machine σ) :
    Settled L keeps P c m ((ofBody name args body).execute c token around m) := by
  rw [execute_run _ token around m hc]
  cases stopReason token m with
  | some reason => exact .inr ⟨⟨_, rfl⟩, hL.failing c.sink _ m⟩
  | none =>
    rw [start_run _ around m hc]
    have hannounced := hL.toCovers.given (by simp : LineKind.step ≠ .error)
      (ofBody name args body).describe c.sink m
    generalize c.sink.given .step (ofBody name args body).describe m = k at hannounced
    have hsettled := (hbody k).before hL.toCovers hannounced
    dsimp only
    rw [call, Action.awaited_run, ofBody_run]
    rcases hrun : body c around k with ⟨d | e | _, n⟩ <;> rw [hrun] at hsettled
    · exact hsettled
    · have hmoves := hL.trans hsettled
        (settled_moves hL (c := c) (ofBody name args body) n (.raised e.leaving))
      dsimp only
      rcases hv : (ofBody name args body).verdict c (.raised e.leaving) with d | e' | _
      · obtain hd | ⟨-, hd⟩ := verdict_done hv
        · cases hd
        · exact .inr ⟨hd, hmoves⟩
      · exact hmoves
      · exact hmoves
    · exact hsettled

end Step

/-- Deeds settle: a step that is run first keeps nothing, and the work that goes on from what it
hands on can only raise an error, which is recorded in the context that was given. -/
theorem Deed.settled (hL : L.Tolerates around asks)
    (hasks : ∀ k : Call, (c.Sound → ∀ s ∈ k.scope?, s = c.scope) → asks k)
    {p : Action σ Context} (h : Deed around L keeps P c p) (hc : c.failure = none)
    (m : Machine σ) : Settled L keeps P c m (p around m) := by
  have hcovers := hL.toCovers
  induction h generalizing m with
  | work h => exact h.settled hcovers hasks m
  | @after _ _ _ _ _ p _ hp _ ih =>
    have hmoves := (hp.keeps hcovers hasks m).1
    rw [Action.bind_run]
    rcases hrun : p around m with ⟨a | e | _, n⟩ <;> rw [hrun] at hmoves
    · exact (ih a (hp.gives hrun) hasks hc n).before hcovers hmoves
    · exact hmoves
    · exact hmoves
  | keep f h => exact .inl ⟨h, m.stores, hL.refl m, by simp⟩
  | fail payload step =>
    rw [Context.withFailure_run _ around m hc]
    split
    · exact .inr ⟨⟨_, rfl⟩, hL.failing _ _ m⟩
    · exact hL.refl m
  | @onward _ _ c name args body _ _ hact ih =>
    have hinner := Step.execute_settled hL name args hc (ih c hasks hc) none m
    rw [Action.bind_run]
    rcases hrun : (Step.ofBody name args body).execute c none around m with ⟨d | e | _, n⟩ <;>
      rw [hrun] at hinner
    · rcases hinner with ⟨hstays, stores, hmoves, hstores⟩ | ⟨⟨f, rfl⟩, hmoves⟩
      · have hd : d.failure = none := hstays.failure.trans hc
        have hasks' : ∀ k : Call, (d.Sound → ∀ s ∈ k.scope?, s = d.scope) → asks k :=
          fun k hk => hasks k fun hsound s hs =>
            (hk (hstays.sound hsound) s hs).trans hstays.scope
        rw [hstores rfl] at hmoves
        simp only [Context.hasFailure_of_none hd]
        exact ((hact d hstays).settled hcovers hasks' n).before hcovers hmoves
      · exact .inr ⟨⟨f, rfl⟩, hmoves⟩
    · exact hinner
    · exact hinner

end BrowserFlow
