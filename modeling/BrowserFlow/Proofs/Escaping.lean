import BrowserFlow.Proofs.Regardless

/-!
# What escapes from a chain

Recording an error builds a failure from it, and that fails for an error that cannot be read: an
error of a step whose message is no text, or any other error that has no text. Such an error in the
body of a step of a chain escapes, in the form of the error of reading it. Nothing else does: the
library itself only raises errors that can be recorded, so a chain of its steps hands a context back
unless its callbacks, its driver or its settings raise others.
-/
namespace BrowserFlow

variable {σ : Type} {around : Surroundings σ}

/-- The driver only raises errors that can be recorded. -/
def Driver.Legible (d : Driver σ) : Prop :=
  ∀ c rig e, (d.answer c rig).1 = .raised e → e.Recordable

/-- Anything may happen, but only errors that can be recorded may be raised. -/
def Account.legible (σ : Type) : Account σ where
  moves := fun _ _ => True
  errors := Raised.Recordable
  sinks := fun _ _ => True
  fails := fun _ _ _ _ => True

theorem Account.legible_suffices (hdriver : around.driver.Legible)
    (hsettings : ∀ e, around.settings = .error e → e.Recordable) :
    (legible σ).toLeeway.Suffices around where
  refl := fun _ => trivial
  trans := fun _ _ => trivial
  emit := fun _ _ => trivial
  stores := fun _ _ => trivial
  failing := fun _ _ _ => trivial
  fresh := fun _ => trivial
  call := fun c _ m => by
    refine ⟨trivial, fun e he => ?_⟩
    obtain ⟨e', he', rfl⟩ := Action.awaited_raised he
    exact (hdriver c _ e' he').leaving
  own := id
  leaving := Raised.Recordable.leaving
  settings := fun he => hsettings _ he

/-- A tree of steps only raises errors that can be recorded if its leaves, the driver and the
settings do. -/
theorem Tree.legible (hdriver : around.driver.Legible)
    (hsettings : ∀ e, around.settings = .error e → e.Recordable)
    {s : Step σ} (hs : Tree (.reporting around (.legible σ)) true s) {c : Context}
    (hc : c.failure = none)
    {m : Machine σ} {e : Raised} (he : (s.call c around m).1 = .raised e) : e.Recordable := by
  have hreports : s.Reports around (.legible σ) :=
    Tree.reports_regardless (Account.legible_suffices hdriver hsettings) hs
  obtain ⟨e', he', rfl⟩ := Action.awaited_raised he
  have hanswered := hreports c hc m
  rcases hb : s.body c around m with ⟨⟨d | v⟩ | e | _, n⟩ <;> rw [hb] at hanswered he'
  · cases he'
  · cases he'
  · cases he'
    exact hanswered.2.leaving
  · cases he'

end BrowserFlow
