import BrowserFlow.Proofs.Regardless
import BrowserFlow.Proofs.Settling

/-!
# All or nothing

A plain step either does what it is there for or leaves no trace of itself but a failure: the
context that comes back with a failure is the one that was given, with the failure, and the item
stores hold what they held before, however much of the step had been done by then. Callbacks have to
leave the item stores alone.
-/
namespace BrowserFlow

open BrowserFlow.Context (DerivedFrom Follows)

variable {σ : Type} {around : Surroundings σ}

/-- Anything may happen that leaves the item stores as they were. -/
def Leeway.shelved (σ : Type) : Leeway σ := ⟨fun m n => n.stores = m.stores, fun _ => True⟩

theorem Leeway.shelved_tolerates (around : Surroundings σ) : (shelved σ).Tolerates around where
  refl := fun _ => rfl
  trans := fun h h' => Eq.trans h' h
  emit := fun _ _ => rfl
  fresh := fun _ => rfl
  call := fun c _ m => by
    rw [Action.call_run]
    exact ⟨rfl, fun _ _ => trivial⟩
  own := fun _ => trivial
  leaving := fun _ => trivial
  settings := fun _ => trivial
  failing := fun sink text m => Sink.given_stores .error text sink m

/-- A plain step that comes back with a failure comes back with the context that it was given and
all of the items as they were, and one that comes back without has kept the session, the items and
the sink of its context. -/
theorem Plain.execute_all_or_nothing {s : Step σ} {c : Context}
    (hs : Plain (.reporting around (.regardless (.shelved σ)))
      (Manners.reporting around (.regardless (.shelved σ))).callback s)
    (hc : c.failure = none) {token : Option Token} {m n : Machine σ} {d : Context}
    (h : s.execute c token around m = (.done d, n)) :
    (∀ f, d.failure = some f → d = { c with failure := some f } ∧ n.stores = m.stores) ∧
      (d.failure = none → d.session = c.session ∧ d.items = c.items ∧ d.sink = c.sink) := by
  have hL := Leeway.shelved_tolerates around
  have hcovers := hL.toCovers
  obtain ⟨name, args, body, rfl, hbody⟩ := hs.does (R := DerivedFrom)
    (fun hf a => hf.invoke hcovers a) (fun hf c => ⟨hf.1.invoke hcovers c, hf.2.invoke c⟩)
    (fun hf ls =>
      ⟨Callback.Keeps.invoke hcovers hf ls, fun _ _ _ _ _ => ⟨rfl, rfl, rfl, rfl⟩⟩)
    (fun hs => hs.does.mono Follows.toDerivedFrom) (fun h => h.toDerivedFrom)
  have hsettled := Step.execute_settled hL name args hc
    ((hbody c).settled hL (fun _ _ => trivial) hc) token m
  rw [h] at hsettled
  obtain ⟨hderived, -⟩ | ⟨⟨f, rfl⟩, hstores⟩ := hsettled
  · exact ⟨fun f hf => by simp [hderived.failure.trans hc] at hf,
      fun _ => ⟨hderived.session, hderived.items, hderived.sink⟩⟩
  · exact ⟨fun f' hf => ⟨by cases hf; rfl, hstores⟩, by simp⟩

/-- An element is found and then cannot be clicked: the context that comes back has no focus. -/
theorem Plain.execute_click_of_detached :
    let driver : Driver Unit := {
      answer := fun
        | .waitFor .. => pure ()
        | .count _ => pure (1 : Int)
        | _ => Proc.raise (.driver "detached")
      type := "Driver"
      locatorType := "Locator" }
    let around : Surroundings Unit := ⟨driver, .ok {}, 0⟩
    let c : Context := { session := ⟨"fake", "s"⟩, items := 0, sink := .recorder }
    let f : Failure := ⟨.interaction, "click: detached", some "click", some "InteractionError"⟩
    ∃ n, (Step.click (.str "#a")).execute c none around (Machine.start ()) =
        (.done { c with failure := some f }, n) ∧ n.stores = (Machine.start ()).stores := by
  intro driver around c f
  have hfailure : (((Step.click (.str "#a")).execute c none around (Machine.start ())).1.result?.map
      (·.failure)) = some (some f) := by decide +kernel
  have hclick : Plain (.reporting around (.regardless (.shelved Unit)))
    (Manners.reporting around (.regardless (.shelved Unit))).callback
    (.click (.str "#a")) := .atomic (.click _ _ _)
  rcases h : (Step.click (.str "#a")).execute c none around (Machine.start ()) with
    ⟨d | e | _, n⟩ <;> rw [h] at hfailure
  · obtain ⟨hd, hstores⟩ :=
      (hclick.execute_all_or_nothing rfl h).1 f (Option.some.inj hfailure)
    exact ⟨n, by rw [hd], hstores⟩
  · cases hfailure
  · cases hfailure

end BrowserFlow
