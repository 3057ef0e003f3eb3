import BrowserFlow.Proofs.Telling

/-!
# How failures are classified

When a chain of atomic steps is run on typed arguments, with settings that are valid and a driver
that raises no errors but its own, the kind of the failure that comes back is settled: it is the
kind of the fault of the driver, if there was one. A failure is unexpected only for a fault that has
no text, where a check for a part of a text was given no text, or where something was to be kept as
an item that has none. An error leaves the run only for a fault that has no text.
-/
namespace BrowserFlow

variable {σ : Type} {around : Surroundings σ} {settings : Settings}

theorem Failure.Discloses.mono {stray stray' : Prop} {f : Failure} {fs : List Fault}
    (h : f.Discloses stray fs) (hstray : stray → stray') : f.Discloses stray' fs := by
  cases h with
  | own h => exact .own (hstray ∘ h)
  | fault h => exact .fault h

theorem Context.Discloses.mono {stray stray' : Prop} {P P' : Context → Prop} {d : Context}
    {fs : List Fault} (h : d.Discloses stray P fs) (hstray : stray → stray')
    (hP : ∀ d, P d → P' d) : d.Discloses stray' P' fs := by
  rw [Discloses] at h ⊢
  cases hd : d.failure with
  | none => rw [hd] at h; exact ⟨hP d h.1, h.2⟩
  | some f => rw [hd] at h; exact Failure.Discloses.mono h hstray

section Disclosed

variable {stray : Prop} {P : Context → Prop} {d : Context} {fs : List Fault}

/-- Every fault that is told of has become the failure. -/
theorem Context.Discloses.kinds (h : d.Discloses stray P fs) :
    ∀ x ∈ fs, ∃ f, d.failure = some f ∧ f.kind = x.kind := by
  intro x hx
  rw [Discloses] at h
  cases hd : d.failure with
  | none => rw [hd] at h; simp [h.2] at hx
  | some f =>
    rw [hd] at h
    cases h with
    | own => cases hx
    | fault hkind =>
      cases List.mem_singleton.1 hx
      exact ⟨f, rfl, hkind⟩

/-- A failure that is unexpected is told of by a fault, or something has strayed. -/
theorem Context.Discloses.unexpected (h : d.Discloses stray P fs)
    (hunexpected : ∃ f, d.failure = some f ∧ f.kind = .unexpected) :
    (∃ x ∈ fs, x.kind = .unexpected) ∨ stray := by
  obtain ⟨f, hf, hkind⟩ := hunexpected
  rw [Discloses, hf] at h
  cases h with
  | own h => exact .inr (h hkind)
  | @fault x h => exact .inl ⟨x, List.mem_singleton_self x, h.symm.trans hkind⟩

end Disclosed

/-- A driver for a page with nothing but a heading, of which only the text can be read. -/
def Driver.heading : Driver Unit where
  answer := fun
    | .waitFor .. => pure ()
    | .count _ => pure (1 : Int)
    | .text _ => pure (some "Welcome")
    | _ => Proc.raise (.driver "down")

theorem Driver.heading_raisesOwn : Driver.heading.RaisesOwn := by
  intro k world e h
  cases k <;> cases h <;> rfl

/-- Notes for debugging are no exchange. -/
theorem Noted.exchanged {m n : Machine σ} (h : Noted m n) : Exchanged around m [] n := by
  obtain ⟨notes, hnotes, rfl⟩ := h
  refine .aside rfl (List.filterMap_eq_nil_iff.2 fun e he => ?_) rfl
  have hne := Event.ne_call_of_aside (Event.aside_of_note (hnotes e he))
  cases e with
  | call k => exact absurd rfl (hne k)
  | _ => rfl

namespace Chain

variable {token : Option Token} {steps : List (Step σ)} {c : Context} {m n : Machine σ}

/-- Some step that the run starts strays. -/
def Strays (around : Surroundings σ) (token : Option Token) (steps : List (Step σ)) (c : Context)
    (m : Machine σ) : Prop :=
  ∃ start ∈ startsOf around token steps c m, start.Strays around

section Running

variable (hdriver : around.driver.RaisesOwn) (hsettings : around.settings = .ok settings)

include hdriver hsettings

/-- The first step of a list deals with faults when it is executed. -/
theorem first_dealt {s : Step σ} (rest : List (Step σ)) (token : Option Token) (hs : s.Typed)
    (hc : c.failure = none) (hlocated : c.Located) (hm : (m.stores c.items).Textual) :
    Dealt around c.items (Context.Discloses (Strays around token (s :: rest) c m) c.Onward)
      Raised.Mutes m (s.execute c token around m) := by
  refine Step.execute_dealt hc hm fun n hstart hn => ?_
  have hmem : ⟨s, c, n⟩ ∈ startsOf around token (s :: rest) c m := by
    rw [startsOf, hstart]
    exact List.mem_cons_self
  have hstray : Start.Strays around ⟨s, c, n⟩ → Strays around token (s :: rest) c m :=
    fun h => ⟨_, hmem, h⟩
  refine (hs.dealt hdriver hsettings hc hlocated hn).mono ?_ fun e fs h => h.mono hstray
  rintro a fs ⟨d, rfl, hd⟩
  exact ⟨d, rfl, hd.mono hstray fun _ => id⟩

/-- A list of steps deals with faults: after a fault, and after any other failure, nothing is
asked of the driver any more. -/
theorem runSteps_dealt (token : Option Token) (hsteps : ∀ s ∈ steps, s.Typed)
    (hc : c.failure = none) (hlocated : c.Located) (hm : (m.stores c.items).Textual) :
    Dealt around c.items (Context.Discloses (Strays around token steps c m) c.Onward)
      Raised.Mutes m (runSteps token steps c around m) := by
  induction steps generalizing c m with
  | nil =>
    exact ⟨hm, [], .refl around m, Context.discloses_unfailed hc (.refl hlocated)⟩
  | cons s rest ih =>
    obtain ⟨hs, hrest⟩ := List.forall_mem_cons.1 hsteps
    obtain ⟨htextual, xs, hxs, htold⟩ :=
      first_dealt hdriver hsettings rest token hs hc hlocated hm
    rcases hx : s.execute c token around m with ⟨d | e | _, n⟩ <;> rw [hx] at htextual hxs htold
    · rw [runSteps_cons hx hc]
      dsimp only at htextual htold
      cases hd : d.failure with
      | none =>
        -- The step has not failed, so there was no fault and the rest is run.
        rw [Context.Discloses, hd] at htold
        obtain ⟨honward, hfaults⟩ := htold
        have hstrays : Strays around token rest d n → Strays around token (s :: rest) c m := by
          rintro ⟨start, hmem, hstart⟩
          refine ⟨start, ?_, hstart⟩
          obtain ⟨k, hk, -⟩ := Step.execute_unfailed_iff.1 ⟨⟨n, hx⟩, hd⟩
          rw [startsOf, hk, hx]
          exact List.mem_cons_of_mem _ hmem
        have hrun := ih hrest hd honward.located (honward.items ▸ htextual)
        rw [honward.items] at hrun
        refine .after hxs hfaults (hrun.mono (fun e fs he => ?_) fun _ _ => id)
        exact he.mono hstrays fun e he => ⟨he.located, he.items.trans honward.items⟩
      | some f =>
        have hfailed : d.failure ≠ none := by simp [hd]
        obtain ⟨o, ho, hnoted⟩ := runSteps_skips around token hfailed rest n
        rw [ho]
        refine ⟨?_, xs, hxs.onward hnoted.exchanged, htold⟩
        obtain ⟨notes, -, rfl⟩ := hnoted
        exact htextual
    · rw [runSteps_cons_raised hx hc]
      exact ⟨htextual, xs, hxs, htold⟩
    · rw [runSteps_cons_endless hx hc]
      exact ⟨htextual, xs, hxs, trivial⟩

/-- A run of a chain deals with faults. -/
theorem run_dealt {chain : Chain σ} (hsteps : ∀ s ∈ chain.steps, s.Typed)
    (hc : c.failure = none) (hlocated : c.Located) (hm : (m.stores c.items).Textual)
    (token : Option Token) :
    Dealt around c.items
      (Context.Discloses (∃ start ∈ chain.starts c token around m, start.Strays around)
        c.Onward)
      Raised.Mutes m (chain.run c token around m) := by
  have hentered : Exchanged around m [] (entered token m) := by
    cases token <;> exact .still rfl rfl
  have hkept : ((entered token m).stores c.items).Textual := by cases token <;> exact hm
  obtain ⟨htextual, xs, hxs, htold⟩ :=
    runSteps_dealt hdriver hsettings token hsteps hc hlocated hkept
  rw [run_run]
  refine .after hentered rfl ⟨?_, xs, hxs.onward ?_, htold⟩
  · cases token <;> exact htextual
  · cases token <;> exact .still rfl rfl

end Running

/-- A run that strays ends with a failure that is unexpected. -/
theorem strays_unexpected {chain : Chain σ}
    (h : ∃ start ∈ chain.starts c token around m, start.Strays around) :
    ∃ d f, (chain.run c token around m).1 = .done d ∧ d.failure = some f ∧
      f.kind = .unexpected := by
  obtain ⟨start, hmem, hstart⟩ := h
  obtain ⟨message, hending⟩ := hstart.ending
  obtain ⟨f, hf, hkind⟩ := Failure.ofRaised_typeError message start.step.name
  have hverdict : start.step.verdict start.context (start.ending around) =
      .done { start.context with failure := some f } := by
    rw [hending, Step.verdict, if_pos (by rfl), hf]
  refine ⟨_, f, (run_of_unanswered hmem ?_).trans hverdict, rfl, hkind⟩
  rw [hending]
  simp

/-- Whatever the driver raises while a chain is run becomes the failure of the context that comes
back, with the kind of the fault; the failure is unexpected for a fault without a text, for a step
that strays, and for nothing else; and an error leaves the run only for a fault without a text. -/
theorem run_classifies {chain : Chain σ} (hdriver : around.driver.RaisesOwn)
    (hsettings : around.settings = .ok settings) (hsteps : ∀ s ∈ chain.steps, s.Typed)
    (hc : c.failure = none) (hlocated : c.Located) (hm : (m.stores c.items).Textual)
    (token : Option Token) :
    ∃ xs, Exchanged around m xs (chain.run c token around m).2 ∧
      match (chain.run c token around m).1 with
      | .done d =>
        (∀ x ∈ faults xs, ∃ f, d.failure = some f ∧ f.kind = x.kind) ∧
        ((∃ f, d.failure = some f ∧ f.kind = .unexpected) ↔
          (∃ x ∈ faults xs, x.kind = .unexpected) ∨
            ∃ start ∈ chain.starts c token around m, start.Strays around)
      | .raised _ => ∃ x ∈ faults xs, x.kind = .unexpected
      | .endless => True := by
  obtain ⟨-, xs, hxs, htold⟩ := run_dealt hdriver hsettings hsteps hc hlocated hm token
  refine ⟨xs, hxs, ?_⟩
  have hstrays : (∃ start ∈ chain.starts c token around m, start.Strays around) → _ :=
    strays_unexpected
  generalize (chain.run c token around m).1 = r at htold hstrays
  cases r with
  | done d =>
    refine ⟨htold.kinds, fun hunexpected => htold.unexpected hunexpected, ?_⟩
    rintro (⟨x, hx, hkind⟩ | hstray)
    · obtain ⟨f, hf, hfkind⟩ := htold.kinds x hx
      exact ⟨f, hf, hfkind.trans hkind⟩
    · obtain ⟨d', f, hd', hf, hkind⟩ := hstrays hstray
      cases hd'
      exact ⟨f, hf, hkind⟩
  | raised e =>
    obtain ⟨x, message, hfaults, hx, -⟩ := htold
    exact ⟨x, by simp [hfaults], hx⟩
  | endless => trivial

/-- A click that the driver refuses is a failed interaction. -/
theorem run_classifies_click :
    let around : Surroundings Unit := ⟨.heading, .ok {}, 0⟩
    let c : Context := { session := ⟨"chromium", "s"⟩, items := 0, sink := .recorder }
    let steps : List (Step Unit) := [.find (.str "h1"), .click]
    ∃ d n xs, run ⟨steps⟩ c none around (Machine.start ()) = (.done d, n) ∧
      Exchanged around (Machine.start ()) xs n ∧
      (∀ x ∈ faults xs, x.kind = .interaction) ∧
      d.failure.map (·.kind) = some .interaction := by
  intro around c steps
  have htyped : ∀ s ∈ steps, s.Typed := by
    simp only [steps, List.forall_mem_cons, List.not_mem_nil, false_implies, implies_true]
    exact ⟨.one _ rfl, .click _ _ rfl, trivial⟩
  have hsettings : around.settings = .ok {} := rfl
  obtain ⟨xs, hxs, hclassified⟩ :
      ∃ xs, Exchanged around (Machine.start ()) xs
        (run ⟨steps⟩ c none around (Machine.start ())).2 ∧ _ :=
    run_classifies Driver.heading_raisesOwn hsettings htyped rfl
      (by simp [Context.Located, c]) ItemStore.textual_empty none
  have hseen : (run ⟨steps⟩ c none around (Machine.start ())).1.result?.map
      (·.failure.map (·.kind)) = some (some .interaction) := by decide +kernel
  rcases hrun : run ⟨steps⟩ c none around (Machine.start ()) with ⟨d | e | _, n⟩ <;>
    rw [hrun] at hseen hclassified hxs
  · have hkind : d.failure.map (·.kind) = some .interaction := Option.some.inj hseen
    refine ⟨d, n, xs, rfl, hxs, fun x hx => ?_, hkind⟩
    obtain ⟨f, hf, hfault⟩ := hclassified.1 x hx
    rw [hf] at hkind
    exact hfault.symm.trans (Option.some.inj hkind)
  · cases hseen
  · cases hseen

/-- A check for a part of a text that is given no text is an unexpected failure, although every
argument is of its type and the driver answers every call. -/
theorem run_misses_missing_text :
    let around : Surroundings Unit := ⟨.heading, .ok {}, 0⟩
    let c : Context := { session := ⟨"chromium", "s"⟩, items := 0, sink := .recorder }
    let steps : List (Step Unit) := [.find (.str "h1"), .assertText .none (.bool true)]
    (∀ s ∈ steps, s.Typed) ∧ around.driver.RaisesOwn ∧
      (run ⟨steps⟩ c none around (Machine.start ())).1.result?.bind (·.failure) =
        some ⟨.unexpected, "'in <string>' requires string as left operand, not NoneType",
          some "assert_text", some "TypeError"⟩ := by
  intro around c steps
  refine ⟨?_, Driver.heading_raisesOwn, by decide +kernel⟩
  simp only [steps, List.forall_mem_cons, List.not_mem_nil, false_implies, implies_true]
  exact ⟨.one _ rfl, .assertText _ rfl, trivial⟩

end Chain

end BrowserFlow
