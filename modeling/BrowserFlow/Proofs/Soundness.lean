import BrowserFlow.Proofs.Guarding
import BrowserFlow.Proofs.Inheriting
import BrowserFlow.Session.Lifetime

/-!
# Runs on sound contexts

A context that has just been handed out is sound, and so is every context that a run on it hands to
a step or to a callback, and the one that it comes back with: focus and collection are never both
there, and what they hold was located in the frame that the context is confined to. That frame
changes with the steps that say so and with no others, and whatever an atomic step or a probe looks
up, it looks up there. Callbacks may do as they like, as long as those that pick from a collection
pick one of its elements.
-/
namespace BrowserFlow

open BrowserFlow.Context (Follows Heir Kin Stays)

variable {σ : Type} {around : Surroundings σ}

/-- A first context has neither focus nor collection, and is confined to no frame. -/
theorem Session.create_done {brand url headless : Value} {sink : Option Sink} {c : Context}
    {m n : Machine σ} (h : create brand url headless sink around m = (.done c, n)) :
    c.Sound ∧ c.scope = none ∧ c.failure = none := by
  have hlast : ∃ session items chosen, c = { session, items, sink := chosen } := by
    unfold create at h
    split at h <;> simp only [Action.bind_eq_done, Action.pure_run] at h
    · obtain ⟨_, _, -, _, _, -, _, _, -, _, _, -, _, _, -, session, _, -, _, _, -, _, _, -,
        items, _, -, _, _, -, chosen, _, -, h⟩ := h
      exact ⟨session, items, chosen, by cases h; rfl⟩
    · obtain ⟨_, _, -, _, _, -, _, _, -, _, _, -, session, _, -, _, _, -, _, _, -, items, _, -,
        _, _, -, chosen, _, -, h⟩ := h
      exact ⟨session, items, chosen, by cases h; rfl⟩
  obtain ⟨session, items, chosen, rfl⟩ := hlast
  exact ⟨⟨.inl rfl, by simp, by simp⟩, rfl, rfl⟩

section Visits

variable {M : Manners σ} {picks : Callback σ (List Locator) (Option Focus) → Prop}

/-- The contexts that the body of a step hands to callbacks when it is run on a context. -/
inductive Flow.Hands (around : Surroundings σ) :
    Flow M picks → Context → Machine σ → Context → Prop
  | assertion {predicate : Option (Callback σ Context Bool)} {message : Message σ}
    {h : Plain M picks (.assertion predicate message)} {c : Context} {m : Machine σ} :
    Hands around (.plain _ h) c m c
  | createFailure {problem : Problem σ} {h : Plain M picks (.createFailure problem)} {c : Context}
    {m : Machine σ} : Hands around (.plain _ h) c m c
  | when {predicate : Option (Callback σ Context Bool)} {flow otherwise : Option (Flow M picks)}
    {hpredicate : ∀ f ∈ predicate, M.callback f} {c : Context} {m : Machine σ} :
    Hands around (.when predicate flow otherwise hpredicate) c m c
  | repeatWhile {predicate : Callback σ Context Bool} {flow : Flow M picks} {most : Value}
    {hpredicate : ∀ f ∈ some predicate, M.callback f} {c : Context} {m n : Machine σ}
    {state : Step.LoopState} {k j : Nat}
    (hrounds : (Step.loopRounds most : Action σ Nat) around m = (.done k, m))
    (hcarried : Carried around (Step.loopRound predicate flow.toStep most) k ⟨c, 0⟩ m (j + 1)
      state n) :
    Hands around (.repeatWhile (some predicate) (some flow) most hpredicate) c m state.context
  | use {β : Type} {action : Callback σ Context β} {flow : Option (Flow M picks)}
    {haction : ∀ f ∈ some action, M.callback f} {c d : Context} {m n : Machine σ}
    (hfirst : Step.executeOption (Flow.toStep? flow) c around m = (.done d, n))
    (hd : d.failure = none) : Hands around (.use (some action) flow haction) c m d

end Visits

section Inheritance

variable {c : Context} {m : Machine σ} {last : Bool}
  {flow : Flow (.bequeathing around) (Callback.Chooses around)}
  {flows : List (Flow (.bequeathing around) (Callback.Chooses around))}

theorem Flow.bequeaths (flow : Flow (.bequeathing around) (Callback.Chooses around)) :
    flow.toStep.Bequeaths around := Step.bequeaths_spreads.toStep flow

theorem Leads.heir {token : Option Token} {v : Visit _ _} (h : Leads around token flows c m v) :
    v.context.Heir c := by
  induction h with
  | here => exact .refl _
  | @onward flow _ _ _ _ _ _ hfirst _ ih => exact (flow.bequeaths.execute hfirst).trans ih

theorem Flow.Runs.kin {v : Visit _ _} (h : flow.Runs around c m last v) (hc : c.failure = none) :
    v.context.Kin c := by
  cases h with
  | chain h => exact h.heir.toKin
  | @repeatWhile _ flow _ _ _ _ _ _ _ _ _ _ hcarried _ _ =>
    exact (Step.carried_heir flow.bequeaths hc hcarried).1.toKin
  | retrying => exact .holding c _
  | _ => exact (Heir.refl c).toKin

theorem Visit.Reaches.kin {v w : Visit (.bequeathing around) (Callback.Chooses around)}
    (h : v.Reaches around last w) : w.context.Kin v.context := by
  induction h with
  | self => exact (Heir.refl _).toKin
  | inside hbegins hruns _ ih =>
    exact (hruns.kin ((Step.startOn_eq_some ..).1 hbegins).1).trans ih

theorem Chain.Visits.kin {token : Option Token} {v : Visit _ _}
    (h : Chain.Visits around flows c token m last v) : v.context.Kin c := by
  obtain ⟨w, hleads, hreaches⟩ := h
  exact hleads.heir.toKin.trans hreaches.kin

/-- What is handed to a callback is an heir of what the step was started on. -/
theorem Flow.Hands.heir {d : Context} (h : flow.Hands around c m d) (hc : c.failure = none) :
    d.Heir c := by
  cases h with
  | @repeatWhile _ flow _ _ _ _ _ _ _ _ _ hcarried =>
    exact (Step.carried_heir flow.bequeaths hc hcarried).1
  | @use _ _ flow _ _ _ _ _ hfirst _ =>
    exact Step.Bequeaths.executeOption (Step.bequeaths_spreads.toStep? flow) hfirst
  | _ => exact .refl c

end Inheritance

/-- Every call between two machines that looks into the page looks into this frame, or into the page
as a whole if it is none. -/
def Looks (scope : Option Frame) (m n : Machine σ) : Prop :=
  ∃ es, n.log = m.log ++ es ∧ ∀ k, Event.call k ∈ es → ∀ s ∈ k.scope?, s = scope

/-- Anything may happen but calls that look into another frame. -/
def Leeway.within (σ : Type) (scope : Option Frame) : Leeway σ := ⟨Looks scope, fun _ => True⟩

theorem Looks.refl (scope : Option Frame) {m n : Machine σ} (h : n.log = m.log) :
    Looks scope m n :=
  ⟨[], by simp [h], by simp⟩

theorem Looks.append {scope : Option Frame} (m : Machine σ) {es : List Event}
    (h : ∀ k, Event.call k ∈ es → ∀ s ∈ k.scope?, s = scope) :
    Looks scope m { m with log := m.log ++ es } := ⟨es, rfl, h⟩

theorem Leeway.within_tolerates (around : Surroundings σ) (scope : Option Frame) :
    (within σ scope).Tolerates around fun k => ∀ s ∈ k.scope?, s = scope where
  refl := fun _ => .refl scope rfl
  trans := by
    rintro m n o ⟨es, hn, hes⟩ ⟨es', ho, hes'⟩
    refine ⟨es ++ es', by rw [ho, hn, List.append_assoc], fun k hk => ?_⟩
    exact (List.mem_append.1 hk).elim (hes k) (hes' k)
  emit := fun he m => .append m fun k hk =>
    absurd (List.mem_singleton.1 hk).symm (Event.ne_call_of_aside he k)
  fresh := fun _ => .refl scope rfl
  call := fun k hk m => by
    rw [Action.call_run]
    refine ⟨.append m fun k' hk' => ?_, fun _ _ => trivial⟩
    obtain heq | hsent := List.mem_cons.1 hk'
    · cases heq
      exact hk
    · obtain ⟨signal, -, heq⟩ := List.mem_map.1 hsent
      cases signal <;> cases heq
  own := fun _ => trivial
  leaving := fun _ => trivial
  settings := fun _ => trivial
  failing := fun sink text m => by
    cases sink with
    | recorder => exact .append m (by simp)
    | logger enabled =>
      rw [Sink.given, if_pos (by simp [Sink.writes])]
      exact .append m (by simp)
    | holder cell inner => exact .refl scope rfl

section Ending

variable {c d : Context} {token : Option Token} {m n : Machine σ} {s : Step σ}

/-- What executing a step of the library comes to, by its deeds. -/
theorem Step.Does.execute_done {R : Context → Context → Prop}
    (h : s.Does around (.anything σ) true R) (hc : c.failure = none)
    (hdone : s.execute c token around m = (.done d, n)) :
    R d c ∨ ∃ f, d = { c with failure := some f } := by
  have hL := Leeway.anything_tolerates around
  obtain ⟨name, args, body, rfl, hbody⟩ := h
  have hsettled := Step.execute_settled hL name args hc
    ((hbody c).settled hL (fun _ _ => trivial) hc) token m
  rw [hdone] at hsettled
  exact hsettled.imp And.left And.left

/-- How the frame that a context is confined to changes with a step: only steps that move change it,
unless they fail. -/
structure Step.Confines (around : Surroundings σ) (s : Step σ) (c d : Context) : Prop where
  stays : ¬ s.Moves ∨ d.failure ≠ none → d.scope = c.scope
  leaves : d.failure = none →
    ((∃ url, s = .goto url) ∨ s = .switchToDefault) → d.scope = none
  enters : d.failure = none → ∀ selector, s = .switchToFrame selector →
    ∃ frame, around.driver.Answers (.frame c.session selector) frame ∧ d.scope = some frame

theorem Plain.confines {M : Manners σ} {picks : Callback σ (List Locator) (Option Focus) → Prop}
    (hpicks : ∀ {f}, picks f → f.Chooses around) (h : Plain M picks s) (hc : c.failure = none)
    (hdone : s.execute c token around m = (.done d, n)) : s.Confines around c d where
  stays := by
    rintro (hs | hd)
    · have hdoes := h.does_anything hpicks (R := Stays) (fun hmoves => absurd hmoves hs) id
      obtain hstays | ⟨f, rfl⟩ := hdoes.execute_done hc hdone
      · exact hstays.scope
      · rfl
    · have hdoes := h.does_anything hpicks (fun hs => hs.does) Stays.toFollows
      obtain hfollows | ⟨f, rfl⟩ := hdoes.execute_done hc hdone
      · exact absurd (hfollows.failure.trans hc) hd
      · rfl
  leaves := by
    rintro hd (⟨url, rfl⟩ | rfl)
    · obtain rfl | ⟨f, rfl⟩ := (Step.does_goto url).execute_done hc hdone
      · rfl
      · cases hd
    · obtain rfl | ⟨f, rfl⟩ := Step.does_switchToDefault.execute_done hc hdone
      · rfl
      · cases hd
  enters := by
    rintro hd selector rfl
    obtain ⟨frame, hframe, rfl⟩ | ⟨f, rfl⟩ :=
      (Step.does_switchToFrame selector).execute_done hc hdone
    · exact ⟨frame, hframe, rfl⟩
    · cases hd

/-- An atomic step that is executed on a sound context looks where that context is confined to. -/
theorem Atomic.looks (h : Atomic s) (hc : c.failure = none) (hsound : c.Sound)
    (token : Option Token) (m : Machine σ) : Looks c.scope m (s.execute c token around m).2 := by
  have hL := Leeway.within_tolerates around c.scope
  obtain ⟨name, args, body, rfl, hbody⟩ : s.Does around (.within σ c.scope) true Follows :=
    h.does
  have hsettled := Step.execute_settled hL name args hc
    ((hbody c).settled hL (fun _ hk => hk hsound) hc) token m
  rcases hrun : (Step.ofBody name args body).execute c token around m with ⟨d | e | _, n⟩ <;>
    rw [hrun] at hsettled
  · obtain ⟨-, stores, hlooks, -⟩ | ⟨-, hlooks⟩ := hsettled <;> exact hlooks
  · exact hsettled
  · exact hsettled

end Ending

/-- So does a probe. -/
theorem Probe.run_looks {c : Context} (hsound : c.Sound) (label selector shown : String)
    (timeout : Value) (m : Machine σ) :
    Looks c.scope m (Probe.run label c selector shown timeout around m).2 := by
  have hcovers := (Leeway.within_tolerates around c.scope).toCovers
  exact (keeps_run hcovers (fun _ hk => hk hsound) label selector shown timeout m).1

/-- What is so of every context that has to do with a run on a first one. -/
structure Context.Belongs (d c : Context) : Prop where
  sound : d.Sound
  session : d.session = c.session
  items : d.items = c.items

theorem Context.Sound.belongs {c : Context} (h : c.Sound) : c.Belongs c := ⟨h, rfl, rfl⟩

theorem Context.Belongs.onward {c d e : Context} (hd : d.Belongs c) (h : e.Kin d) : e.Belongs c :=
  ⟨h.sound hd.sound, h.session.trans hd.session, h.items.trans hd.items⟩

/-- Contexts that belong to a first one hand on contexts that do. -/
theorem Leeway.anything_lets (c : Context) (token : Option Token) (m : Machine σ) :
    Lets around (.bequeathing around) (Callback.Chooses around) (fun d _ => d.Belongs c)
      (·.Belongs c) (.anything σ) (·.Belongs c) token m where
  covers := (anything_tolerates around).toCovers
  callback := fun _ _ _ _ => ⟨trivial, fun _ _ => trivial⟩
  keeps := fun _ _ _ _ => ⟨trivial, fun _ _ => trivial⟩
  passes := fun flow _ _ _ _ _ hd hdone => hd.onward (flow.bequeaths.execute hdone).toKin
  holding := fun cell hd => hd.onward (.holding _ cell)
  hears := id
  starts := fun _ hd _ _ => hd

theorem Chain.run_belongs {brand url headless : Value} {sink : Option Sink} {c : Context}
    {before after : Machine σ}
    (hcreate : Session.create brand url headless sink around before = (.done c, after))
    (flows : List (Flow (.bequeathing around) (Callback.Chooses around))) (token : Option Token)
    (m : Machine σ) :
    (∀ last v, Chain.Visits around flows c token m last v → v.context.Belongs c ∧
      (∀ n d, v.begins = some n → v.flow.Hands around v.context n d → d.Belongs c) ∧
      ∀ s h, v.flow = .plain s h →
        (∀ d n, v.ended around = (.done d, n) → s.Confines around v.context d) ∧
        (Atomic s → Looks v.context.scope v.machine (v.ended around).2)) ∧
    Chain.run ⟨Flow.guardedAll (fun d _ => d.Belongs c) (·.Belongs c) flows⟩ c token around m =
      Chain.run ⟨Flow.toSteps flows⟩ c token around m ∧
    (∀ d n, Chain.run ⟨Flow.toSteps flows⟩ c token around m = (.done d, n) →
      d.Belongs c ∧ d.sink = c.sink) ∧
    (c.scope = none ∧ ∀ d : Context, d.Sound → ∀ label selector shown timeout n,
      Looks d.scope n (Probe.run label d selector shown timeout around n).2) := by
  obtain ⟨hsound, hscope, -⟩ := Session.create_done hcreate
  refine ⟨fun last v hv => ?_,
    run_guarded flows (Leeway.anything_lets c token _) hsound.belongs,
    fun d n hrun => ?_, hscope,
    fun d hd label selector shown timeout n => Probe.run_looks hd label selector shown timeout n⟩
  · have hunfailed := hv.visit_unfailed
    have hbelongs := hsound.belongs.onward hv.kin
    refine ⟨hbelongs, fun n d _ hhands => ?_,
      fun s h hflow => ⟨fun d n hended => ?_, fun hs => ?_⟩⟩
    · exact hbelongs.onward (hhands.heir hunfailed).toKin
    · rw [Visit.ended, hflow] at hended
      exact h.confines id hunfailed hended
    · rw [Visit.ended, hflow]
      exact hs.looks hunfailed hbelongs.sound v.token v.machine
  · have hheir := run_heir (Step.bequeaths_spreads.toSteps flows) hrun
    exact ⟨hsound.belongs.onward hheir.toKin, hheir.sink⟩

/-- An element is found in a frame of the page that the first context was handed out for. -/
theorem Chain.run_belongs_framed :
    let driver : Driver Unit := {
      answer := fun
        | .launch .. => pure ⟨"chromium", "s"⟩
        | .frame .. => pure ⟨"#f"⟩
        | .count _ => pure (1 : Int)
        | .goto .. | .waitFor .. => pure ()
        | _ => Proc.raise (.driver "down") }
    let around : Surroundings Unit := ⟨driver, .ok {}, 0⟩
    let c : Context := { session := ⟨"chromium", "s"⟩, items := 0, sink := .recorder }
    let steps : List (Step Unit) := [.switchToFrame (.str "#f"), .find (.str "#a")]
    ∃ d n, Chain.run ⟨steps⟩ c none around (Machine.start ()) = (.done d, n) ∧
      d.scope = some ⟨"#f"⟩ ∧ d.hasFocus = true ∧ d.Belongs c ∧ d.sink = .recorder := by
  intro driver around c steps
  have hcreate : Session.create (.str "chromium") (.str "http://h/") .none (some .recorder) around
      (Machine.start ()) = (.done c, _) := Prod.ext rfl rfl
  obtain ⟨-, -, hdone, -⟩ := run_belongs hcreate
    [.plain (.switchToFrame (.str "#f")) (.atomic (.switchToFrame _)),
      .plain (.find (.str "#a")) (.atomic (.one _ _))] none (Machine.start ())
  have hseen : (Chain.run ⟨steps⟩ c none around (Machine.start ())).1.result?.map
      (fun d => (d.scope, d.hasFocus)) = some (some ⟨"#f"⟩, true) := by decide +kernel
  rcases hrun : Chain.run ⟨steps⟩ c none around (Machine.start ()) with ⟨d | e | _, n⟩ <;>
    rw [hrun] at hseen
  · obtain ⟨hscope, hfocus⟩ := Prod.ext_iff.1 (Option.some.inj hseen)
    obtain ⟨hbelongs, hsink⟩ := hdone d n hrun
    exact ⟨d, n, rfl, hscope, hfocus, hbelongs, hsink⟩
  · cases hseen
  · cases hseen

end BrowserFlow
