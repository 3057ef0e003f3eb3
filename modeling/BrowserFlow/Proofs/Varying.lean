import BrowserFlow.Proofs.Veiling
import BrowserFlow.Proofs.Visiting

/-!
# Varying an item

How far the trace keeps an item that is stored under a sensitive key to itself. Two flows without
callbacks are compared that differ only in the values that they store under the key. The step that
stores them shows a mask for both. What a filter by the item picks depends on the item, and so does
all that comes after it; where the filters go the same way in both runs, the runs write the same log
and leave the same behind, but for the item itself.
-/
namespace BrowserFlow

variable {σ : Type} {around : Surroundings σ} {key : String}

/-- Flows of the library alone, without callbacks. -/
abbrev LibraryFlow (σ : Type) := Flow (Manners.callbackFree (σ := σ))

abbrev LibraryVisit (σ : Type) := Visit (Manners.callbackFree (σ := σ))

/-! ### Flows that store another value -/

mutual

/-- Two flows without callbacks that differ only in what they store under a key: values that have a
text, or have none for the same reason. -/
inductive Flow.Varies (key : String) : LibraryFlow σ → LibraryFlow σ → Prop
  | plain (s : Step σ) (h : Plain .callbackFree Manners.callbackFree.callback s) :
    Flow.Varies key (.plain s h) (.plain s h)
  | setItem {u v : Value} (hu : u.isNone = false) (hv : v.isNone = false)
    (hobstacle : u.textObstacle = v.textObstacle) :
    Flow.Varies key (.plain (.setItem (.str key) u) (.atomic (.setItem _ _)))
      (.plain (.setItem (.str key) v) (.atomic (.setItem _ _)))
  | chain {flows flows' : List (LibraryFlow σ)} (name : Option String)
    (h : Flow.VariesAll key flows flows') : Flow.Varies key (.chain flows name) (.chain flows' name)
  | when {step step' otherwise otherwise' : Option (LibraryFlow σ)}
    (h : Flow.VariesIn key step step')
    (hotherwise : Flow.VariesIn key otherwise otherwise') :
    Flow.Varies key (.when none step otherwise fun _ hf => by cases hf)
      (.when none step' otherwise' fun _ hf => by cases hf)
  | repeatWhile (most : Value) {step step' : Option (LibraryFlow σ)}
    (h : Flow.VariesIn key step step') :
    Flow.Varies key (.repeatWhile none step most fun _ hf => by cases hf)
      (.repeatWhile none step' most fun _ hf => by cases hf)
  | use (β : Type) {step step' : Option (LibraryFlow σ)} (h : Flow.VariesIn key step step') :
    Flow.Varies key (.use (β := β) none step fun _ hf => by cases hf)
      (.use (β := β) none step' fun _ hf => by cases hf)
  | useElement (β : Type) {step step' : Option (LibraryFlow σ)}
    (h : Flow.VariesIn key step step') :
    Flow.Varies key (.useElement (β := β) none step fun _ hf => by cases hf)
      (.useElement (β := β) none step' fun _ hf => by cases hf)
  | ifExists (selector timeout : Value) {onTrue onTrue' onFalse onFalse' : Option (LibraryFlow σ)}
    (htrue : Flow.VariesIn key onTrue onTrue') (hfalse : Flow.VariesIn key onFalse onFalse') :
    Flow.Varies key (.ifExists selector timeout onTrue onFalse)
      (.ifExists selector timeout onTrue' onFalse')
  | retrying (attempts backoff baseDelayMs : Value) {flow flow' : LibraryFlow σ}
    (h : Flow.Varies key flow flow') :
    Flow.Varies key (.retrying flow attempts backoff baseDelayMs)
      (.retrying flow' attempts backoff baseDelayMs)

inductive Flow.VariesAll (key : String) :
    List (LibraryFlow σ) → List (LibraryFlow σ) → Prop
  | nil : Flow.VariesAll key [] []
  | cons {flow flow' : LibraryFlow σ} {rest rest' : List (LibraryFlow σ)}
    (h : Flow.Varies key flow flow')
    (hrest : Flow.VariesAll key rest rest') : Flow.VariesAll key (flow :: rest) (flow' :: rest')

inductive Flow.VariesIn (key : String) :
    Option (LibraryFlow σ) → Option (LibraryFlow σ) → Prop
  | none : Flow.VariesIn key none none
  | some {flow flow' : LibraryFlow σ} (h : Flow.Varies key flow flow') :
    Flow.VariesIn key (some flow) (some flow')

end

namespace Flow

theorem Varies.name {flow flow' : LibraryFlow σ} (h : flow.Varies key flow') :
    flow.toStep.name = flow'.toStep.name := by
  cases h <;> simp only [toStep, Step.setItem, Chain.asStep, Step.when, Step.repeatWhile, Step.use,
    Step.useElement, Step.ifExists, Step.retrying, Step.ofBody]

theorem VariesIn.shown {flow flow' : Option (LibraryFlow σ)} (h : VariesIn key flow flow') :
    Step.shownOption (toStep? flow) = Step.shownOption (toStep? flow') := by
  cases h with
  | none => rfl
  | some h => exact congrArg (fun name => Value.ofOption (Option.some name)) h.name

theorem VariesAll.length {flows flows' : List (LibraryFlow σ)} (h : VariesAll key flows flows') :
    (toSteps flows).length = (toSteps flows').length := by
  cases h with
  | nil => rfl
  | cons h hrest => exact congrArg (· + 1) hrest.length

/-- The line of a step does not tell which value it stores, nor which value is stored inside. -/
theorem Varies.line (hkey : Redaction.isSensitiveKey key) {flow flow' : LibraryFlow σ}
    (h : flow.Varies key flow') : flow.toStep.describe = flow'.toStep.describe := by
  cases h with
  | plain s h => rfl
  | setItem hu hv hobstacle =>
    have hmasked : Redaction.isSensitiveKey (Value.str key).text = true := hkey
    have hsome : (Value.str key).isNone = false := rfl
    simp [toStep, Step.setItem, Step.describe, Step.ofBody, hmasked, hsome]
  | chain name h =>
    have hsize := h.length
    simp only [toStep, Chain.asStep, Step.describe, Step.ofBody, Chain.size, hsize]
  | when h hotherwise =>
    simp only [toStep, Step.when, Step.describe, Step.ofBody, h.shown]
  | repeatWhile most h => simp only [toStep, Step.repeatWhile, Step.describe, Step.ofBody, h.shown]
  | use β h => simp only [toStep, Step.use, Step.describe, Step.ofBody, h.shown]
  | useElement β h => simp only [toStep, Step.useElement, Step.describe, Step.ofBody, h.shown]
  | ifExists selector timeout htrue hfalse => rfl
  | retrying attempts backoff baseDelayMs h =>
    simp only [toStep, Step.retrying, Step.describe, Step.ofBody, h.name]

end Flow

/-! ### Runs of the two flows -/

open Likeness (veil veil_fits)

/-- Wherever two runs come to a filter by the veiled item, with the same context and on machines
that differ in nothing but that item, the filter makes the same calls on the driver and ends the
same way. -/
def SameCourse (around : Surroundings σ) (key : String) (V W : LibraryVisit σ → Prop) : Prop :=
  ∀ ⦃v w⦄, V v → W w → v.flow = w.flow → v.flow.toStep.ReadsItem (.str key) →
    v.context = w.context → ∀ ⦃m n⦄, v.begins = some m → w.begins = some n →
      (veil key).Machines m n →
      (v.flow.toStep.body v.context around m).1 = (w.flow.toStep.body w.context around n).1 ∧
        Event.calls (v.flow.toStep.body v.context around m).2.log =
          Event.calls (w.flow.toStep.body w.context around n).2.log

theorem SameCourse.mono {V V' W W' : LibraryVisit σ → Prop} (h : SameCourse around key V W)
    (hV : ∀ v, V' v → V v) (hW : ∀ w, W' w → W w) : SameCourse around key V' W' :=
  fun v w hv hw => h (hV v hv) (hW w hw)

/-- A visit leads to another one, at whichever attempt. -/
def Visit.LeadsTo (around : Surroundings σ) (v w : LibraryVisit σ) : Prop :=
  ∃ last, v.Reaches around last w

/-- A list of steps leads to a visit, at whichever attempt. -/
def Flow.LeadTo (around : Surroundings σ) (token : Option Token) (flows : List (LibraryFlow σ))
    (c : Context) (m : Machine σ) (w : LibraryVisit σ) : Prop :=
  ∃ v, Leads around token flows c m v ∧ v.LeadsTo around w

theorem Visit.LeadsTo.inside {v w x : LibraryVisit σ} {n : Machine σ} {last : Bool}
    (hbegins : v.begins = some n) (hruns : v.flow.Runs around v.context n last w)
    (h : w.LeadsTo around x) :
    v.LeadsTo around x := by
  obtain ⟨last', h⟩ := h
  exact ⟨_, .inside hbegins hruns h⟩

namespace Flow

mutual

theorem Varies.ends (hkey : Redaction.isSensitiveKey key) {flow flow' : LibraryFlow σ}
    (h : flow.Varies key flow') {token : Option Token} {c : Context} {m n : Machine σ}
    (hm : (veil key).Machines m n)
    (hcourse : SameCourse around key (Visit.LeadsTo around ⟨flow, token, c, m⟩)
      (Visit.LeadsTo around ⟨flow', token, c, n⟩)) :
    (veil key).Ends (veil key).Contexts (flow.toStep.execute c token around m)
      (flow'.toStep.execute c token around n) := by
  refine Step.execute_ends veil_fits h.name (h.line hkey) (.refl c) hm (hm.stopReason token)
    fun {b b'} hb hb' hbb' => ?_
  have hc : c.failure = none := ((Step.startOn_eq_some ..).1 hb).1
  cases h with
  | plain s hs =>
    by_cases hreads : s.ReadsItem (.str key)
    · obtain ⟨hending, hcalls⟩ :=
        hcourse ⟨true, .self _⟩ ⟨true, .self _⟩ rfl hreads rfl hb hb' hbb'
      exact hreads.ends hbb' hending hcalls
    · refine (hs.matches veil_fits fun k hk => Likeness.veil_legible ?_).body hc (.refl c) hbb'
      rintro rfl
      exact hreads hk
  | setItem hu hv hobstacle => exact Step.setItem_matches hu hv hobstacle c hbb'
  | chain name h =>
    have hends := h.ends hkey none (c := c) hbb' <| hcourse.mono
      (fun v ⟨w, hleads, hv⟩ => .inside hb (.chain hleads) hv)
      fun v ⟨w, hleads, hv⟩ => .inside hb' (.chain hleads) hv
    exact hends.bind fun _ _ hd hm => .done (.context hd) hm
  | when h hotherwise => exact .raised _ hbb'
  | repeatWhile most h => exact .raised _ hbb'
  | use β h =>
    exact ((Context.matches_fail veil_fits (.refl c) _ _ _) hbb').bind
      fun _ _ hd hm => .done (.context hd) hm
  | useElement β h =>
    exact ((Context.matches_fail veil_fits (.refl c) _ _ _) hbb').bind
      fun _ _ hd hm => .done (.context hd) hm
  | ifExists selector timeout htrue hfalse =>
    refine Step.ifExists_ends veil_fits (.refl c) hbb'
      fun {shown found o o'} hselector hprobe hprobe' ho => ?_
    cases found with
    | true =>
      exact htrue.ends hkey ho fun f hf f' hf' => by
        cases hf
        cases hf'
        exact hcourse.mono (fun _ => .inside hb (.ifExistsTrue hselector hprobe))
          fun _ => .inside hb' (.ifExistsTrue hselector hprobe')
    | false =>
      exact hfalse.ends hkey ho fun f hf f' hf' => by
        cases hf
        cases hf'
        exact hcourse.mono (fun _ => .inside hb (.ifExistsFalse hselector hprobe))
          fun _ => .inside hb' (.ifExistsFalse hselector hprobe')
  | @retrying attempts backoff baseDelayMs flow flow' h =>
    refine Step.retrying_ends veil_fits (.refl c) hbb' fun {p o o'} hplan hplan' x hx y hy hxy => ?_
    obtain ⟨k, hk⟩ := List.mem_iff_getElem?.1 hx
    obtain ⟨k', hk'⟩ := List.mem_iff_getElem?.1 hy
    have hwithin : ∀ w, Visit.LeadsTo around ⟨flow', none, c.holding b'.fresh, y⟩ w →
        Visit.LeadsTo around ⟨.retrying flow' attempts backoff baseDelayMs, token, c, n⟩ w :=
      fun _ => .inside hb' (.retrying hplan' hk')
    have hfresh : b.fresh = b'.fresh := hbb'.trace.2.2
    rw [← hfresh] at hwithin ⊢
    exact h.ends hkey hxy (hcourse.mono (fun _ => .inside hb (.retrying hplan hk)) hwithin)

theorem VariesAll.ends (hkey : Redaction.isSensitiveKey key) {flows flows' : List (LibraryFlow σ)}
    (h : VariesAll key flows flows') (token : Option Token) {c : Context} {m n : Machine σ}
    (hm : (veil key).Machines m n)
    (hcourse : SameCourse around key (LeadTo around token flows c m)
      (LeadTo around token flows' c n)) :
    (veil key).Ends (veil key).Contexts (Chain.runSteps token (toSteps flows) c around m)
      (Chain.runSteps token (toSteps flows') c around n) := by
  cases h with
  | nil => exact .done (.refl c) hm
  | cons h hrest =>
    by_cases hc : c.failure = none
    · have hfirst := h.ends hkey hm <| hcourse.mono (fun v hv => ⟨_, .here hc, hv⟩)
        fun v hv => ⟨_, .here hc, hv⟩
      refine Chain.runSteps_cons_ends veil_fits hrest.length (.refl c) hm hfirst
        fun _ d d' m' n' hran hran' hd hm' => ?_
      obtain rfl := hd.eq
      exact hrest.ends hkey token hm' <| hcourse.mono
        (fun v ⟨w, hleads, hv⟩ => ⟨w, .onward hran hleads, hv⟩)
        fun v ⟨w, hleads, hv⟩ => ⟨w, .onward hran' hleads, hv⟩
    · -- Of what is skipped there is a note that counts steps.
      refine Chain.runSteps_cons_ends veil_fits hrest.length (.refl c) hm ?_ fun h => absurd h hc
      rw [Step.execute_of_failed _ token around m hc, Step.execute_of_failed _ token around n hc]
      exact .done (.refl c) hm

theorem VariesIn.ends (hkey : Redaction.isSensitiveKey key) {flow flow' : Option (LibraryFlow σ)}
    (h : VariesIn key flow flow') {c : Context} {m n : Machine σ} (hm : (veil key).Machines m n)
    (hcourse : ∀ f ∈ flow, ∀ f' ∈ flow', SameCourse around key
      (Visit.LeadsTo around ⟨f, none, c, m⟩) (Visit.LeadsTo around ⟨f', none, c, n⟩)) :
    (veil key).Ends (veil key).Contexts (Step.executeOption (toStep? flow) c around m)
      (Step.executeOption (toStep? flow') c around n) := by
  cases h with
  | none => exact .done (.refl c) hm
  | some h => exact h.ends hkey hm (hcourse _ rfl _ rfl)

end

end Flow

/-- A chain that stores one or the other value under a sensitive key, and uses the item through
filters that go the same way, ends the same way, writes the same log and keeps the same failure
lines back. -/
theorem Chain.run_veils (hkey : Redaction.isSensitiveKey key) {flows flows' : List (LibraryFlow σ)}
    (h : Flow.VariesAll key flows flows') (c : Context) (token : Option Token) {m n : Machine σ}
    (hm : (veil key).Machines m n)
    (hcourse : SameCourse around key (fun v => ∃ last, Visits around flows c token m last v)
      (fun v => ∃ last, Visits around flows' c token n last v)) :
    let first := run ⟨Flow.toSteps flows⟩ c token around m
    let second := run ⟨Flow.toSteps flows'⟩ c token around n
    first.1 = second.1 ∧ first.2.log = second.2.log ∧ first.2.held = second.2.held ∧
      ∀ id, (first.2.stores id).Veiled key (second.2.stores id) := by
  intro first second
  have hends : (veil key).Ends (veil key).Contexts first second := by
    refine run_ends hm fun hentered => h.ends hkey token hentered (hcourse.mono ?_ ?_)
    · exact fun v ⟨w, hleads, last, hreaches⟩ => ⟨last, w, hleads, hreaches⟩
    · exact fun v ⟨w, hleads, last, hreaches⟩ => ⟨last, w, hleads, hreaches⟩
  generalize first = r, second = r' at hends ⊢
  have hafter := hends.machines
  refine ⟨?_, hafter.trace.1, hafter.trace.2.1, hafter.stores⟩
  cases hends with
  | done h _ => exact congrArg Outcome.done h.eq
  | raised e _ => rfl
  | endless _ => rfl

theorem Step.ReadsItem.name {s : Step σ} {k : Value} (h : s.ReadsItem k) :
    s.name = "first_containing_item" ∨ s.name = "last_containing_item" := by
  cases h
  · exact .inl rfl
  · exact .inr rfl

theorem Step.Finds.not_reads {s inner : Step σ} (h : s.Finds inner) (k : Value) :
    ¬ inner.ReadsItem k := by
  intro hreads
  have hname : inner.name = "find" ∨ inner.name = "click" := by
    cases h
    case followLink => exact .inr rfl
    all_goals exact .inl rfl
  rcases hreads.name with h | h <;> simp [h] at hname

/-- Of the steps that plain ones execute none is a filter. -/
theorem Visit.Reaches.of_plain {v w : LibraryVisit σ} {last : Bool} {s : Step σ}
    {hs : Plain .callbackFree Manners.callbackFree.callback s} {k : Value}
    (h : v.Reaches around last w) (hv : v.flow = .plain s hs) (hw : w.flow.toStep.ReadsItem k) :
    w = v := by
  induction h generalizing s with
  | self => rfl
  | @inside v _ _ _ _ _ _ hruns _ ih =>
    obtain ⟨flow, token, c, m⟩ := v
    obtain rfl : flow = .plain s hs := hv
    cases hruns with
    | plain hfinds =>
      cases ih rfl hw
      exact absurd hw (hfinds.not_reads k)

/-- Two passwords are stored, of which both are part of the text that is looked through. -/
theorem Chain.run_veils_found :
    let driver : Driver Unit := {
      answer := fun
        | .text _ => pure (some "hunter2 or swordfish")
        | _ => Proc.raise (.driver "down")
      type := "Driver"
      locatorType := "Locator" }
    let around : Surroundings Unit := ⟨driver, .ok {}, 0⟩
    let c : Context := { session := ⟨"fake", "s"⟩, items := 0, sink := .recorder,
                         collection := some [.root none "li" none] }
    let ended (item : String) := Chain.run ⟨[.setItem (.str "password") (.str item),
      .firstContainingItem (.str "password"), .pressEnter]⟩ c none around (Machine.start ())
    (ended "hunter2").1 = (ended "swordfish").1 ∧
      (ended "hunter2").2.log = (ended "swordfish").2.log ∧
      Event.linesOf .error (ended "swordfish").2.log =
        ["Failure created: [interaction] press_enter: press Enter: down"] := by
  intro driver around c ended
  let storing (item : String) : LibraryFlow Unit :=
    .plain (.setItem (.str "password") (.str item)) (.atomic (.setItem _ _))
  let filter : LibraryFlow Unit :=
    .plain (.firstContainingItem (.str "password")) (.atomic (.firstContainingItem _))
  let pressing : LibraryFlow Unit := .plain .pressEnter (.atomic .pressEnter)
  let visited (item : String) (v : LibraryVisit Unit) : Prop :=
    ∃ last, Visits around [storing item, filter, pressing] c none (Machine.start ()) last v
  have hvisit : ∀ item v, visited item v → v.flow.toStep.ReadsItem (.str "password") →
      v = ⟨filter, none, c,
        ((storing item).toStep.execute c none around (Machine.start ())).2⟩ := by
    rintro item v ⟨last, w, hleads, hreaches⟩ hreads
    cases hleads with
    | here hc =>
      cases hreaches.of_plain rfl hreads
      exact absurd (show "set_item" = _ ∨ "set_item" = _ from hreads.name) (by decide)
    | onward hfirst hrest =>
      cases hfirst
      cases hrest with
      | here hc => exact hreaches.of_plain rfl hreads
      | onward hsecond hrest =>
        cases hrest with
        | here hc =>
          cases hreaches.of_plain rfl hreads
          exact absurd (show "press_enter" = _ ∨ "press_enter" = _ from hreads.name) (by decide)
        | onward _ hrest => cases hrest
  have hcourse : SameCourse around "password" (visited "hunter2") (visited "swordfish") := by
    intro v w hv hw hsame hreads _ m n hm hn _
    have hreads' : w.flow.toStep.ReadsItem (.str "password") := hsame ▸ hreads
    obtain rfl := hvisit _ v hv hreads
    obtain rfl := hvisit _ w hw hreads'
    cases hm
    cases hn
    exact ⟨rfl, rfl⟩
  have halike : (veil "password").Machines (Machine.start ()) (Machine.start ()) :=
    ⟨rfl, fun _ => .refl _, ⟨rfl, rfl, rfl⟩, rfl, rfl, rfl⟩
  have hvaries : (storing "hunter2").Varies "password" (storing "swordfish") :=
    .setItem rfl rfl rfl
  obtain ⟨hending, hlog, -, -⟩ := run_veils (by decide +kernel)
    (.cons hvaries (.cons (.plain _ _) (.cons (.plain _ _) .nil))) c none halike hcourse
  exact ⟨hending, hlog, by decide +kernel⟩

/-- The item decides which of two elements is checked, and so what the failure of the check says. -/
theorem Chain.run_veils_not_choices :
    let driver : Driver Unit := {
      answer := fun
        | .text l => pure (some (if l = .root none "li" (some (.whole 0)) then "one" else "two"))
        | _ => Proc.raise (.driver "down")
      type := "Driver"
      locatorType := "Locator" }
    let around : Surroundings Unit := ⟨driver, .ok {}, 0⟩
    let l : Locator := .root none "li" none
    let c : Context := { session := ⟨"fake", "s"⟩, items := 0, sink := .recorder,
                         collection := some [l.nth (.whole 0), l.nth (.whole 1)] }
    let ended (item : String) := Chain.run ⟨[.setItem (.str "password") (.str item),
      .firstContainingItem (.str "password"), .assertText (.str "zzz")]⟩ c none around
      (Machine.start ())
    Redaction.isSensitiveKey "password" ∧
      (∀ item ∈ ["one", "two"], Event.linesOf .step (ended item).2.log =
        ["set_item(key='password', value='********')", "first_containing_item(key='password')",
          "assert_text(expected='zzz', contains=False)"]) ∧
      Event.linesOf .error (ended "one").2.log =
        ["Failure created: [assertion] assert_text: Expected text equal to 'zzz', actual 'one'"] ∧
      Event.linesOf .error (ended "two").2.log =
        ["Failure created: [assertion] assert_text: Expected text equal to 'zzz', actual 'two'"] :=
  by decide +kernel

end BrowserFlow
