import BrowserFlow.Proofs.Acting
import BrowserFlow.Proofs.Dealing

/-!
# What the steps of the library do about faults

The steps that find, choose, act and check without a callback deal with the faults of the driver, if
their arguments are of the types that they are declared with: whatever the driver raises, and
wherever it does, is told of by a failure of its kind, and without a fault no failure is unexpected.
What strays is the check for a part of a text that is given no text, and a step that is to keep what
has no text.
-/
namespace BrowserFlow

variable {σ : Type} {around : Surroundings σ} {settings : Settings} {store : Nat} {stray : Prop}
  {c : Context}

/-- A text or nothing. -/
def Value.isOptionalText : Value → Bool
  | .none | .str _ => true
  | _ => false

theorem Value.isOptionalText_cases {v : Value} (h : v.isOptionalText = true) :
    v = .none ∨ ∃ s, v = .str s := by
  cases v with
  | none => exact .inl rfl
  | str s => exact .inr ⟨s, rfl⟩
  | _ => cases h

theorem ItemStore.checkKey_text {key : Value} (h : key.isOptionalText = true) :
    checkKey key = .ok () := by
  obtain rfl | ⟨s, rfl⟩ := Value.isOptionalText_cases h <;> rfl

/-- The atomic steps whose arguments are of the types that they are declared with, as far as it
matters: an index is a number, and what is searched for in a text, or kept items under, is a text or
nothing. -/
inductive Step.Typed : Step σ → Prop
  | one (q : Query) {index : Value} (h : index.number?.isSome = true) :
    Typed (q.focusing index Query.inScope)
  | all (q : Query) : Typed (q.collecting Query.inScope)
  | oneUnder (q : Query) {index : Value} (h : index.number?.isSome = true) :
    Typed (q.focusing index Query.underFocus)
  | allUnder (q : Query) : Typed (q.collecting Query.underFocus)
  | firstContainingText {text : Value} (h : text.isOptionalText = true) :
    Typed (.firstContainingText text)
  | lastContainingText {text : Value} (h : text.isOptionalText = true) :
    Typed (.lastContainingText text)
  | firstContainingItem {key : Value} (h : key.isOptionalText = true) :
    Typed (.firstContainingItem key)
  | lastContainingItem {key : Value} (h : key.isOptionalText = true) :
    Typed (.lastContainingItem key)
  | goto (url : Value) : Typed (.goto url)
  | click (selector : Value) {index : Value} (timeout : Value) (h : index.number?.isSome = true) :
    Typed (.click selector index timeout)
  | doubleClick (selector : Value) : Typed (.doubleClick selector)
  | setText {text selector : Value} {s : Step σ} (h : Step.setText text selector = .ok s) : Typed s
  | press (key : Value) : Typed (.press key)
  | pressEnter : Typed .pressEnter
  | selectComboText (value selector : Value) : Typed (.selectComboText value selector)
  | script (source : Value) (args : List Value) : Typed (.script source args)
  | switchToFrame (selector : Value) : Typed (.switchToFrame selector)
  | switchToDefault : Typed .switchToDefault
  | followLink (selector title timeout : Value) : Typed (.followLink selector title timeout)
  | storeText {key : Value} (h : key.isOptionalText = true) : Typed (.storeText key)
  | storeValue {key : Value} (h : key.isOptionalText = true) : Typed (.storeValue key)
  | setItem {key : Value} (value : Value) (h : key.isOptionalText = true) :
    Typed (.setItem key value)
  | clearItem {key : Value} (h : key.isOptionalText = true) : Typed (.clearItem key)
  | assertAttribute {name expected : Value} {s : Step σ}
    (h : Step.assertAttribute name expected = .ok s) : Typed s
  | assertTitle (expected : Value) : Typed (.assertTitle expected)
  | assertText {expected : Value} (contains : Value) (h : expected.isOptionalText = true) :
    Typed (.assertText expected contains)

open BrowserFlow.Action (Deals)

/-! ### Parts of steps -/

theorem Step.deals_requireValue (v : Value) (label what : String) :
    (requireValue v label what : Action σ Value).Deals around store stray (Spotless (· = v)) := by
  rw [requireValue]
  split
  · exact .raise _ (by decide)
  · exact .pure rfl

/-- The element in focus can be worked on, if there is one. -/
theorem Context.deals_through (hc : c.Located) {f : Focus} (hf : c.focus = some f)
    (operation : String) :
    (Action.ofExcept (f.through operation) : Action σ Locator).Deals around store stray
      (Spotless fun l => c.focus = some (.element l)) := by
  obtain ⟨l, rfl⟩ := hc f hf
  exact .pure hf

section Asking

variable (hdriver : around.driver.RaisesOwn) (hsettings : around.settings = .ok settings)

include hdriver hsettings

namespace Query

theorem deals_countAfterWait (q : Query) (l : Locator) :
    (q.countAfterWait l).Deals around store stray (Spotless fun _ => True) := by
  rw [countAfterWait]
  refine (Deals.timeout hsettings _ _).bind fun wait _ => ?_
  refine .attempted hdriver (fun _ => ?_) fun e he => ⟨_, rfl, ?_⟩
  · refine (Deals.call hdriver fun _ => rfl).bind fun count _ => ?_
    split
    · exact .raise _ (by decide)
    · exact .pure trivial
  · let x : Fault := ⟨.waitFor l wait (.bool false), e⟩
    split
    case isTrue hmissed =>
      have hkind : StepErrorClass.resolution.failureKind = x.kind := by
        simp [StepErrorClass.failureKind, Fault.kind, Fault.isMissedWait, x, hmissed]
      exact .told hkind (by decide)
    case isFalse hother =>
      exact .passed (x := x) he (by simp [Fault.isMissedWait, x, hother])

omit hdriver hsettings in
theorem resolveIndex_error {index : Number} {count : Int} {label : String} {e : Raised}
    (h : resolveIndex index count label = .error e) : e = outOfRange label index count := by
  simp only [resolveIndex] at h
  split at h <;> split at h <;> cases h <;> rfl

theorem deals_one (q : Query) {index : Value} (hindex : index.number?.isSome = true)
    (l : Locator) : (q.one index l).Deals around store stray (Spotless fun _ => True) := by
  rw [one]
  refine (deals_countAfterWait hdriver hsettings q l).bind fun count _ => ?_
  have hplace : (Action.ofExcept do resolveIndex (← readIndex index) count q.label :
      Action σ Number).Deals around store stray (Spotless fun _ => True) := by
    obtain ⟨place, hnumber⟩ := Option.isSome_iff_exists.1 hindex
    rw [show readIndex index = .ok place by rw [readIndex, hnumber]]
    refine .compute (fun _ _ => trivial) fun e he => ?_
    change resolveIndex place count q.label = .error e at he
    rw [resolveIndex_error he]
    exact ⟨.resolution, _, by decide, rfl⟩
  exact hplace.bind fun _ _ => .pure trivial

theorem deals_all (q : Query) (l : Locator) :
    (q.all l).Deals around store stray (Spotless fun _ => True) := by
  rw [all]
  exact (deals_countAfterWait hdriver hsettings q l).bind fun count _ => .pure trivial

end Query

end Asking

namespace Query

theorem deals_requireSelector (selector : Value) (label : String) :
    (Action.ofExcept (requireSelector selector label) : Action σ String).Deals around store stray
      (Spotless fun _ => True) := by
  refine .compute (fun _ _ => trivial) fun e he => ?_
  cases selector with
  | str s =>
    simp only [requireSelector] at he
    split at he <;> cases he
    exact ⟨.usage, _, by decide, rfl⟩
  | _ =>
    cases he
    exact ⟨.usage, _, by decide, rfl⟩

theorem deals_inScope (q : Query) (c : Context) :
    (q.inScope c : Action σ Locator).Deals around store stray (Spotless fun _ => True) := by
  rw [inScope]
  exact (deals_requireSelector _ _).bind fun _ _ => .pure trivial

theorem deals_underFocus (q : Query) (hc : c.Located) :
    (q.underFocus c : Action σ Locator).Deals around store stray (Spotless fun _ => True) := by
  rw [underFocus]
  refine (deals_requireSelector _ _).bind fun _ _ => ?_
  cases hfocus : c.focus with
  | none => exact .raise _ (by decide)
  | some f => exact (Context.deals_through hc hfocus _).bind fun _ _ => .pure trivial

end Query

namespace Filter

theorem deals_requireCollection (c : Context) (label : String) :
    (Action.ofExcept (requireCollection c label) : Action σ (List Locator)).Deals around store
      stray (Spotless fun _ => True) := by
  refine .compute (fun _ _ => trivial) fun e he => ?_
  rw [requireCollection] at he
  split at he <;> cases he
  · exact ⟨.usage, _, by decide, rfl⟩
  · exact ⟨.resolution, _, by decide, rfl⟩

theorem deals_storedItem {key : Value} (hkey : key.isOptionalText = true) (c : Context) :
    (storedItem key c : Action σ Value).Deals around c.items stray
      (Spotless (Value.isOptionalText · = true)) := by
  rw [storedItem]
  refine Deals.items.bind fun kept hkept => ?_
  rw [ItemStore.checkKey_text hkey]
  have htext : ∀ v, kept.get key = .ok v → v.isOptionalText = true := by
    intro v hv
    obtain ⟨s, rfl⟩ := hkept.get hv
    rfl
  refine .compute htext fun e he => ?_
  rw [ItemStore.get] at he
  split at he <;> cases he
  exact ⟨.missingItem, _, by decide, rfl⟩

section Asking

variable (hdriver : around.driver.RaisesOwn)

include hdriver

theorem deals_matchesText (wanted : String) (l : Locator) :
    (matchesText (.str wanted) l).Deals around store stray (Spotless fun _ => True) := by
  rw [matchesText]
  refine (Deals.call hdriver fun _ => rfl).bind fun text _ => ?_
  cases text <;> exact .pure trivial

theorem deals_firstMatch (wanted : String) (ls : List Locator) :
    (firstMatch (.str wanted) ls).Deals around store stray (Spotless fun _ => True) := by
  induction ls with
  | nil => exact .pure trivial
  | cons l rest ih =>
    refine (deals_matchesText hdriver wanted l).bind fun hit _ => ?_
    cases hit with
    | false => exact ih
    | true => exact .pure trivial

theorem deals_lastMatch (wanted : String) (ls : List Locator) (found : Option Locator) :
    (lastMatch (.str wanted) ls found).Deals around store stray (Spotless fun _ => True) := by
  induction ls generalizing found with
  | nil => exact .pure trivial
  | cons l rest ih => exact (deals_matchesText hdriver wanted l).bind fun hit _ => ih _

end Asking

end Filter

namespace Interact

theorem orEmpty_str_not_mute (s : String) : ¬ (orEmpty (.str s)).Mute := by
  rw [orEmpty]
  split <;> simp [Value.Mute, Value.textObstacle]

theorem deals_focus (c : Context) (label : String) :
    (focus c label : Action σ Focus).Deals around store stray (Spotless (c.focus = some ·)) := by
  rw [focus]
  cases h : c.focus with
  | none => exact .raise _ (by decide)
  | some f => exact .pure rfl

/-- An operation on the element in focus, under the name of an action. -/
theorem deals_operation {α : Type} (hc : c.Located) {f : Focus} (hf : c.focus = some f)
    (label operation : String) {p : Locator → Action σ α}
    (hp : ∀ l, (p l).Deals around store stray (Spotless fun _ => True)) :
    (naming label (element f operation >>= p)).Deals around store stray
      (Spotless fun _ => True) :=
  .naming label ((Context.deals_through hc hf operation).bind fun l _ => hp l)

end Interact

theorem Context.deals_value (hdriver : around.driver.RaisesOwn) (hc : c.Located) :
    (c.value : Action σ Value).Deals around store stray (Spotless fun _ => True) := by
  rw [value]
  cases hfocus : c.focus with
  | none => exact .pure trivial
  | some f =>
    refine (deals_through hc hfocus _).bind fun l _ => ?_
    refine (Deals.call hdriver (k := .tagName l) fun _ => rfl).bind fun tag _ => ?_
    split
    · exact .call hdriver (k := .inputValue l) fun _ => rfl
    · exact (Deals.call hdriver (k := .text l) fun _ => rfl).bind fun text _ => .pure trivial

/-! ### Bodies of steps -/

theorem Context.Onward.refl (hc : c.Located) : c.Onward c := ⟨hc, rfl⟩

/-- A context without a failure is handed on. -/
theorem Action.Deals.handOn {P : Context → Prop} {d : Context} (hd : d.failure = none) (h : P d) :
    (Pure.pure d : Action σ Context).Deals around store stray (Context.Discloses stray P) :=
  fun m hm => ⟨hm, [], .refl around m, Context.discloses_unfailed hd h⟩

/-- The body of a step deals with faults when it is run on a context. -/
def Step.Deals (around : Surroundings σ) (stray : Prop) (s : Step σ) (c : Context) : Prop :=
  ∀ m, (m.stores c.items).Textual →
    Dealt around c.items (Answer.Discloses stray c.Onward) (Raised.Tells stray) m
      (s.body c around m)

theorem Step.deals_ofBody (name : String) (args : List (String × Value))
    {body : Context → Action σ Context}
    (h : (body c).Deals around c.items stray (Context.Discloses stray c.Onward)) :
    (ofBody name args body).Deals around stray c :=
  fun m hm => ofBody_dealt name args (h m hm)

/-- A step that is run first has told of its faults when it comes back with a failure; there were
none when it does not, and the rest goes on from there. -/
theorem Step.Deals.unlessFailed {s : Step σ} (hs : s.Deals around stray c) (hc : c.failure = none)
    {act : Context → Action σ Context}
    (hact : ∀ d : Context, d.failure = none → c.Onward d →
      (act d).Deals around c.items stray (Context.Discloses stray c.Onward)) :
    (s.execute c >>= fun d => if d.hasFailure then pure d else act d).Deals around c.items stray
      (Context.Discloses stray c.Onward) := by
  intro m hm
  have hexecuted : Dealt around c.items (Context.Discloses stray c.Onward) Raised.Mutes m
      (s.execute c none around m) := execute_dealt hc hm fun n _ hn => hs n hn
  obtain ⟨htextual, xs, hxs, htold⟩ := hexecuted
  rw [Action.bind_run]
  rcases hrun : s.execute c none around m with ⟨d | e | _, n⟩ <;>
    rw [hrun] at htextual hxs htold
  · dsimp only at htold ⊢
    cases hd : d.failure with
    | none =>
      rw [Context.Discloses, hd] at htold
      obtain ⟨honward, hfaults⟩ := htold
      rw [if_neg (by simp [Context.hasFailure_of_none hd])]
      exact .after hxs hfaults (hact d hd honward n htextual)
    | some f =>
      rw [if_pos (Context.hasFailure_of_ne (by simp [hd]))]
      exact ⟨htextual, xs, hxs, htold⟩
  · exact ⟨htextual, xs, hxs, htold.tells stray⟩
  · exact ⟨htextual, xs, hxs, trivial⟩

namespace Step

/-- A call that is no wait, under the name of an action. -/
theorem deals_named (hdriver : around.driver.RaisesOwn) {k : Call} (label : String)
    (hk : ∀ e, Fault.isMissedWait ⟨k, e⟩ = false) :
    (Interact.naming label (Action.call k)).Deals around store stray (Spotless fun _ => True) :=
  .naming label (.call hdriver hk)

/-- The last check of a step: the context is handed on, or an error of a step is raised. -/
theorem deals_check {d : Context} (hd : d.failure = none) (h : c.Onward d) (holds : Bool)
    {cls : StepErrorClass} (message : String) (hcls : cls.failureKind ≠ .unexpected) :
    (if holds then pure d else Action.raise (.ofText (.step cls) message) :
      Action σ Context).Deals around store stray (Context.Discloses stray c.Onward) := by
  cases holds with
  | true => exact .handOn hd h
  | false => exact .raise message hcls

/-- Keeping a text deals with faults, and strays only if there is none. -/
theorem deals_keepText (hc : c.failure = none) (hlocated : c.Located) {key value : Value}
    (hkey : key.isOptionalText = true) (hmute : value.Mute → stray) :
    (Interact.keepText c key value : Action σ Context).Deals around c.items stray
      (Context.Discloses stray c.Onward) := by
  refine Deals.items.bind fun store hstore => ?_
  rcases value.readText_cases with ⟨h, type, htext⟩ | ⟨-, htext⟩
  · have hput : store.put key value = .error (Raised.noText type) := by
      rw [ItemStore.put, htext]
      rfl
    rw [hput]
    exact fun m hm => ⟨hm, [], .refl around m, .stray (hmute h)⟩
  · have hput : store.put key value = .ok (store.set key (.str value.text)) := by
      rw [ItemStore.put, htext, ItemStore.checkKey_text hkey]
      rfl
    rw [hput]
    refine (Deals.pure (P := ItemStore.Textual) (hstore.set key _)).bind fun kept hkept => ?_
    refine (Deals.changeItems fun _ _ => hkept).bind fun _ _ => ?_
    exact .handOn hc (.refl hlocated)

end Step

section Bodies

variable (hdriver : around.driver.RaisesOwn) (hsettings : around.settings = .ok settings)
  (hc : c.failure = none) (hlocated : c.Located)

include hdriver hc hlocated

section Settings

include hsettings

theorem Query.deals_focusing (q : Query) {index : Value} (hindex : index.number?.isSome = true)
    {place : Query → Context → Action σ Locator}
    (hplace : (place q c).Deals around c.items stray (Spotless fun _ => True)) :
    (q.focusing index place).Deals around stray c := by
  refine Step.deals_ofBody _ _ (hplace.bind fun l _ => ?_)
  refine (deals_one hdriver hsettings q hindex l).bind fun found _ => ?_
  exact .handOn hc ((Context.Onward.refl hlocated).withFocus found)

theorem Query.deals_collecting (q : Query) {place : Query → Context → Action σ Locator}
    (hplace : (place q c).Deals around c.items stray (Spotless fun _ => True)) :
    (q.collecting place).Deals around stray c := by
  refine Step.deals_ofBody _ _ (hplace.bind fun l _ => ?_)
  refine (deals_all hdriver hsettings q l).bind fun found _ => ?_
  exact .handOn hc ((Context.Onward.refl hlocated).withCollection found)

/-- What is done to an element that a selector is found for first, or to the one in focus. -/
theorem Interact.deals_afterFinding (selector : Value) {index : Value}
    (hindex : index.number?.isSome = true) {act : Context → Action σ Context}
    (hact : ∀ d : Context, d.failure = none → c.Onward d →
      (act d).Deals around c.items stray (Context.Discloses stray c.Onward)) :
    (afterFinding selector index c act).Deals around c.items stray
      (Context.Discloses stray c.Onward) := by
  rw [afterFinding]
  split
  · rw [pure_bind]
    dsimp only
    rw [if_neg (by simp [Context.hasFailure_of_none hc])]
    exact hact c hc (.refl hlocated)
  · have hfind : (Step.find selector index : Step σ).Deals around stray c :=
      Query.deals_focusing hdriver hsettings hc hlocated _ hindex (Query.deals_inScope _ c)
    exact hfind.unlessFailed hc hact

end Settings

theorem Filter.deals_byText (label : String) (args : List (String × Value))
    {wanted : Context → Action σ Value} (last : Bool)
    (hwanted : (wanted c).Deals around c.items stray (Spotless (·.isOptionalText = true))) :
    (byText label args wanted last).Deals around stray c := by
  refine Step.deals_ofBody _ _ ((deals_requireCollection c label).bind fun ls _ => ?_)
  refine hwanted.bind fun w hw => ?_
  obtain rfl | ⟨s, rfl⟩ := Value.isOptionalText_cases hw
  · exact .raise _ (by decide)
  · have hfocus : ∀ found, (focusFound (.str s) c found : Action σ Context).Deals around c.items
        stray (Context.Discloses stray c.Onward) := by
      intro found
      cases found with
      | none => exact .raise _ (by decide)
      | some l => exact .handOn hc ((Context.Onward.refl hlocated).withFocus l)
    cases last with
    | true => exact (deals_lastMatch hdriver s ls none).bind fun found _ => hfocus found
    | false => exact (deals_firstMatch hdriver s ls).bind fun found _ => hfocus found

namespace Step

open Interact

theorem deals_goto (url : Value) : (goto url : Step σ).Deals around stray c := by
  refine deals_ofBody _ _ ((deals_requireValue _ _ _).bind fun url _ => ?_)
  refine (Deals.call hdriver (k := .goto c.session url) fun _ => rfl).bind fun _ _ => ?_
  exact .handOn hc (Context.Onward.refl hlocated).withoutScope

theorem deals_script (source : Value) (args : List Value) :
    (script source args : Step σ).Deals around stray c := by
  refine deals_ofBody _ _ ((deals_requireValue _ _ _).bind fun source _ => ?_)
  refine (deals_named hdriver _ fun _ => rfl).bind fun _ _ => ?_
  exact .handOn hc (.refl hlocated)

theorem deals_switchToFrame (selector : Value) :
    (switchToFrame selector : Step σ).Deals around stray c := by
  refine deals_ofBody _ _ ((deals_requireValue _ _ _).bind fun selector _ => ?_)
  refine (deals_named hdriver _ fun _ => rfl).bind fun frame _ => ?_
  exact .handOn hc ((Context.Onward.refl hlocated).withScope frame)

theorem deals_pressing {name : String} {args : List (String × Value)} (key : Value) :
    (ofBody name args (pressing key) : Step σ).Deals around stray c := by
  refine deals_ofBody _ _ ((deals_requireValue _ _ _).bind fun key _ => ?_)
  refine (deals_focus c _).bind fun f hf => ?_
  refine (deals_operation hlocated hf _ _ fun l =>
    .call hdriver (k := .press l key) fun _ => rfl).bind fun _ _ => ?_
  exact .handOn hc (.refl hlocated)

theorem deals_storeText {key : Value} (hkey : key.isOptionalText = true) :
    (storeText key : Step σ).Deals around stray c := by
  refine deals_ofBody _ _ ((deals_requireValue _ _ _).bind fun key' hkey' => ?_)
  subst hkey'
  refine (deals_focus c _).bind fun f hf => ?_
  refine (Context.deals_through hlocated hf _).bind fun l _ => ?_
  refine (Deals.call hdriver (k := .text l) fun _ => rfl).bind fun text _ => ?_
  refine deals_keepText hc hlocated hkey fun hmute => absurd hmute ?_
  cases text with
  | none => decide
  | some s => exact Interact.orEmpty_str_not_mute s

omit hdriver in
/-- A step that stores an item deals with faults, and strays only if the value has no text. -/
theorem deals_setItem {key value : Value} (hkey : key.isOptionalText = true)
    (hmute : key.isNone = false → value.Mute → stray) :
    (setItem key value : Step σ).Deals around stray c := by
  obtain rfl | ⟨s, rfl⟩ := Value.isOptionalText_cases hkey
  · exact deals_ofBody _ _ (Deals.bind (P := fun _ => False) (.raise _ (by decide))
      fun _ => False.elim)
  · refine deals_ofBody _ _ ((deals_requireValue _ _ _).bind fun key' hkey' => ?_)
    subst hkey'
    refine (deals_requireValue _ _ _).bind fun value' hvalue' => ?_
    subst hvalue'
    exact deals_keepText hc hlocated hkey (hmute rfl)

omit hdriver in
theorem deals_clearItem {key : Value} (hkey : key.isOptionalText = true) :
    (clearItem key : Step σ).Deals around stray c := by
  refine deals_ofBody _ _ ?_
  split
  · refine (Deals.changeItems fun _ _ => ItemStore.textual_empty).bind fun _ _ => ?_
    exact .handOn hc (.refl hlocated)
  · refine Deals.items.bind fun kept hkept => ?_
    have hremove : (Action.ofExcept (kept.remove key) : Action σ ItemStore).Deals around c.items
        stray (Spotless ItemStore.Textual) := by
      refine .compute (fun left hleft => hkept.remove hleft) fun e he => ?_
      rw [ItemStore.remove, ItemStore.checkKey_text hkey] at he
      split at he <;> cases he
    refine hremove.bind fun left hleft => ?_
    refine (Deals.changeItems fun _ _ => hleft).bind fun _ _ => ?_
    exact .handOn hc (.refl hlocated)

theorem deals_assertTitle (expected : Value) :
    (assertTitle expected : Step σ).Deals around stray c := by
  refine deals_ofBody _ _ ((Deals.call hdriver (k := .title c.session) fun _ => rfl).bind
    fun actual _ => ?_)
  exact deals_check hc (.refl hlocated) _ _ (by decide)

theorem deals_assertAttribute {name expected : Value} {s : Step σ}
    (h : assertAttribute name expected = .ok s) : s.Deals around stray c := by
  unfold assertAttribute at h
  split at h
  · cases h
  · cases h
    refine deals_ofBody _ _ ((deals_focus c _).bind fun f hf => ?_)
    refine (Context.deals_through hlocated hf _).bind fun l _ => ?_
    refine (Deals.call hdriver (k := .readAttribute l name) fun _ => rfl).bind fun actual _ => ?_
    exact deals_check hc (.refl hlocated) _ _ (by decide)

section Settings

include hsettings

/-- An action on the element in focus, which a selector may be looked up for first. -/
theorem deals_acting {name : String} {args : List (String × Value)} (selector : Value)
    {index : Value} (hindex : index.number?.isSome = true) {act : Context → Action σ Context}
    (hact : ∀ d : Context, d.failure = none → c.Onward d →
      (act d).Deals around c.items stray (Context.Discloses stray c.Onward)) :
    (ofBody name args (afterFinding selector index · act)).Deals around stray c :=
  deals_ofBody _ _ (deals_afterFinding hdriver hsettings hc hlocated selector hindex hact)

theorem deals_click (selector : Value) {index : Value} (timeout : Value)
    (hindex : index.number?.isSome = true) :
    (click selector index timeout : Step σ).Deals around stray c := by
  refine deals_acting hdriver hsettings hc hlocated selector hindex fun d hd honward => ?_
  refine (deals_focus d _).bind fun f hf => ?_
  refine (deals_operation honward.located hf _ _ fun l => ?_).bind fun _ _ => .handOn hd honward
  exact (Deals.timeout hsettings _ _).bind fun wait _ =>
    .call hdriver (k := .click l wait) fun _ => rfl

theorem deals_doubleClick (selector : Value) :
    (doubleClick selector : Step σ).Deals around stray c := by
  refine deals_acting hdriver hsettings hc hlocated selector rfl fun d hd honward => ?_
  refine (deals_focus d _).bind fun f hf => ?_
  refine (deals_operation honward.located hf _ _ fun l => ?_).bind fun _ _ => .handOn hd honward
  exact .call hdriver (k := .doubleClick l) fun _ => rfl

theorem deals_setText {text selector : Value} {s : Step σ} (h : setText text selector = .ok s) :
    s.Deals around stray c := by
  obtain ⟨chars, rfl⟩ := setText_ok h
  refine deals_acting hdriver hsettings hc hlocated selector rfl fun d hd honward => ?_
  refine (deals_requireValue _ _ _).bind fun text _ => (deals_focus d _).bind fun f hf => ?_
  refine (deals_operation honward.located hf _ _ fun l => ?_).bind fun _ _ => .handOn hd honward
  refine (Deals.call hdriver (k := .tagName l) fun _ => rfl).bind fun tag _ => ?_
  split
  · refine (Deals.call hdriver (k := .click l .none) fun _ => rfl).bind fun _ _ => ?_
    exact (Deals.call hdriver (k := .selectOption l text.typed) fun _ => rfl).bind
      fun _ _ => .pure trivial
  · exact .call hdriver (k := .fill l text.typed) fun _ => rfl

theorem deals_selectComboText (value selector : Value) :
    (selectComboText value selector : Step σ).Deals around stray c := by
  refine deals_acting hdriver hsettings hc hlocated selector rfl fun d hd honward => ?_
  refine (deals_requireValue _ _ _).bind fun value _ => (deals_focus d _).bind fun f hf => ?_
  refine (deals_operation honward.located hf _ _ fun l =>
    .call hdriver (k := .selectOption l value) fun _ => rfl).bind fun chosen _ => ?_
  split
  · exact .raise _ (by decide)
  · exact .handOn hd honward

theorem deals_followLink (selector title timeout : Value) :
    (followLink selector title timeout : Step σ).Deals around stray c := by
  refine deals_ofBody _ _ ((deals_requireValue _ _ _).bind fun selector _ => ?_)
  refine (deals_requireValue _ _ _).bind fun title _ => ?_
  refine (deals_click hdriver hsettings hc hlocated selector .none rfl).unlessFailed hc
    fun d hd honward => ?_
  refine (Deals.timeout hsettings _ _).bind fun wait _ => ?_
  refine (deals_named hdriver _ fun _ => rfl).bind fun _ _ => ?_
  refine (Deals.call hdriver (k := .title c.session) fun _ => rfl).bind fun actual _ => ?_
  exact deals_check hd honward _ _ (by decide)

end Settings

end Step

end Bodies

/-- A check for a part of a text was started without a text to look for, and the text of the element
in focus was read; or an item was to be kept that has no text, be it what a step was given or what
was read of the element in focus. -/
inductive Start.Strays (around : Surroundings σ) : Start σ → Prop
  | part {contains : Value} {l : Locator} {text : Option String} {c : Context} {m : Machine σ}
    (hcontains : contains.isTrue = true) (hfocus : c.focus = some (.element l))
    (hreply : around.driver.reply (.text l) m.world = .done text) :
    Strays around ⟨.assertText .none contains, c, m⟩
  | item {key value : Value} {c : Context} {m : Machine σ} (hkey : key.isNone = false)
    (hvalue : value.Mute) : Strays around ⟨.setItem key value, c, m⟩
  | value {key value : Value} {c : Context} {m n : Machine σ} (hkey : key.isNone = false)
    (hread : c.value around m = (.done value, n)) (hvalue : (Interact.orEmpty value).Mute) :
    Strays around ⟨.storeValue key, c, m⟩

namespace Step

variable (hdriver : around.driver.RaisesOwn) (hc : c.failure = none) (hlocated : c.Located)

include hdriver hc hlocated

/-- A check of a text deals with faults, unless it is for a part that is no text. -/
theorem deals_assertText {expected contains : Value}
    (h : (∃ s, expected = .str s) ∨ contains.isTrue = false) :
    (assertText expected contains : Step σ).Deals around stray c := by
  refine deals_ofBody _ _ ((Interact.deals_focus c _).bind fun f hf => ?_)
  refine (Context.deals_through hlocated hf _).bind fun l _ => ?_
  refine (Deals.call hdriver (k := .text l) fun _ => rfl).bind fun text _ => ?_
  dsimp only
  split
  case isTrue hcontains =>
    obtain ⟨s, rfl⟩ : ∃ s, expected = .str s := h.resolve_right (by simp [hcontains])
    refine (Deals.pure (P := fun _ => True) trivial).bind fun holds _ => ?_
    exact deals_check hc (.refl hlocated) _ _ (by decide)
  case isFalse =>
    refine (Deals.pure (P := fun _ => True) trivial).bind fun holds _ => ?_
    exact deals_check hc (.refl hlocated) _ _ (by decide)

omit hdriver hc hlocated in
/-- The body of a check for a part that is no text reads the text of the element in focus, and
then raises an error of types. -/
theorem assertText_none {contains : Value} (hcontains : contains.isTrue = true) {l : Locator}
    (hfocus : c.focus = some (.element l)) (around : Surroundings σ) (m : Machine σ) :
    ((assertText .none contains).body c around m : Outcome Answer × Machine σ) =
      match Action.call (.text l) around m with
      | (.done _, n) =>
        (.raised (.typeError "'in <string>' requires string as left operand, not NoneType"), n)
      | (.raised e, n) => (.raised e, n)
      | (.endless, n) => (.endless, n) := by
  rw [assertText, ofBody_run]
  simp only [Interact.focus, hfocus, pure_bind, Interact.element, Focus.through, hcontains, if_true]
  rw [Action.bind_done (Action.ofExcept_ok around m l), Action.bind_run]
  rcases Action.call (.text l) around m with ⟨text | e | _, n⟩ <;> rfl

omit hc in
/-- A check for a part of a text that is given no text strays once the text was read. -/
theorem assertText_strays {contains : Value} (hcontains : contains.isTrue = true) {m : Machine σ}
    (hm : (m.stores c.items).Textual) :
    Dealt around c.items
      (Answer.Discloses (Start.Strays around ⟨.assertText .none contains, c, m⟩) c.Onward)
      (Raised.Tells (Start.Strays around ⟨.assertText .none contains, c, m⟩)) m
      ((assertText .none contains).body c around m) := by
  cases hfocus : c.focus with
  | none =>
    refine deals_ofBody _ _ ((Interact.deals_focus c "assert_text").bind fun f hf => ?_) m hm
    rw [hfocus] at hf
    cases hf
  | some f =>
    obtain ⟨l, rfl⟩ := hlocated f hfocus
    have hbody := assertText_none hcontains hfocus around m
    have hstores := Deals.call_stores (k := .text l) around m
    rw [hbody]
    rcases hcall : Action.call (.text l) around m with ⟨text | e | _, n⟩
    all_goals
      have hasked := Exchanged.of_call hcall
      rw [hcall] at hstores
      have hn : (n.stores c.items).Textual := by rwa [hstores]
    · have hreply : around.driver.reply (.text l) m.world = .done text := by
        rw [← Action.call_reply, hcall]
      exact ⟨hn, _, hasked, .stray (.part hcontains hfocus hreply)⟩
    · exact ⟨hn, _, hasked,
        .passed (x := ⟨.text l, e⟩) (Deals.cls_of_call hdriver hcall) rfl⟩
    · exact ⟨hn, _, hasked, trivial⟩

/-- A step that keeps the value of the element in focus strays if it has no text. -/
theorem storeValue_strays {key : Value} (hkey : key.isOptionalText = true) {m : Machine σ}
    (hm : (m.stores c.items).Textual) :
    Dealt around c.items
      (Answer.Discloses (Start.Strays around ⟨.storeValue key, c, m⟩) c.Onward)
      (Raised.Tells (Start.Strays around ⟨.storeValue key, c, m⟩)) m
      ((storeValue key).body c around m) := by
  refine ofBody_dealt _ _ ?_
  obtain rfl | ⟨s, rfl⟩ := Value.isOptionalText_cases hkey
  · exact Deals.bind (P := fun _ => False) (.raise _ (by decide)) (fun _ => False.elim) m hm
  · cases hfocus : c.focus with
    | none =>
      refine (Interact.deals_focus c "store_value").bind (fun f hf => ?_) m hm
      rw [hfocus] at hf
      cases hf
    | some f =>
      change Dealt around c.items _ _ m
        (((Interact.focus c "store_value" : Action σ Focus) >>= fun _ => c.value >>= fun value =>
          Interact.keepText c (.str s) (Interact.orEmpty value)) around m)
      rw [Interact.focus, hfocus, pure_bind]
      refine (Context.deals_value hdriver hlocated).bind_dealt hm fun value n hread _ => ?_
      exact deals_keepText hc hlocated hkey fun hmute => .value rfl hread hmute

end Step

/-- The body of a typed step deals with faults, and strays only as it is known to. -/
theorem Step.Typed.dealt {s : Step σ} (h : s.Typed) (hdriver : around.driver.RaisesOwn)
    (hsettings : around.settings = .ok settings) (hc : c.failure = none) (hlocated : c.Located)
    {m : Machine σ} (hm : (m.stores c.items).Textual) :
    Dealt around c.items (Answer.Discloses (Start.Strays around ⟨s, c, m⟩) c.Onward)
      (Raised.Tells (Start.Strays around ⟨s, c, m⟩)) m (s.body c around m) := by
  cases h with
  | one q hindex =>
    exact q.deals_focusing hdriver hsettings hc hlocated hindex (q.deals_inScope c) m hm
  | all q => exact q.deals_collecting hdriver hsettings hc hlocated (q.deals_inScope c) m hm
  | oneUnder q hindex =>
    exact q.deals_focusing hdriver hsettings hc hlocated hindex (q.deals_underFocus hlocated) m hm
  | allUnder q =>
    exact q.deals_collecting hdriver hsettings hc hlocated (q.deals_underFocus hlocated) m hm
  | firstContainingText htext | lastContainingText htext =>
    exact Filter.deals_byText hdriver hc hlocated _ _ _
      (.pure (P := (Value.isOptionalText · = true)) htext) m hm
  | firstContainingItem hkey | lastContainingItem hkey =>
    exact Filter.deals_byText hdriver hc hlocated _ _ _ (Filter.deals_storedItem hkey c) m hm
  | goto url => exact Step.deals_goto hdriver hc hlocated url m hm
  | click selector timeout hindex =>
    exact Step.deals_click hdriver hsettings hc hlocated selector timeout hindex m hm
  | doubleClick selector => exact Step.deals_doubleClick hdriver hsettings hc hlocated selector m hm
  | setText h => exact Step.deals_setText hdriver hsettings hc hlocated h m hm
  | press key => exact Step.deals_pressing hdriver hc hlocated key m hm
  | pressEnter => exact Step.deals_pressing hdriver hc hlocated _ m hm
  | selectComboText value selector =>
    exact Step.deals_selectComboText hdriver hsettings hc hlocated value selector m hm
  | script source args => exact Step.deals_script hdriver hc hlocated source args m hm
  | switchToFrame selector => exact Step.deals_switchToFrame hdriver hc hlocated selector m hm
  | switchToDefault =>
    exact Step.deals_ofBody _ _ (.handOn (P := c.Onward) (d := c.withoutScope) hc
      (Context.Onward.refl hlocated).withoutScope) m hm
  | followLink selector title timeout =>
    exact Step.deals_followLink hdriver hsettings hc hlocated selector title timeout m hm
  | storeText hkey => exact Step.deals_storeText hdriver hc hlocated hkey m hm
  | storeValue hkey => exact Step.storeValue_strays hdriver hc hlocated hkey hm
  | setItem value hkey => exact Step.deals_setItem hc hlocated hkey .item m hm
  | clearItem hkey => exact Step.deals_clearItem hc hlocated hkey m hm
  | assertAttribute h => exact Step.deals_assertAttribute hdriver hc hlocated h m hm
  | assertTitle expected => exact Step.deals_assertTitle hdriver hc hlocated expected m hm
  | @assertText expected contains htext =>
    obtain rfl | hs := Value.isOptionalText_cases htext
    · by_cases hcontains : contains.isTrue = true
      · exact Step.assertText_strays hdriver hlocated hcontains hm
      · exact Step.deals_assertText hdriver hc hlocated (.inr (by simpa using hcontains)) m hm
    · exact Step.deals_assertText hdriver hc hlocated (.inl hs) m hm

/-- What has no text cannot be kept. -/
theorem Interact.keepText_mute (key : Value) {value : Value} (h : value.Mute) (c : Context)
    (around : Surroundings σ) (m : Machine σ) :
    ∃ message, (keepText c key value : Action σ Context) around m =
      (.raised (.typeError message), m) := by
  rcases value.readText_cases with ⟨-, type, htext⟩ | ⟨hother, -⟩
  · have hput : (m.stores c.items).put key value = .error (Raised.noText type) := by
      rw [ItemStore.put, htext]
      rfl
    have hkept : (keepText c key value : Action σ Context) around m =
        (.raised (Raised.noText type), m) := by
      change (Action.ofExcept ((m.stores c.items).put key value) >>= _ : Action σ Context)
        around m = _
      rw [hput]
      rfl
    exact ⟨_, hkept⟩
  · exact absurd h hother

theorem Start.ending_of_typeError {start : Start σ} {message : String} {n : Machine σ}
    (h : start.step.body start.context around start.machine = (.raised (.typeError message), n)) :
    start.ending around = .raised (.typeError message) := by
  rw [Start.ending, Step.call, Action.awaited_run, h]
  rfl

/-- A step that strays ends with an error of types. -/
theorem Start.Strays.ending {start : Start σ} (h : start.Strays around) :
    ∃ message, start.ending around = .raised (.typeError message) := by
  cases h with
  | @part contains l text c m hcontains hfocus hreply =>
    have hcall : ∃ n, Action.call (.text l) around m = (.done text, n) :=
      ⟨_, Prod.ext ((Action.call_reply (.text l) around m).trans hreply) rfl⟩
    obtain ⟨n, hcall⟩ := hcall
    have hbody := Step.assertText_none hcontains hfocus around m
    rw [hcall] at hbody
    exact ⟨_, ending_of_typeError hbody⟩
  | @item key value c m hkey hvalue =>
    obtain ⟨message, hkept⟩ := Interact.keepText_mute key hvalue c around m
    have hsome : value.isNone = false := by
      cases value <;> first | rfl | exact absurd rfl hvalue
    have hbody : (Step.setItem key value).body c around m =
        (.raised (.typeError message), m) := by
      rw [Step.setItem, Step.ofBody_run]
      simp only [Step.requireValue, hkey, hsome, Bool.false_eq_true, if_false, pure_bind, hkept]
    exact ⟨message, ending_of_typeError hbody⟩
  | @value key value c m n hkey hread hvalue =>
    cases hfocus : c.focus with
    | none =>
      rw [Context.value, hfocus] at hread
      cases hread
      exact absurd rfl hvalue
    | some f =>
      obtain ⟨message, hkept⟩ := Interact.keepText_mute key hvalue c around n
      have hbody : (Step.storeValue key).body c around m =
          (.raised (.typeError message), n) := by
        rw [Step.storeValue, Step.ofBody_run]
        simp only [Step.requireValue, hkey, Bool.false_eq_true, if_false, pure_bind,
          Interact.focus, hfocus, Action.bind_done hread, hkept]
      exact ⟨message, ending_of_typeError hbody⟩

end BrowserFlow
