import BrowserFlow.Proofs.Tree
import BrowserFlow.Proofs.Work

/-!
# Atomic steps

What the body of an atomic step does: it works for the context it is given and hands on one that
follows it, or one step is run first and the work goes on from what that hands on, unless it has
failed. Items are only kept when nothing can go wrong any more. The same goes for the steps that
choose, check or fail with the help of callbacks, as far as their callbacks do no more.
-/
namespace BrowserFlow

open BrowserFlow.Context (Follows Stays)

variable {σ : Type}

/-- What the body of an atomic step does for a context: `P` is known of the context that it hands
on, unless that has failed. -/
inductive Deed (around : Surroundings σ) (L : Leeway σ) :
    Bool → (Context → Prop) → Context → Action σ Context → Prop
  | work {keeps : Bool} {P : Context → Prop} {c : Context} {p : Action σ Context}
    (h : Work around L c p P) : Deed around L keeps P c p
  | after {keeps : Bool} {P : Context → Prop} {c : Context} {α : Type} {Q : α → Prop}
    {p : Action σ α} {f : α → Action σ Context} (hp : Work around L c p Q)
    (hf : ∀ a, Q a → Deed around L keeps P c (f a)) : Deed around L keeps P c (p >>= f)
  /-- Items are kept, at the very end, by steps that may do so. -/
  | keep {P : Context → Prop} {c : Context} (f : ItemStore → ItemStore) (h : P c) :
    Deed around L true P c (do
      Action.changeItems c.items f
      return c)
  | fail {keeps : Bool} {P : Context → Prop} {c : Context} (payload step : Value) :
    Deed around L keeps P c (c.withFailure payload step)
  /-- A step is run first, one that keeps no items. -/
  | onward {keeps : Bool} {P : Context → Prop} {c : Context} {name : String}
    {args : List (String × Value)} {body act : Context → Action σ Context}
    (hbody : ∀ d, Deed around L false (Stays · d) d (body d))
    (hact : ∀ d, d.Stays c → Work around L d (act d) P) :
    Deed around L keeps P c
      ((Step.ofBody name args body).execute c >>= fun d => if d.hasFailure then pure d else act d)

theorem Deed.mono {around : Surroundings σ} {L : Leeway σ} {keeps : Bool} {P Q : Context → Prop}
    {c : Context} {p : Action σ Context} (h : Deed around L keeps P c p)
    (hPQ : ∀ d, P d → Q d) : Deed around L keeps Q c p := by
  induction h with
  | work h => exact .work (h.mono hPQ)
  | after hp _ ih => exact .after hp fun a ha => ih a ha hPQ
  | keep f h => exact .keep f (hPQ _ h)
  | fail payload step => exact .fail payload step
  | onward hbody hact _ => exact .onward hbody fun d hd => (hact d hd).mono hPQ

/-- A step whose body does such deeds, for whatever context it is given; `R` relates the context
that it hands on to that one. -/
def Step.Does (around : Surroundings σ) (L : Leeway σ) (keeps : Bool)
    (R : Context → Context → Prop) (s : Step σ) : Prop :=
  ∃ name args body, s = .ofBody name args body ∧ ∀ c, Deed around L keeps (R · c) c (body c)

variable {around : Surroundings σ} {L : Leeway σ} {keeps : Bool}
  {R : Context → Context → Prop}

theorem Step.Does.mono {Q : Context → Context → Prop} {s : Step σ}
    (h : s.Does around L keeps R) (hRQ : ∀ {d c}, R d c → Q d c) : s.Does around L keeps Q := by
  obtain ⟨name, args, body, rfl, hbody⟩ := h
  exact ⟨name, args, body, rfl, fun c => (hbody c).mono fun _ => hRQ⟩

theorem Step.does_work {name : String} {args : List (String × Value)}
    {body : Context → Action σ Context} (h : ∀ c, Work around L c (body c) (R · c)) :
    (Step.ofBody name args body).Does around L keeps R :=
  ⟨name, args, body, rfl, fun c => .work (h c)⟩

/-- The context that was given is handed on as it is. -/
theorem Work.same (c : Context) : Work around L c (Pure.pure c : Action σ Context) (Stays · c) :=
  .pure (.refl c)

namespace Query

theorem does_focusing (q : Query) (index : Value) {place : Query → Context → Action σ Locator}
    (hplace : ∀ c, Work around L c (place q c) fun l => c.Sound → l.scope = c.scope) :
    (q.focusing index place).Does around L keeps Stays :=
  Step.does_work fun c => (hplace c).bind fun _ hl =>
    (q.work_one index hl).bind fun _ hfound =>
      .pure (.withFocus c fun hc => hfound.trans (hl hc))

theorem does_collecting (q : Query) {place : Query → Context → Action σ Locator}
    (hplace : ∀ c, Work around L c (place q c) fun l => c.Sound → l.scope = c.scope) :
    (q.collecting place).Does around L keeps Stays :=
  Step.does_work fun c => (hplace c).bind fun _ hl =>
    (q.work_all hl).bind fun _ hfound =>
      .pure (.withCollection c fun hc l' hl' => (hfound l' hl').trans (hl hc))

end Query

namespace Filter

theorem requireCollection_ok {c : Context} {label : String} {ls : List Locator}
    (h : requireCollection c label = .ok ls) : c.collection = some ls := by
  unfold requireCollection at h
  split at h <;> simp_all

theorem does_byText (label : String) (args : List (String × Value))
    {wanted : Context → Action σ Value}
    (hwanted : ∀ c, Work around L c (wanted c) fun _ => True) (last : Bool) :
    (byText label args wanted last).Does around L keeps Stays := by
  refine Step.does_work fun c => ?_
  refine (Work.compute (recordableIn_requireCollection c label)
    fun ls hls => requireCollection_ok hls).bind fun ls hls => ?_
  have hscope : ∀ l ∈ ls, c.Sound → l.scope = c.scope :=
    fun l hl hc => hc.collection ls hls l hl
  refine (hwanted c).bind fun text _ => ?_
  split
  · exact .own (Raised.recordable_step _ _)
  · have hfocus : ∀ found : Option Locator, (∀ l ∈ found, l ∈ ls) →
        Work around L c (focusFound text c found) (Stays · c) := by
      intro found hmem
      cases found with
      | none => exact .own (Raised.recordable_step _ _)
      | some l => exact .pure (.withFocus c (hscope l (hmem l rfl)))
    cases last with
    | true =>
      exact (work_lastMatch text hscope none).bind fun found hfound =>
        hfocus found fun l hl => (hfound l hl).resolve_right (by simp)
    | false => exact (work_firstMatch text hscope).bind hfocus

end Filter

namespace Interact

/-- An action that works on the element in focus once that has been found. -/
theorem does_acting {name : String} {args : List (String × Value)} {selector index : Value}
    {act : Context → Action σ Context} (hact : ∀ d, Work around L d (act d) (Stays · d)) :
    (Step.ofBody name args fun c => afterFinding selector index c act).Does around L keeps
      Stays := by
  refine ⟨_, _, _, rfl, fun c => ?_⟩
  by_cases hselector : selector.isNone
  · simp only [afterFinding, hselector, if_true, pure_bind]
    split
    · exact .work (.same c)
    · exact .work (hact c)
  · obtain ⟨name', args', body, hfind, hbody⟩ :
        (Step.find selector index : Step σ).Does around L false Stays :=
      Query.does_focusing _ index (Query.work_inScope _)
    simp only [afterFinding, hselector, hfind]
    exact .onward hbody fun d hd => (hact d).mono fun _ h => hd.trans h

/-- An action on the element in focus, under the name of the step, that hands its context on. -/
theorem work_acting {α : Type} (label name operation : String) {c : Context}
    {p : Locator → Action σ α}
    (hp : ∀ l, (c.Sound → l.scope = c.scope) → Work around L c (p l) fun _ => True) :
    Work around L c (do
      let f ← focus c label
      let _ ← naming name do p (← element f operation)
      return c) (Stays · c) :=
  (work_focus c label).bind fun _ hf =>
    (work_operation name operation hf hp).bind fun _ _ => .same c

end Interact

namespace Step

open Interact

theorem does_click (selector index timeout : Value) :
    (click selector index timeout : Step σ).Does around L keeps Stays :=
  does_acting fun _ => work_acting _ _ _ fun _ hl =>
    (Work.timeout _ _).bind fun _ _ => .look hl rfl

theorem setText_ok {text selector : Value} {s : Step σ} (h : setText text selector = .ok s) :
    ∃ chars : Value,
      s = Step.ofBody "set_text" [("selector", selector), ("chars", chars)] fun c =>
        afterFinding selector (.int 0) c (typing text) := by
  unfold setText at h
  by_cases ht : text.isNone
  · simp only [ht, if_true] at h
    cases h
    exact ⟨_, rfl⟩
  · simp only [ht] at h
    rcases hn : text.length with e | n
    · rw [hn] at h; cases h
    · rw [hn] at h; cases h
      exact ⟨_, rfl⟩

theorem does_setText {text selector : Value} {s : Step σ} (h : setText text selector = .ok s) :
    s.Does around L keeps Stays := by
  obtain ⟨chars, rfl⟩ := setText_ok h
  refine does_acting fun c => (work_requireValue _ _ _).bind fun text _ => ?_
  refine work_acting _ _ _ fun l hl => (Work.look hl rfl).bind fun tag _ => ?_
  split
  · refine (Work.look hl rfl).bind fun _ _ => ?_
    exact (Work.look hl rfl).bind fun _ _ => .pure trivial
  · exact .look hl rfl

theorem does_pressing {name : String} {args : List (String × Value)} (key : Value) :
    (Step.ofBody name args (pressing key) : Step σ).Does around L keeps Stays :=
  does_work fun _ => (work_requireValue _ _ _).bind fun _ _ =>
    work_acting _ _ _ fun _ hl => .look hl rfl

theorem does_selectComboText (value selector : Value) :
    (selectComboText value selector : Step σ).Does around L keeps Stays := by
  refine does_acting fun c => (work_requireValue _ _ _).bind fun value _ => ?_
  refine (work_focus c _).bind fun f hf => ?_
  refine (work_operation (P := fun _ => True) _ _ hf fun l hl =>
    Work.look (k := .selectOption l value) hl rfl).bind fun chosen _ => ?_
  split
  · exact .own (Raised.recordable_step _ _)
  · exact .same c

theorem does_followLink (selector title timeout : Value) :
    (followLink selector title timeout : Step σ).Does around L keeps Stays := by
  refine ⟨_, _, _, rfl, fun c => .after (work_requireValue _ _ _) fun selector _ => ?_⟩
  refine .after (work_requireValue _ _ _) fun title _ => ?_
  obtain ⟨name, args, body, hclick, hbody⟩ : (click selector : Step σ).Does around L false
      Stays := does_click _ _ _
  simp only [hclick]
  refine .onward hbody fun d hd => (Work.timeout _ _).bind fun wait _ => ?_
  refine (work_naming _ (.ask rfl)).bind fun _ _ => (Work.ask rfl).bind fun actual _ => ?_
  split
  · exact .pure hd
  · exact .own (Raised.recordable_step _ _)

/-- The end of a step that keeps a text. -/
theorem deed_keepText (c : Context) (key value : Value) :
    Deed around L true (Stays · c) c (keepText c key value) :=
  .after .items fun store _ => .after (Work.compute (P := fun _ => True)
    (store.recordableIn_put key value) fun _ _ => trivial) fun _ _ => .keep _ (.refl c)

theorem does_storeText (key : Value) :
    (storeText key : Step σ).Does around L true Stays := by
  refine ⟨_, _, _, rfl, fun c => .after (work_requireValue _ _ _) fun key _ => ?_⟩
  refine .after (work_focus c _) fun f hf => .after (work_element hf _) fun l hl => ?_
  exact .after (.look hl rfl) fun text _ => deed_keepText c key _

theorem does_storeValue (key : Value) :
    (storeValue key : Step σ).Does around L true Stays := by
  refine ⟨_, _, _, rfl, fun c => .after (work_requireValue _ _ _) fun key _ => ?_⟩
  refine .after (work_focus c _) fun _ _ => .after c.work_value fun v _ => ?_
  exact deed_keepText c key _

theorem does_setItem (key value : Value) :
    (setItem key value : Step σ).Does around L true Stays := by
  refine ⟨_, _, _, rfl, fun c => .after (work_requireValue _ _ _) fun key _ => ?_⟩
  exact .after (work_requireValue _ _ _) fun value _ => deed_keepText c key value

theorem does_clearItem (key : Value) :
    (clearItem key : Step σ).Does around L true Stays := by
  refine ⟨_, _, _, rfl, fun c => ?_⟩
  dsimp only
  split
  · exact .keep _ (.refl c)
  · refine .after .items fun store _ => ?_
    exact .after (Work.compute (P := fun _ => True) (store.recordableIn_remove key)
      fun _ _ => trivial) fun left _ => .keep _ (.refl c)

/-- The end of a check. -/
theorem work_check (c : Context) (holds : Bool) (message : String) :
    Work around L c
      (if holds then pure c else Action.raise (.assertion message) : Action σ Context)
      (Stays · c) := by
  split
  · exact .same c
  · exact .own (Raised.recordable_step _ _)

theorem does_assertAttribute {name expected : Value} {s : Step σ}
    (h : assertAttribute name expected = .ok s) : s.Does around L keeps Stays := by
  unfold assertAttribute at h
  split at h
  · cases h
  · cases h
    refine does_work fun c => (work_focus c _).bind fun f hf => ?_
    refine (work_element hf _).bind fun l hl => (Work.look hl rfl).bind fun actual _ => ?_
    exact work_check c _ _

theorem does_assertText (expected contains : Value) :
    (assertText expected contains : Step σ).Does around L keeps Stays := by
  refine does_work fun c => (work_focus c _).bind fun f hf => ?_
  refine (work_element hf _).bind fun l hl => (Work.look hl rfl).bind fun text _ => ?_
  dsimp only
  split
  · exact (Work.compute (P := fun _ => True) (expected.recordableIn_isPartOf _)
      fun _ _ => trivial).bind fun holds _ => work_check c holds _
  · exact (Work.pure (P := fun _ => True) trivial).bind fun holds _ => work_check c holds _

/-- An argument that is missing is an error of the library. -/
theorem deed_require {α : Type} {P : Context → Prop} {c : Context} {argument : Option α}
    {label what : String} {f : α → Action σ Context}
    (hf : ∀ a ∈ argument, Deed around L keeps P c (f a)) :
    Deed around L keeps P c (require argument label what >>= f) := by
  cases argument with
  | none =>
    exact .work ((Work.own (Raised.recordable_step _ _)).bind (P := fun _ => False)
      fun _ => False.elim)
  | some a => simpa [require] using hf a rfl

theorem does_goto (url : Value) :
    (goto url : Step σ).Does around L keeps fun d c => d = c.withoutScope :=
  does_work fun _ => (work_requireValue _ _ _).bind fun _ _ =>
    (Work.ask rfl).bind fun _ _ => .pure rfl

theorem does_switchToFrame (selector : Value) :
    (switchToFrame selector : Step σ).Does around L keeps fun d c =>
      ∃ frame, around.driver.Answers (.frame c.session selector) frame ∧
        d = c.withScope frame := by
  refine does_work fun c => (work_requireValue _ _ _).bind fun selector' hselector => ?_
  rw [hselector]
  exact (Interact.work_naming _ (.ask rfl)).bind fun frame hframe => .pure ⟨frame, hframe, rfl⟩

theorem does_switchToDefault :
    (switchToDefault : Step σ).Does around L keeps fun d c => d = c.withoutScope :=
  does_work fun _ => .pure rfl

/-- The steps that confine their context to another frame, or to none. -/
inductive Moves : Step σ → Prop
  | goto (url : Value) : Moves (.goto url)
  | switchToFrame (selector : Value) : Moves (.switchToFrame selector)
  | switchToDefault : Moves .switchToDefault

theorem Moves.does {s : Step σ} (h : s.Moves) : s.Does around L keeps Follows := by
  cases h with
  | goto url => exact (does_goto url).mono fun hd => hd ▸ .withoutScope _
  | switchToFrame selector =>
    refine (does_switchToFrame selector).mono ?_
    rintro _ c ⟨frame, -, rfl⟩
    exact .withScope c frame
  | switchToDefault => exact does_switchToDefault.mono fun hd => hd ▸ .withoutScope _

end Step

/-- Any other atomic step stays in the frame of its context. -/
theorem Atomic.stays {s : Step σ} (h : Atomic s) (hs : ¬ s.Moves) :
    s.Does around L true Stays := by
  cases h with
  | one q index => exact q.does_focusing index q.work_inScope
  | all q => exact q.does_collecting q.work_inScope
  | oneUnder q index => exact q.does_focusing index q.work_underFocus
  | allUnder q => exact q.does_collecting q.work_underFocus
  | firstContainingText text => exact Filter.does_byText _ _ (fun _ => .pure trivial) false
  | lastContainingText text => exact Filter.does_byText _ _ (fun _ => .pure trivial) true
  | firstContainingItem key => exact Filter.does_byText _ _ (Filter.work_storedItem key) false
  | lastContainingItem key => exact Filter.does_byText _ _ (Filter.work_storedItem key) true
  | goto url => exact absurd (.goto url) hs
  | click selector index timeout => exact Step.does_click selector index timeout
  | doubleClick selector =>
    exact Interact.does_acting fun _ => Interact.work_acting _ _ _ fun _ hl => .look hl rfl
  | setText h => exact Step.does_setText h
  | press key => exact Step.does_pressing key
  | pressEnter => exact Step.does_pressing _
  | selectComboText value selector => exact Step.does_selectComboText value selector
  | script source args =>
    exact Step.does_work fun c => (Step.work_requireValue _ _ _).bind fun _ _ =>
      (Interact.work_naming _ (.call _ fun _ s hs => by cases hs; rfl)).bind fun _ _ => .same c
  | switchToFrame selector => exact absurd (.switchToFrame selector) hs
  | switchToDefault => exact absurd .switchToDefault hs
  | followLink selector title timeout => exact Step.does_followLink selector title timeout
  | storeText key => exact Step.does_storeText key
  | storeValue key => exact Step.does_storeValue key
  | setItem key value => exact Step.does_setItem key value
  | clearItem key => exact Step.does_clearItem key
  | assertAttribute h => exact Step.does_assertAttribute h
  | assertTitle expected =>
    exact Step.does_work fun c => (Work.ask rfl).bind fun _ _ => Step.work_check c _ _
  | assertText expected contains => exact Step.does_assertText expected contains

theorem Atomic.does {s : Step σ} (h : Atomic s) : s.Does around L true Follows := by
  by_cases hs : s.Moves
  · exact hs.does
  · exact (h.stays hs).mono Stays.toFollows

namespace Step

theorem does_collectionFilter {pick : Option (Callback σ (List Locator) (Option Focus))}
    {name : Option String}
    (hpick : ∀ f ∈ pick, ∀ ls, (f.invoke ls).Keeps around L ∧ (f.invoke ls).Gives around
      fun picked => ∀ p ∈ picked, ∀ c, c.collection = some ls → R (c.withPicked p) c) :
    (collectionFilter pick name).Does around L keeps R := by
  refine does_work fun c => ?_
  cases pick with
  | none => exact .own (Raised.recordable_step _ _)
  | some pick =>
    refine (Work.compute (Filter.recordableIn_requireCollection c _)
      fun ls hls => Filter.requireCollection_ok hls).bind fun ls hls => ?_
    have hgives := hpick pick rfl ls
    refine (Work.guest hgives.1 hgives.2).bind fun picked hpicked => ?_
    cases picked with
    | none => exact .own (Raised.recordable_step _ _)
    | some p => exact .pure (hpicked p rfl c hls)

theorem does_assertion {predicate : Option (Callback σ Context Bool)} {message : Message σ}
    (hpredicate : ∀ f ∈ predicate, ∀ c, (f.invoke c).Keeps around L)
    (hmessage : ∀ f, message = .computed f → ∀ c, (f.invoke c).Keeps around L ∧
      (f.invoke c).Gives around fun v => L.errors { cls := .step .assertion, args := [v] }) :
    (assertion predicate message).Does around L keeps Stays := by
  refine ⟨_, _, _, rfl, fun c => deed_require fun f hf => .work ?_⟩
  refine (Work.guest (P := fun _ => True) (hpredicate f hf c) fun _ => trivial).bind
    fun holds _ => ?_
  cases holds with
  | true => exact .same c
  | false =>
    cases message with
    | fixed s => exact .own (Raised.recordable_step .assertion s)
    | computed f =>
      have hgives := hmessage f rfl c
      exact (Work.guest hgives.1 hgives.2).bind fun text htext => .raise (.inr htext)

theorem does_createFailure {problem : Problem σ}
    (hproblem : ∀ f, problem = .computed f → ∀ c, (f.invoke c).Keeps around L) :
    (createFailure problem).Does around L keeps Stays := by
  refine ⟨_, _, _, rfl, fun c => ?_⟩
  have hpayload : Work around L c (problem.payload c) fun _ => True := by
    cases problem with
    | fixed v => exact .pure trivial
    | computed f => exact .guest (hproblem f rfl c) fun _ => trivial
  refine .after hpayload fun payload _ => ?_
  refine .after (Work.compute (P := fun _ => True) (Failure.recordableIn_coerce payload _ _)
    fun _ _ => trivial) fun f _ => ?_
  exact .fail _ _

end Step

/-- Plain steps do such deeds if their callbacks keep to the leeway, what a check says can be
raised, and what is picked is as it should be. -/
theorem Plain.does {M : Manners σ} {picks : Callback σ (List Locator) (Option Focus) → Prop}
    {s : Step σ} (h : Plain M picks s)
    (hcallback : ∀ {α β : Type} {f : Callback σ α β}, M.callback f →
      ∀ a, (f.invoke a).Keeps around L)
    (hmessage : ∀ {f}, M.message f → ∀ c, (f.invoke c).Keeps around L ∧
      (f.invoke c).Gives around fun v => L.errors { cls := .step .assertion, args := [v] })
    (hpicks : ∀ {f}, picks f → ∀ ls, (f.invoke ls).Keeps around L ∧
      (f.invoke ls).Gives around fun picked =>
        ∀ p ∈ picked, ∀ c, c.collection = some ls → R (c.withPicked p) c)
    (hmoves : s.Moves → s.Does around L true R) (hR : ∀ {d c}, d.Stays c → R d c) :
    s.Does around L true R := by
  cases h with
  | atomic h =>
    by_cases hs : s.Moves
    · exact hmoves hs
    · exact (h.stays hs).mono hR
  | collectionFilter hpick => exact Step.does_collectionFilter fun f hf => hpicks (hpick f hf)
  | assertion hpredicate hm =>
    exact (Step.does_assertion (fun f hf => hcallback (hpredicate f hf))
      fun f hf => hmessage (hm f hf)).mono hR
  | createFailure hproblem =>
    exact (Step.does_createFailure fun f hf => hcallback (hproblem f hf)).mono hR

end BrowserFlow
