import BrowserFlow.Proofs.Acting
import BrowserFlow.Proofs.Likeness

/-!
# Steps that match

Steps whose bodies run alike are executed alike: they are announced by the same line, and what their
bodies have come to is settled the same way. An atomic step matches itself, however the two runs
differ, as long as the item that it reads, if it reads one, does not tell them apart.
-/
namespace BrowserFlow

open BrowserFlow.Likeness (Contexts)

variable {σ : Type}

/-- Two steps that are announced alike and whose bodies run alike on contexts without a failure. -/
structure Step.Matches (around : Surroundings σ) (K : Likeness) (s s' : Step σ) : Prop where
  name : s.name = s'.name
  line : s.describe = s'.describe
  body : ∀ ⦃c d : Context⦄, c.failure = none → K.Contexts c d →
    (s.body c).Matches around K K.Answers (s'.body d)

/-- Two steps that are executed alike, inside other steps. -/
def Step.Agrees (around : Surroundings σ) (K : Likeness) (s s' : Step σ) : Prop :=
  ∀ ⦃c d : Context⦄, K.Contexts c d →
    (s.execute c).Matches around K K.Contexts (s'.execute d)

variable {around : Surroundings σ} {K : Likeness}

namespace Step

/-- What bodies that ended alike have come to is settled alike. -/
theorem settled_ends (hK : K.Fits) {s s' : Step σ} (hname : s.name = s'.name) {c d : Context}
    (hc : K.Contexts c d) {r r' : Outcome Answer × Machine σ} (h : K.Ends K.Answers r r') :
    K.Ends K.Contexts (s.verdict c r.1, s.settled c r.2 r.1)
      (s'.verdict d r'.1, s'.settled d r'.2 r'.1) := by
  cases h with
  | done h hm =>
    cases h with
    | context h => exact .done h hm
    | value v =>
      have hstray : s.strayFailure v = s'.strayFailure v := by
        rw [strayFailure, strayFailure, hname]
      simp only [verdict, settled, hstray]
      exact .done (hc.failed _) (hm.given hK hc.sink _ _)
  | @raised e m n hm =>
    have hnoted : K.Machines (s.noted m e) (s'.noted n e) := by
      rw [noted, noted, hname]
      exact hm.emitTagged hK fun tag =>
        [.log
          ⟨.debug, "uiflow.chain", "Step '" ++ s'.name ++ "' raised " ++ e.cls.name, tag, none⟩]
    simp only [verdict, settled, hname]
    split
    · rcases Failure.ofRaised e (.str s'.name) with e' | f
      · exact .raised e' hnoted
      · exact .done (hc.failed f) (hnoted.given hK hc.sink _ _)
    · exact .raised e hm
  | endless hm => exact .endless hm

/-- Two steps are executed alike if they are stopped for the same reason and their bodies run alike
where both are started. -/
theorem execute_ends (hK : K.Fits) {s s' : Step σ} (hname : s.name = s'.name)
    (hline : s.describe = s'.describe) {c d : Context} {token token' : Option Token}
    {m n : Machine σ} (hc : K.Contexts c d) (hm : K.Machines m n)
    (hstop : stopReason token m = stopReason token' n)
    (hbody : ∀ {b b'}, s.startOn c token m = some b → s'.startOn d token' n = some b' →
      K.Machines b b' → K.Ends K.Answers (s.body c around b) (s'.body d around b')) :
    K.Ends K.Contexts (s.execute c token around m) (s'.execute d token' around n) := by
  by_cases hfailure : c.failure = none
  · have hfailure' : d.failure = none := hc.failure ▸ hfailure
    rw [execute_run s token around m hfailure, execute_run s' token' around n hfailure', ← hstop]
    cases hreason : stopReason token m with
    | some reason =>
      have hcancel : s.cancelFailure reason = s'.cancelFailure reason := by
        rw [cancelFailure, cancelFailure, hname]
      dsimp only
      rw [hcancel]
      exact .done (hc.failed _) (hm.given hK hc.sink _ _)
    | none =>
      dsimp only
      rw [start_run s around m hfailure, start_run s' around n hfailure']
      refine settled_ends hK hname hc (Likeness.Ends.awaited ?_)
      refine hbody (s.startOn_eq_some token m |>.2 ⟨hfailure, hreason, rfl⟩)
        (s'.startOn_eq_some token' n |>.2 ⟨hfailure', hstop ▸ hreason, rfl⟩) ?_
      rw [hline]
      exact hm.given hK hc.sink _ _
  · rw [execute_of_failed s token around m hfailure,
      execute_of_failed s' token' around n (hc.failure ▸ hfailure)]
    exact .done hc hm

theorem Matches.execute (hK : K.Fits) {s s' : Step σ} (h : s.Matches around K s') {c d : Context}
    (hc : K.Contexts c d) (token : Option Token) :
    (s.execute c token).Matches around K K.Contexts (s'.execute d token) := fun _ _ hm =>
  execute_ends hK h.name h.line hc hm (hm.stopReason token) fun hb _ hbb' =>
    h.body ((s.startOn_eq_some token _).1 hb).1 hc hbb'

theorem Matches.agrees (hK : K.Fits) {s s' : Step σ} (h : s.Matches around K s') :
    s.Agrees around K s' :=
  fun _ _ hc => h.execute hK hc none

theorem matches_ofBody {name : String} {args : List (String × Value)}
    {body body' : Context → Action σ Context}
    (h : ∀ ⦃c d : Context⦄, c.failure = none → K.Contexts c d →
      (body c).Matches around K K.Contexts (body' d)) :
    (ofBody name args body).Matches around K (ofBody name args body') :=
  ⟨rfl, rfl, fun _ _ hfailure hc => (h hfailure hc).bind fun hd => .pure (.context hd)⟩

end Step


namespace Action.Matches

/-- The work goes on from contexts that come alike, unless they have failed. -/
theorem unlessFailed {p q : Action σ Context} (h : p.Matches around K K.Contexts q)
    {act act' : Context → Action σ Context}
    (hact : ∀ ⦃c d : Context⦄, c.failure = none → K.Contexts c d →
      (act c).Matches around K K.Contexts (act' d)) :
    (p >>= fun c => if c.hasFailure then Pure.pure c else act c).Matches around K K.Contexts
      (q >>= fun d => if d.hasFailure then Pure.pure d else act' d) := by
  refine h.bind fun {c d} hc => ?_
  by_cases hfailure : c.failure = none
  · have hc' : c.hasFailure = false := Context.hasFailure_of_none hfailure
    simp only [← hc.hasFailure, hc', Bool.false_eq_true, if_false]
    exact hact hfailure hc
  · have hc' : c.hasFailure = true := Context.hasFailure_of_ne hfailure
    simp only [← hc.hasFailure, hc', if_true]
    exact .pure hc

/-- A choice that is the same in both runs. -/
theorem ite {α β : Type} {V : α → β → Prop} {p q : Prop} [Decidable p] [Decidable q]
    (hpq : p ↔ q) {a b : Action σ α} {a' b' : Action σ β} (ha : p → a.Matches around K V a')
    (hb : ¬ p → b.Matches around K V b') :
    (if p then a else b).Matches around K V (if q then a' else b') := by
  by_cases hp : p
  · rw [if_pos hp, if_pos (hpq.1 hp)]
    exact ha hp
  · rw [if_neg hp, if_neg (fun hq => hp (hpq.2 hq))]
    exact hb hp

end Action.Matches

/-! ### What the library does on its own

None of it looks at a sink, so it is the same action on both contexts. -/

section Own

variable (hK : K.Fits)

theorem Step.matches_requireValue (v : Value) (label what : String) :
    (requireValue v label what : Action σ Value).Matches around K Eq
      (requireValue v label what) := by
  rw [requireValue]
  split
  · exact .raise _
  · exact .same v

include hK

namespace Query

theorem matches_countAfterWait (q : Query) (l : Locator) :
    (q.countAfterWait l : Action σ Int).Matches around K Eq (q.countAfterWait l) := by
  rw [countAfterWait]
  refine (Action.Matches.timeout _ _).bind_same fun timeout => ?_
  refine (Action.Matches.attempt (.call hK _)).bind_same fun waited => ?_
  cases waited with
  | ok _ =>
    refine (Action.Matches.call hK _).bind_same fun count => ?_
    exact .ite Iff.rfl (fun _ => .raise _) fun _ => .same count
  | error e => exact .raise _

theorem matches_one (q : Query) (index : Value) (l : Locator) :
    (q.one index l : Action σ Locator).Matches around K Eq (q.one index l) := by
  rw [one]
  refine (q.matches_countAfterWait hK l).bind_same fun count => ?_
  exact (Action.Matches.compute _).bind_same fun place => .same _

theorem matches_all (q : Query) (l : Locator) :
    (q.all l : Action σ (List Locator)).Matches around K Eq (q.all l) := by
  rw [all]
  exact (q.matches_countAfterWait hK l).bind_same fun count => .same _

omit hK in
theorem matches_inScope (q : Query) (c : Context) :
    (q.inScope c : Action σ Locator).Matches around K Eq (q.inScope c) := by
  rw [inScope]
  exact (Action.Matches.compute _).bind_same fun _ => .same _

omit hK in
theorem matches_underFocus (q : Query) (c : Context) :
    (q.underFocus c : Action σ Locator).Matches around K Eq (q.underFocus c) := by
  rw [underFocus]
  refine (Action.Matches.compute _).bind_same fun _ => ?_
  cases c.focus with
  | none => exact .raise _
  | some f => exact (Action.Matches.compute _).bind_same fun l => .same _

end Query

namespace Filter

theorem matches_matchesText (wanted : Value) (l : Locator) :
    (matchesText wanted l : Action σ Bool).Matches around K Eq (matchesText wanted l) := by
  rw [matchesText]
  refine (Action.Matches.call hK _).bind_same fun text => ?_
  cases text with
  | none => exact .same false
  | some s => exact .compute _

theorem matches_firstMatch (wanted : Value) (ls : List Locator) :
    (firstMatch wanted ls : Action σ (Option Locator)).Matches around K Eq
      (firstMatch wanted ls) := by
  induction ls with
  | nil => exact .same none
  | cons l rest ih =>
    refine (matches_matchesText hK wanted l).bind_same fun hit => ?_
    exact .ite Iff.rfl (fun _ => .same _) fun _ => ih

theorem matches_lastMatch (wanted : Value) (ls : List Locator) (before : Option Locator) :
    (lastMatch wanted ls before : Action σ (Option Locator)).Matches around K Eq
      (lastMatch wanted ls before) := by
  induction ls generalizing before with
  | nil => exact .same before
  | cons l rest ih => exact (matches_matchesText hK wanted l).bind_same fun hit => ih _

omit hK in
theorem matches_storedItem {key : Value} (hkey : K.Legible key) (c : Context) :
    (storedItem key c : Action σ Value).Matches around K Eq (storedItem key c) := by
  rw [storedItem]
  refine (Action.Matches.items c.items).bind fun hstores => ?_
  refine (Action.Matches.compute _).bind_same fun _ => ?_
  rw [hkey hstores]
  exact .compute _

end Filter

theorem Context.matches_value (c : Context) :
    (c.value : Action σ Value).Matches around K Eq c.value := by
  rw [value]
  cases c.focus with
  | none => exact .same _
  | some f =>
    refine (Action.Matches.compute _).bind_same fun l => ?_
    refine (Action.Matches.call hK _).bind_same fun tag => ?_
    refine .ite Iff.rfl (fun _ => .call hK (.inputValue l)) fun _ => ?_
    exact (Action.Matches.call hK (.text l)).bind_same fun text => .same _

namespace Interact

omit hK in
theorem matches_focus (c : Context) (label : String) :
    (focus c label : Action σ Focus).Matches around K Eq (focus c label) := by
  rw [focus]
  cases c.focus with
  | none => exact .raise _
  | some f => exact .same f

omit hK in
theorem matches_naming {α : Type} (label : String) {p q : Action σ α}
    (h : p.Matches around K Eq q) :
    (naming label p).Matches around K Eq (naming label q) := by
  rw [naming, naming]
  refine h.attempt.bind_same fun ended => ?_
  cases ended with
  | ok a => exact .same a
  | error e =>
    refine .ite Iff.rfl (fun _ => ?_) fun _ => .raise e
    exact (Action.Matches.compute _).bind_same fun text => .raise _

omit hK in
/-- An operation on the element in focus, under the name of an action. -/
theorem matches_operation {α : Type} (label operation : String) (f : Focus)
    {p : Locator → Action σ α} (hp : ∀ l, (p l).Matches around K Eq (p l)) :
    (naming label (element f operation >>= p)).Matches around K Eq
      (naming label (element f operation >>= p)) :=
  matches_naming label ((Action.Matches.compute _).bind_same hp)

end Interact

end Own

/-! ### Atomic steps

Of a context they hand on only what they were given, so the sinks stay as they are. -/

section Steps

variable (hK : K.Fits)

include hK

namespace Query

theorem matches_focusing (q : Query) (index : Value)
    {place : Query → Context → Action σ Locator}
    (hplace : ∀ c t, (place q c).Matches around K Eq (place q { c with sink := t })) :
    (q.focusing index place).Matches around K (q.focusing index place) := by
  refine Step.matches_ofBody fun c d _ hc => ?_
  obtain ⟨t, ht, rfl⟩ := hc.elim
  refine (hplace c t).bind_same fun l => ?_
  exact (q.matches_one hK index l).bind_same fun found => .pure ⟨rfl, ht⟩

theorem matches_collecting (q : Query) {place : Query → Context → Action σ Locator}
    (hplace : ∀ c t, (place q c).Matches around K Eq (place q { c with sink := t })) :
    (q.collecting place).Matches around K (q.collecting place) := by
  refine Step.matches_ofBody fun c d _ hc => ?_
  obtain ⟨t, ht, rfl⟩ := hc.elim
  refine (hplace c t).bind_same fun l => ?_
  exact (q.matches_all hK l).bind_same fun found => .pure ⟨rfl, ht⟩

end Query

theorem Filter.matches_byText (label : String) (args : List (String × Value))
    {wanted : Context → Action σ Value}
    (hwanted : ∀ c t, (wanted c).Matches around K Eq (wanted { c with sink := t }))
    (last : Bool) :
    (byText label args wanted last).Matches around K (byText label args wanted last) := by
  refine Step.matches_ofBody fun c d _ hc => ?_
  obtain ⟨t, ht, rfl⟩ := hc.elim
  refine (Action.Matches.compute (requireCollection c label)).bind_same fun ls => ?_
  refine (hwanted c t).bind_same fun text => ?_
  refine .ite Iff.rfl (fun _ => .raise _) fun _ => ?_
  have hfocus : ∀ found, (focusFound text c found : Action σ Context).Matches around K K.Contexts
      (focusFound text { c with sink := t } found) := by
    intro found
    cases found with
    | none => exact .raise _
    | some l => exact .pure ⟨rfl, ht⟩
  cases last with
  | true => exact (matches_lastMatch hK text ls none).bind_same hfocus
  | false => exact (matches_firstMatch hK text ls).bind_same hfocus

namespace Interact

/-- An action that works on the element in focus once that has been found. -/
theorem matches_acting {name : String} {args : List (String × Value)} {selector index : Value}
    {act : Context → Action σ Context}
    (hact : ∀ ⦃c d : Context⦄, K.Contexts c d →
      (act c).Matches around K K.Contexts (act d)) :
    (Step.ofBody name args fun c => afterFinding selector index c act).Matches around K
      (Step.ofBody name args fun c => afterFinding selector index c act) := by
  refine Step.matches_ofBody fun c d _ hc => .ite Iff.rfl (fun _ => ?_) fun _ => ?_
  · exact Action.Matches.unlessFailed (.pure hc) fun _ _ _ hc' => hact hc'
  · have hfind : (Step.find selector index : Step σ).Matches around K (.find selector index) :=
      Query.matches_focusing hK _ index fun c _ => Query.matches_inScope _ c
    exact Action.Matches.unlessFailed (hfind.agrees hK hc) fun _ _ _ hc' => hact hc'

omit hK in
/-- An action on the element in focus, under the name of the step, that hands its context on. -/
theorem matches_onFocus {α : Type} (label name operation : String) {c d : Context}
    (hc : K.Contexts c d) {p : Locator → Action σ α}
    (hp : ∀ l, (p l).Matches around K Eq (p l)) :
    (do
      let f ← focus c label
      let _ ← naming name do p (← element f operation)
      return c).Matches around K K.Contexts do
      let f ← focus d label
      let _ ← naming name do p (← element f operation)
      return d := by
  obtain ⟨t, ht, rfl⟩ := hc.elim
  refine (matches_focus c label).bind_same fun f => ?_
  exact (matches_operation name operation f hp).bind_same fun _ => .pure hc

end Interact

namespace Step

open Interact

theorem matches_click (selector index timeout : Value) :
    (click selector index timeout : Step σ).Matches around K (click selector index timeout) :=
  matches_acting hK fun _ _ hc => matches_onFocus _ _ _ hc fun l =>
    (Action.Matches.timeout _ _).bind_same fun timeout => .call hK (.click l timeout)

theorem matches_setText {text selector : Value} {s : Step σ} (h : setText text selector = .ok s) :
    s.Matches around K s := by
  obtain ⟨chars, rfl⟩ := setText_ok h
  refine matches_acting hK fun c d hc => (matches_requireValue _ _ _).bind_same fun text => ?_
  refine matches_onFocus _ _ _ hc fun l =>
    (Action.Matches.call hK (.tagName l)).bind_same fun tag => ?_
  refine .ite Iff.rfl (fun _ => ?_) fun _ => .call hK (.fill l text.typed)
  refine (Action.Matches.call hK _).bind_same fun _ => ?_
  exact (Action.Matches.call hK _).bind_same fun _ => .same _

theorem matches_pressing {name : String} {args : List (String × Value)} (key : Value) :
    (ofBody name args (pressing key) : Step σ).Matches around K
      (ofBody name args (pressing key)) :=
  matches_ofBody fun _ _ _ hc => (matches_requireValue _ _ _).bind_same fun key =>
    matches_onFocus _ _ _ hc fun l => .call hK (.press l key)

theorem matches_selectComboText (value selector : Value) :
    (selectComboText value selector : Step σ).Matches around K
      (selectComboText value selector) := by
  refine matches_acting hK fun c d hc => (matches_requireValue _ _ _).bind_same fun value => ?_
  obtain ⟨t, ht, rfl⟩ := hc.elim
  refine (matches_focus c _).bind_same fun f => ?_
  refine (matches_operation _ _ f fun l => Action.Matches.call hK (.selectOption l value)).bind_same
    fun chosen => ?_
  exact .ite Iff.rfl (fun _ => .raise _) fun _ => .pure hc

theorem matches_followLink (selector title timeout : Value) :
    (followLink selector title timeout : Step σ).Matches around K
      (followLink selector title timeout) := by
  refine matches_ofBody fun c d _ hc => (matches_requireValue _ _ _).bind_same fun selector => ?_
  refine (matches_requireValue _ _ _).bind_same fun title => ?_
  refine Action.Matches.unlessFailed ((matches_click hK _ _ _).agrees hK hc) fun c' d' _ hc' => ?_
  obtain ⟨t, ht, rfl⟩ := hc.elim
  refine (Action.Matches.timeout _ _).bind_same fun wait => ?_
  refine (matches_naming _ (.call hK (.waitForLoad c.session wait))).bind_same fun _ => ?_
  refine (Action.Matches.call hK (.title c.session)).bind_same fun actual => ?_
  exact .ite Iff.rfl (fun _ => .pure hc') fun _ => .raise _

/-- The end of a step that keeps a text. -/
theorem matches_keepText {c d : Context} (hc : K.Contexts c d) (key value : Value) :
    (keepText c key value : Action σ Context).Matches around K K.Contexts
      (keepText d key value) := by
  obtain ⟨t, ht, rfl⟩ := hc.elim
  refine (Action.Matches.items c.items).bind fun hstores => ?_
  refine (Action.Matches.ofExcept (hK.put hstores key value)).bind fun hkept => ?_
  exact (Action.Matches.changeItems c.items fun _ => hkept).bind_same fun _ => .pure hc

theorem matches_storeText (key : Value) :
    (storeText key : Step σ).Matches around K (storeText key) := by
  refine matches_ofBody fun c d _ hc => (matches_requireValue _ _ _).bind_same fun key => ?_
  obtain ⟨t, ht, rfl⟩ := hc.elim
  refine (matches_focus c _).bind_same fun f => (Action.Matches.compute _).bind_same fun l => ?_
  exact (Action.Matches.call hK (.text l)).bind_same fun text => matches_keepText hK hc key _

theorem matches_storeValue (key : Value) :
    (storeValue key : Step σ).Matches around K (storeValue key) := by
  refine matches_ofBody fun c d _ hc => (matches_requireValue _ _ _).bind_same fun key => ?_
  obtain ⟨t, ht, rfl⟩ := hc.elim
  refine (matches_focus c _).bind_same fun _ => ?_
  exact (c.matches_value hK).bind_same fun v => matches_keepText hK hc key _

theorem matches_setItem (key value : Value) :
    (setItem key value : Step σ).Matches around K (setItem key value) := by
  refine matches_ofBody fun c d _ hc => (matches_requireValue _ _ _).bind_same fun key => ?_
  exact (matches_requireValue _ _ _).bind_same fun value => matches_keepText hK hc key value

theorem matches_clearItem (key : Value) :
    (clearItem key : Step σ).Matches around K (clearItem key) := by
  refine matches_ofBody fun c d _ hc => ?_
  obtain ⟨t, ht, rfl⟩ := hc.elim
  refine .ite Iff.rfl (fun _ => ?_) fun _ => ?_
  · exact (Action.Matches.changeItems c.items fun _ => hK.empty).bind_same fun _ => .pure hc
  · refine (Action.Matches.items c.items).bind fun hstores => ?_
    refine (Action.Matches.ofExcept (hK.remove key hstores)).bind fun hleft => ?_
    exact (Action.Matches.changeItems c.items fun _ => hleft).bind_same fun _ => .pure hc

theorem matches_assertAttribute {name expected : Value} {s : Step σ}
    (h : assertAttribute name expected = .ok s) : s.Matches around K s := by
  unfold assertAttribute at h
  split at h
  · cases h
  · cases h
    refine matches_ofBody fun c d _ hc => ?_
    obtain ⟨t, ht, rfl⟩ := hc.elim
    refine (matches_focus c _).bind_same fun f => (Action.Matches.compute _).bind_same fun l => ?_
    refine (Action.Matches.call hK (.readAttribute l name)).bind_same fun actual => ?_
    exact .ite Iff.rfl (fun _ => .pure hc) fun _ => .raise _

theorem matches_assertText (expected contains : Value) :
    (assertText expected contains : Step σ).Matches around K (assertText expected contains) := by
  refine matches_ofBody fun c d _ hc => ?_
  obtain ⟨t, ht, rfl⟩ := hc.elim
  refine (matches_focus c _).bind_same fun f => (Action.Matches.compute _).bind_same fun l => ?_
  refine (Action.Matches.call hK (.text l)).bind_same fun text => ?_
  refine .ite Iff.rfl (fun _ => (Action.Matches.compute _).bind_same fun holds => ?_) fun _ =>
    (Action.Matches.same _).bind_same fun holds => ?_
  · exact .ite Iff.rfl (fun _ => .pure hc) fun _ => .raise _
  · exact .ite Iff.rfl (fun _ => .pure hc) fun _ => .raise _

end Step

end Steps

/-- The step reads the item under a key. -/
inductive Step.ReadsItem {σ : Type} (key : Value) : Step σ → Prop
  | first : ReadsItem key (.firstContainingItem key)
  | last : ReadsItem key (.lastContainingItem key)

/-- An atomic step matches itself, unless it reads an item that tells the two runs apart. -/
theorem Atomic.matches (hK : K.Fits) {s : Step σ} (h : Atomic s)
    (hreads : ∀ key, s.ReadsItem key → K.Legible key) : s.Matches around K s := by
  cases h with
  | one q index => exact q.matches_focusing hK index fun c _ => q.matches_inScope c
  | all q => exact q.matches_collecting hK fun c _ => q.matches_inScope c
  | oneUnder q index => exact q.matches_focusing hK index fun c _ => q.matches_underFocus c
  | allUnder q => exact q.matches_collecting hK fun c _ => q.matches_underFocus c
  | firstContainingText text => exact Filter.matches_byText hK _ _ (fun _ _ => .same text) false
  | lastContainingText text => exact Filter.matches_byText hK _ _ (fun _ _ => .same text) true
  | firstContainingItem key =>
    exact Filter.matches_byText hK _ _
      (fun c _ => Filter.matches_storedItem (hreads key .first) c) false
  | lastContainingItem key =>
    exact Filter.matches_byText hK _ _
      (fun c _ => Filter.matches_storedItem (hreads key .last) c) true
  | goto url =>
    refine Step.matches_ofBody fun c d _ hc =>
      (Step.matches_requireValue _ _ _).bind_same fun url => ?_
    obtain ⟨t, ht, rfl⟩ := hc.elim
    exact (Action.Matches.call hK (.goto c.session url)).bind_same fun _ => .pure ⟨rfl, ht⟩
  | click selector index timeout => exact Step.matches_click hK selector index timeout
  | doubleClick selector =>
    exact Interact.matches_acting hK fun _ _ hc => Interact.matches_onFocus _ _ _ hc fun l =>
      .call hK (.doubleClick l)
  | setText h => exact Step.matches_setText hK h
  | press key => exact Step.matches_pressing hK key
  | pressEnter => exact Step.matches_pressing hK _
  | selectComboText value selector => exact Step.matches_selectComboText hK value selector
  | script source args =>
    refine Step.matches_ofBody fun c d _ hc =>
      (Step.matches_requireValue _ _ _).bind_same fun source => ?_
    obtain ⟨t, ht, rfl⟩ := hc.elim
    refine Action.Matches.bind_same (Interact.matches_naming _ ?_) fun _ => .pure hc
    exact .call hK (.evaluate c.session c.scope source args)
  | switchToFrame selector =>
    refine Step.matches_ofBody fun c d _ hc =>
      (Step.matches_requireValue _ _ _).bind_same fun selector => ?_
    obtain ⟨t, ht, rfl⟩ := hc.elim
    refine (Interact.matches_naming _ (.call hK (.frame c.session selector))).bind_same
      fun frame => ?_
    exact .pure ⟨rfl, ht⟩
  | switchToDefault =>
    refine Step.matches_ofBody fun c d _ hc => ?_
    obtain ⟨t, ht, rfl⟩ := hc.elim
    exact .pure ⟨rfl, ht⟩
  | followLink selector title timeout => exact Step.matches_followLink hK selector title timeout
  | storeText key => exact Step.matches_storeText hK key
  | storeValue key => exact Step.matches_storeValue hK key
  | setItem key value => exact Step.matches_setItem hK key value
  | clearItem key => exact Step.matches_clearItem hK key
  | assertAttribute h => exact Step.matches_assertAttribute hK h
  | assertTitle expected =>
    refine Step.matches_ofBody fun c d _ hc => ?_
    obtain ⟨t, ht, rfl⟩ := hc.elim
    refine (Action.Matches.call hK (.title c.session)).bind_same fun actual => ?_
    exact .ite Iff.rfl (fun _ => .pure hc) fun _ => .raise _
  | assertText expected contains => exact Step.matches_assertText hK expected contains

end BrowserFlow
