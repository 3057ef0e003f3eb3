import BrowserFlow.Proofs.Accompanying
import BrowserFlow.Proofs.Typing

/-!
# Typing another text

How far the trace keeps a typed text to itself. The step that types a text shows its length and
nothing else, so two runs that type different texts of the same length write the same lines for as
long as the driver answers them alike. Where the step is executed alone that is so whenever the two
runs go the same way, provided that the errors of the driver do not depend on the text. Inside other
steps it is so up to the first call that is answered differently, and no further: the text can be
read back from the page, and what is done next can depend on it.
-/
namespace BrowserFlow

variable {σ : Type} {around : Surroundings σ}

/-! ### Steps that type another text -/

theorem Value.isNone_of_length {v : Value} {n : Nat} (h : v.length = .ok n) : v.isNone = false := by
  cases v with
  | none => cases h
  | _ => rfl

theorem Value.SameLength.isNone {u v : Value} (h : u.SameLength v) :
    u.isNone = false ∧ v.isNone = false := by
  obtain ⟨n, hu, hv⟩ := h
  exact ⟨isNone_of_length hu, isNone_of_length hv⟩

namespace Step

open Interact

/-- A text that has a length is shown by it. -/
theorem setText_of_length {text : Value} {n : Nat} (h : text.length = .ok n) (selector : Value) :
    (setText text selector : Except Raised (Step σ)) =
      .ok (.ofBody "set_text" [("selector", selector), ("chars", .int n)] fun c =>
        afterFinding selector (.int 0) c (typing text)) := by
  rw [setText, Value.isNone_of_length h, h]
  rfl

/-- A secret is typed as the text that it is. -/
theorem setText_secret (text : String) (selector : Value) :
    (setText (.secret text) selector : Except Raised (Step σ)) = setText (.str text) selector := by
  have hplain : (Value.str text).length = .ok text.length := rfl
  have hsecret : (Value.secret text).length = .ok text.length := rfl
  rw [setText_of_length hplain, setText_of_length hsecret]
  rfl

theorem alongside_enteringText (l : Locator) {u v : Value} (h : u.SameLength v) :
    (enteringText l u : Action σ Unit).Alongside around (enteringText l v) := by
  rw [enteringText, enteringText]
  refine (Action.Alongside.call (.tagName l)).bind fun tag => ?_
  split
  · exact (Action.Alongside.call (.click l .none)).bind fun _ => .selectOption l h
  · exact .fill l h

theorem alongside_naming {α : Type} {p q : Action σ α} (h : p.Alongside around q)
    (label : String) : (naming label p).Alongside around (naming label q) := by
  refine h.attempt.bind fun r => ?_
  cases r with
  | ok a => exact .pure a
  | error e =>
    dsimp only
    split
    · exact (Action.Alongside.ofExcept e.readText).bind fun _ => .raise _
    · exact .raise e

/-- What typing a text comes to but for the text itself. -/
theorem typing_given {text : Value} (h : text.isNone = false) (c : Context) :
    (typing text c : Action σ Context) = focus c "set_text" >>= fun f =>
      naming "set_text" (element f "tag_name" >>= fun l => enteringText l text.typed) >>=
        fun _ => pure c := by
  rw [typing_eq, requireValue, h, if_neg Bool.false_ne_true, pure_bind]

theorem alongside_typing {u v : Value} (h : u.SameLength v) (c : Context) :
    (typing u c : Action σ Context).Alongside around (typing v c) := by
  rw [typing_given h.isNone.1, typing_given h.isNone.2, focus]
  cases c.focus with
  | none => exact fun _ _ hmn => hmn.still _
  | some f =>
    have helement : (element f "tag_name" : Action σ Locator).Alongside around
      (element f "tag_name") := .ofExcept _
    exact (alongside_naming (helement.bind fun l => alongside_enteringText l h.typed) _).bind
      fun _ => .pure c

theorem alongside_setText {u v selector : Value} {s t : Step σ} (h : u.SameLength v)
    (hs : setText u selector = .ok s) (ht : setText v selector = .ok t) :
    s.Alongside around t := by
  obtain ⟨n, hu, hv⟩ := id h
  rw [setText_of_length hu] at hs
  rw [setText_of_length hv] at ht
  cases hs
  cases ht
  refine .ofBody fun c _ => ?_
  rw [afterFinding_eq, afterFinding_eq]
  refine .unlessFailed ?_ fun d _ => alongside_typing h d
  rw [finding]
  split
  · exact .pure c
  · have hfind : (find selector (.int 0) : Step σ).Does around .closed false Context.Stays :=
      Query.does_focusing _ _ (Query.work_inScope _)
    exact hfind.alongside.execute c none

mutual

/-- Two steps, put together in the same way, that differ only in the texts that they type, whose
lengths are the same. -/
inductive Retyped (M : Manners σ) : Step σ → Step σ → Prop
  | own {s : Step σ} (h : M.step s) : Retyped M s s
  | plain {s : Step σ} (h : Plain M M.callback s) : Retyped M s s
  | setText {u v selector : Value} {s t : Step σ} (h : u.SameLength v)
    (hs : Step.setText u selector = .ok s) (ht : Step.setText v selector = .ok t) : Retyped M s t
  | chain {steps steps' : List (Step σ)} (h : RetypedAll M steps steps') (name : Option String) :
    Retyped M (Chain.asStep ⟨steps⟩ name) (Chain.asStep ⟨steps'⟩ name)
  | when {predicate : Option (Callback σ Context Bool)}
    (hpredicate : ∀ f ∈ predicate, M.callback f)
    {step step' otherwise otherwise' : Option (Step σ)} (h : RetypedIn M step step')
    (hotherwise : RetypedIn M otherwise otherwise') :
    Retyped M (.when predicate step otherwise) (.when predicate step' otherwise')
  | repeatWhile {predicate : Option (Callback σ Context Bool)}
    (hpredicate : ∀ f ∈ predicate, M.callback f) {step step' : Option (Step σ)}
    (h : RetypedIn M step step') (most : Value) :
    Retyped M (.repeatWhile predicate step most) (.repeatWhile predicate step' most)
  | use {β : Type} {action : Option (Callback σ Context β)}
    (haction : ∀ f ∈ action, M.callback f) {step step' : Option (Step σ)}
    (h : RetypedIn M step step') :
    Retyped M (.use action step) (.use action step')
  | useElement {β : Type} {action : Option (Callback σ Focus β)}
    (haction : ∀ f ∈ action, M.callback f) {step step' : Option (Step σ)}
    (h : RetypedIn M step step') : Retyped M (.useElement action step) (.useElement action step')
  | ifExists (selector timeout : Value) {onTrue onTrue' onFalse onFalse' : Option (Step σ)}
    (htrue : RetypedIn M onTrue onTrue') (hfalse : RetypedIn M onFalse onFalse') :
    Retyped M (.ifExists selector onTrue onFalse timeout)
      (.ifExists selector onTrue' onFalse' timeout)
  | retrying {body body' : Step σ} (h : Retyped M body body')
    (attempts backoff baseDelayMs : Value) :
    Retyped M (body.retrying attempts backoff baseDelayMs)
      (body'.retrying attempts backoff baseDelayMs)

inductive RetypedAll (M : Manners σ) : List (Step σ) → List (Step σ) → Prop
  | nil : RetypedAll M [] []
  | cons {s t : Step σ} {rest rest' : List (Step σ)} (h : Retyped M s t)
    (hrest : RetypedAll M rest rest') : RetypedAll M (s :: rest) (t :: rest')

inductive RetypedIn (M : Manners σ) : Option (Step σ) → Option (Step σ) → Prop
  | none : RetypedIn M none none
  | some {s t : Step σ} (h : Retyped M s t) : RetypedIn M (some s) (some t)

end

mutual

theorem Retyped.alongside :
    ∀ {s t : Step σ}, Retyped (.alongside around) s t → s.Alongside around t
  | _, _, .own h => h
  | _, _, .plain h => h.alongside
  | _, _, .setText h hs ht => alongside_setText h hs ht
  | _, _, .chain h name => Chain.alongside_asStep h.alongside name
  | _, _, .when hpredicate h hotherwise =>
    alongside_when hpredicate h.alongside hotherwise.alongside
  | _, _, .repeatWhile hpredicate h most => alongside_repeatWhile hpredicate h.alongside most
  | _, _, .use haction h => alongside_use haction h.alongside
  | _, _, .useElement haction h => alongside_useElement haction h.alongside
  | _, _, .ifExists selector timeout htrue hfalse =>
    alongside_ifExists selector timeout htrue.alongside hfalse.alongside
  | _, _, .retrying h attempts backoff baseDelayMs =>
    alongside_retrying h.alongside attempts backoff baseDelayMs

theorem RetypedAll.alongside : ∀ {steps steps' : List (Step σ)},
    RetypedAll (.alongside around) steps steps' → List.Forall₂ (Alongside around) steps steps'
  | _, _, .nil => .nil
  | _, _, .cons h hrest => .cons h.alongside hrest.alongside

theorem RetypedIn.alongside : ∀ {step step' : Option (Step σ)},
    RetypedIn (.alongside around) step step' → Option.Rel (Alongside around) step step'
  | _, _, .none => .none
  | _, _, .some h => .some h.alongside

end

end Step

/-! ### One step alone -/

/-- Which way a run went: its result was a good one, there was another result or an error, or it
never ended. -/
def Outcome.way {α : Type} (good : α → Bool) : Outcome α → Option Bool
  | .done a => some (good a)
  | .raised _ => some false
  | .endless => none

/-- Wherever both of two texts cannot be typed, the errors of the driver are the same. -/
structure Driver.FailsAlike (d : Driver σ) (u v : Value) : Prop where
  fill : ∀ l world e e', d.reply (.fill l u) world = .raised e →
    d.reply (.fill l v) world = .raised e' → e = e'
  selectOption : ∀ l world e e', d.reply (.selectOption l u) world = .raised e →
    d.reply (.selectOption l v) world = .raised e' → e = e'

/-- On a rehearsed page what goes wrong with an element has nothing to do with the text. -/
theorem Rehearsal.pageDriver_failsAlike (u v : Value) : pageDriver.FailsAlike u v := by
  constructor
  · intro l page e e' h h'
    obtain ⟨e₁, hraised, rfl⟩ := fill_raised h
    obtain ⟨e₂, hraised', rfl⟩ := fill_raised h'
    cases hraised.symm.trans hraised'
    rfl
  · intro l page e e' h h'
    obtain ⟨e₁, hraised, rfl⟩ := selectOption_raised h
    obtain ⟨e₂, hraised', rfl⟩ := selectOption_raised h'
    cases hraised.symm.trans hraised'
    rfl

/-- Run on one and the same machine, two actions come to the same whenever they go the same way. -/
def Action.Kin {α : Type} (around : Surroundings σ) (good : α → Bool)
    (p q : Action σ α) : Prop :=
  ∀ m, (p around m).1.way good = (q around m).1.way good →
    (p around m).1 = (q around m).1 ∧ (p around m).2.Twins (q around m).2

namespace Action.Kin

variable {α β : Type} {good : α → Bool} {p q : Action σ α}

theorem refl (p : Action σ α) : Kin around good p p := fun _ _ => ⟨rfl, .refl _⟩

/-- The same first part leads to the same machine. -/
theorem after (r : Action σ β) {f g : β → Action σ α}
    (h : ∀ b, Kin around good (f b) (g b)) : Kin around good (r >>= f) (r >>= g) := by
  intro m
  rw [bind_run, bind_run]
  rcases r around m with ⟨b | e | _, n⟩
  · exact h b n
  · exact fun _ => ⟨rfl, .refl n⟩
  · exact fun _ => ⟨rfl, .refl n⟩

/-- What looks only at how an action ended, and keeps to the way it went. -/
theorem mapped (h : Kin around good p q) {good' : β → Bool} {p' q' : Action σ β}
    {f : Outcome α → Outcome β} (hf : ∀ r, (f r).way good' = r.way good)
    (hp : ∀ m, p' around m = (f (p around m).1, (p around m).2))
    (hq : ∀ m, q' around m = (f (q around m).1, (q around m).2)) : Kin around good' p' q' := by
  intro m hway
  rw [hp, hq] at hway ⊢
  obtain ⟨hending, htwins⟩ := h m (by simpa only [hf] using hway)
  exact ⟨congrArg f hending, htwins⟩

end Action.Kin

/-- Two endings that go the same way are the same but for what they give, if the errors are. -/
theorem Outcome.giving_of_way {α β : Type} {r : Outcome α} {r' : Outcome β}
    (hway : r.way (fun _ => true) = r'.way fun _ => true)
    (herror : ∀ e e', r = .raised e → r' = .raised e' → e = e') :
    r.giving () = r'.giving () := by
  cases r with
  | done a =>
    cases r' with
    | done b => rfl
    | raised e => simp [way] at hway
    | endless => simp [way] at hway
  | raised e =>
    cases r' with
    | done b => simp [way] at hway
    | raised e' => exact congrArg Outcome.raised (herror e e' rfl rfl)
    | endless => simp [way] at hway
  | endless =>
    cases r' with
    | done b => simp [way] at hway
    | raised e => simp [way] at hway
    | endless => rfl

theorem Outcome.way_giving {α β : Type} {good : α → Bool} {b : β}
    (hgood : ∀ a, good a = true) {good' : β → Bool} (hb : good' b = true) (r : Outcome α) :
    (r.giving b).way good' = r.way good := by
  cases r with
  | done a => simp [giving, way, hgood, hb]
  | raised e => rfl
  | endless => rfl

namespace Step

open Interact

variable {u v : Value}

/-- Calls that are alike, looked at for how they end only. -/
theorem kin_call {x y : Call} (hxy : x.Alike y)
    (herror : ∀ world e e', around.driver.reply x world = .raised e →
      around.driver.reply y world = .raised e' → e = e') :
    Action.Kin around (fun _ => true) (do let _ ← Action.call x : Action σ Unit)
      (do let _ ← Action.call y) := by
  intro m hway
  rw [Action.giving_run, Action.giving_run, Action.call_reply, Action.call_reply] at hway ⊢
  have hgood : ∀ {α : Type} (r : Outcome α),
      (r.giving ()).way (fun _ => true) = r.way fun _ => true :=
    Outcome.way_giving (fun _ => rfl) rfl
  rw [hgood, hgood] at hway
  refine ⟨Outcome.giving_of_way hway (herror m.world), ?_⟩
  dsimp only
  rw [Action.call_run, Action.call_run]
  exact ⟨rfl, (Retold.refl m.log).call hxy _ _ _⟩

theorem kin_enteringText (huv : u.SameLength v) (h : around.driver.FailsAlike u v) (l : Locator) :
    Action.Kin around (fun _ => true) (enteringText l u : Action σ Unit) (enteringText l v) := by
  refine .after (Action.call (.tagName l)) fun tag => ?_
  split
  · exact .after (Action.call (.click l .none)) fun _ =>
      kin_call (.selectOption l huv) (h.selectOption l)
  · have hfill := kin_call (.fill l huv) (h.fill l)
    rwa [bind_pure, bind_pure] at hfill

theorem way_named {α : Type} (good : α → Bool) (label : String) (r : Outcome α) :
    (named label r).way good = r.way good := by
  cases r with
  | raised e =>
    rw [named]
    split
    · split <;> rfl
    · rfl
  | _ => rfl

theorem kin_typing (huv : u.SameLength v) (h : around.driver.FailsAlike u.typed v.typed)
    {c : Context} (hc : c.failure = none) :
    Action.Kin around (!·.hasFailure) (typing u c : Action σ Context) (typing v c) := by
  rw [typing_given huv.isNone.1, typing_given huv.isNone.2]
  refine .after (focus c "set_text") fun f => ?_
  have hentering := Action.Kin.after (element f "tag_name" : Action σ Locator)
    (kin_enteringText huv.typed h)
  have hnamed := hentering.mapped (way_named _ "set_text") (naming_run "set_text" _ around)
    (naming_run "set_text" _ around)
  exact hnamed.mapped (Outcome.way_giving (fun _ => rfl) (by simp [Context.hasFailure, hc]))
    (Action.giving_run _ c around) (Action.giving_run _ c around)

/-- How the body of a step of the library ends, as the answer of the step. -/
def answered : Outcome Context → Outcome Answer
  | .done d => .done (.context d)
  | .raised e => .raised e.leaving
  | .endless => .endless

theorem call_ofBody_run (name : String) (args : List (String × Value))
    (body : Context → Action σ Context) (c : Context) (around : Surroundings σ)
    (m : Machine σ) :
    (ofBody name args body).call c around m =
      (answered (body c around m).1, (body c around m).2) := by
  rw [call, Action.awaited_run, ofBody_run]
  rcases body c around m with ⟨d | e | _, n⟩ <;> rfl

theorem way_verdict (s : Step σ) (c : Context) (r : Outcome Context) :
    (s.verdict c (answered r)).way (!·.hasFailure) = r.way (!·.hasFailure) := by
  cases r with
  | done d => rfl
  | endless => rfl
  | raised e =>
    simp only [answered, verdict]
    split
    · split <;> rfl
    · rfl

theorem twins_settled (s : Step σ) (c : Context) {m n : Machine σ} (h : m.Twins n)
    (ending : Outcome Answer) : (s.settled c m ending).Twins (s.settled c n ending) := by
  have hnoted : ∀ e, (s.noted m e).Twins (s.noted n e) := by
    intro e
    obtain ⟨world, log, -, rfl⟩ := h.elim
    exact h.append _
  rcases ending with ⟨d | v⟩ | e | _
  · exact h
  · exact h.given _ _ _
  · simp only [settled]
    split
    · split
      · exact (hnoted e).given _ _ _
      · exact hnoted e
    · exact h
  · exact h

theorem kin_execute {name : String} {args : List (String × Value)}
    {body body' : Context → Action σ Context}
    (h : ∀ c, c.failure = none → Action.Kin around (!·.hasFailure) (body c) (body' c))
    (c : Context) (token : Option Token) :
    Action.Kin around (!·.hasFailure) ((ofBody name args body).execute c token)
      ((ofBody name args body').execute c token) := by
  intro m
  by_cases hc : c.failure = none
  · rw [execute_run _ token around m hc, execute_run _ token around m hc]
    cases stopReason token m with
    | some reason => exact fun _ => ⟨rfl, .refl _⟩
    | none =>
      have hline : (ofBody name args body').describe = (ofBody name args body).describe := rfl
      dsimp only
      rw [start_run _ around m hc, start_run _ around m hc, hline, call_ofBody_run, call_ofBody_run]
      intro hway
      obtain ⟨hending, htwins⟩ := h c hc _ (by simpa only [way_verdict] using hway)
      dsimp only
      rw [hending]
      exact ⟨rfl, twins_settled _ c htwins _⟩
  · rw [execute_of_failed _ token around m hc, execute_of_failed _ token around m hc]
    exact fun _ => ⟨rfl, .refl _⟩

/-- Executed alone, a step that types one text and one that types another come to the same whenever
they go the same way. -/
theorem kin_setText {selector : Value} {s t : Step σ} (huv : u.SameLength v)
    (hs : setText u selector = .ok s) (ht : setText v selector = .ok t)
    (h : around.driver.FailsAlike u.typed v.typed) (c : Context) (token : Option Token) :
    Action.Kin around (!·.hasFailure) (s.execute c token) (t.execute c token) := by
  obtain ⟨n, hu, hv⟩ := id huv
  rw [setText_of_length hu] at hs
  rw [setText_of_length hv] at ht
  cases hs
  cases ht
  refine kin_execute (fun c _ => ?_) c token
  rw [afterFinding_eq, afterFinding_eq]
  refine .after (finding selector c) fun d => ?_
  split
  · exact .refl _
  · exact kin_typing huv h (by simp_all [Context.hasFailure])

end Step

/-! ### What the trace tells of the text -/

/-- Two runs tell the same: they end in the same way, after the same lines of every kind, with the
same lines held back, and on machines that are twins. -/
structure ToldAlike {α : Type} (r r' : Outcome α × Machine σ) : Prop where
  ending : r.1 = r'.1
  lines : ∀ kind, Event.linesOf kind r.2.log = Event.linesOf kind r'.2.log
  held : r.2.held = r'.2.held
  twins : r.2.Twins r'.2

theorem ToldAlike.of_twins {α : Type} {r r' : Outcome α × Machine σ} (hending : r.1 = r'.1)
    (h : r.2.Twins r'.2) : ToldAlike r r' :=
  ⟨hending, h.told.linesOf, h.held, h⟩

/-- Two runs from the machine `m` tell the same up to two calls of theirs that are the same but for
the text and are not answered alike, or to their end. -/
def ToldAlikeUntilParted {α : Type} (around : Surroundings σ) (m : Machine σ)
    (r r' : Outcome α × Machine σ) : Prop :=
  ToldAlike r r' ∨ ∃ k k' x y, Parting around m m r.2 r'.2 k k' x y ∧ k.held = k'.held ∧
    ∀ kind, Event.linesOf kind k.log = Event.linesOf kind k'.log

theorem Action.Alongside.toldAlike {α : Type} {p q : Action σ α} (h : p.Alongside around q)
    (m : Machine σ) : ToldAlikeUntilParted around m (p around m) (q around m) := by
  rcases (h (.refl m)).ends with ⟨k, k', x, y, hparting⟩ | ⟨hending, htwins⟩
  · exact .inr ⟨k, k', x, y, hparting, hparting.twins.held, hparting.twins.told.linesOf⟩
  · exact .inl (.of_twins hending htwins)

/-- A secret is typed by the very step that types it as a plain text. Two texts of the same length,
each set by one step alone, lead to the same lines and the same ending whenever the two runs go the
same way, provided that the errors of the driver do not depend on the text. In steps that are put
together of others, with callbacks that see nothing but what they are given and what the driver
answers, the two runs tell the same until the driver does not answer them alike. -/
theorem Step.setText_undisclosed (around : Surroundings σ) :
    (∀ text selector, (setText (.secret text) selector : Except Raised (Step σ)) =
      setText (.str text) selector) ∧
    (∀ u v selector (s t : Step σ), u.SameLength v → setText u selector = .ok s →
      setText v selector = .ok t → around.driver.FailsAlike u.typed v.typed → ∀ c token m,
      (s.execute c token around m).1.way (!·.hasFailure) =
        (t.execute c token around m).1.way (!·.hasFailure) →
      ToldAlike (s.execute c token around m) (t.execute c token around m)) ∧
    (∀ s t, Retyped (.alongside around) s t → ∀ c token m,
      ToldAlikeUntilParted around m (s.execute c token around m) (t.execute c token around m)) ∧
    ∀ steps steps', RetypedAll (.alongside around) steps steps' → ∀ c token m,
      ToldAlikeUntilParted around m (Chain.run ⟨steps⟩ c token around m)
        (Chain.run ⟨steps'⟩ c token around m) := by
  refine ⟨setText_secret, ?_, ?_, ?_⟩
  · intro u v selector s t huv hs ht hfails c token m hway
    obtain ⟨hending, htwins⟩ := kin_setText huv hs ht hfails c token m hway
    exact .of_twins hending htwins
  · exact fun s t h c token m => (h.alongside.execute c token).toldAlike m
  · exact fun steps steps' h c token m => (Chain.alongside_run h.alongside c token).toldAlike m

/-- A page with a field to type into. -/
def Rehearsal.textField : Page where
  root := plainElement "page" "html" [plainElement "field" "input" []]

/-- Does the value in focus read like this? -/
def Callback.reads (text : String) : Callback σ Context Bool :=
  ⟨none, .callable "reads", fun _ c => do return (← c.value).equals (.str text)⟩

theorem Callback.reads_alongside (text : String) :
    (reads text : Callback σ Context Bool).Alongside around :=
  fun _ c => c.work_value.alongside.bind fun _ => .pure _

theorem Step.setText_undisclosed_field :
    let around : Surroundings Rehearsal.Page := ⟨Rehearsal.pageDriver, .ok {}, 0⟩
    let l : Locator := .root none "input" none
    let c : Context :=
      { session := ⟨"fake", "s"⟩, focus := some (.element l), items := 0, sink := .recorder }
    let m := Machine.start Rehearsal.textField
    ∃ s t : Step Rehearsal.Page,
      setText (.str "abc") = .ok s ∧ setText (.secret "xyz") = .ok t ∧
      ToldAlike (s.execute c none around m) (t.execute c none around m) ∧
      ToldAlikeUntilParted around m
        ((Step.when (some (.reads "abc")) (some s)).execute c none around m)
        ((Step.when (some (.reads "abc")) (some t)).execute c none around m) ∧
      ToldAlikeUntilParted around m
        (Chain.run ⟨[s.retrying (.int 2), .when (some (.reads "abc")) (some s)]⟩ c
          none around m)
        (Chain.run ⟨[t.retrying (.int 2), .when (some (.reads "abc")) (some t)]⟩ c none around
          m) := by
  intro around l c m
  have huv : (Value.str "abc").SameLength (.secret "xyz") := ⟨3, rfl, rfl⟩
  have hs : (setText (.str "abc") : Except Raised (Step Rehearsal.Page)) = .ok _ := rfl
  have ht : (setText (.secret "xyz") : Except Raised (Step Rehearsal.Page)) = .ok _ := rfl
  have hended : ∀ text ∈ [Value.str "abc", .secret "xyz"],
      ((ofBody "set_text" [("selector", .none), ("chars", .int 3)] fun c =>
        Interact.afterFinding .none (.int 0) c (typing text)).execute c none around m).1 =
      .done c :=
    List.forall_mem_cons.2 ⟨rfl, List.forall_mem_singleton.2 rfl⟩
  have hset := Retyped.setText (M := .alongside around) huv hs ht
  have hreads : ∀ f ∈ some (Callback.reads "abc"), (Manners.alongside around).callback f := by
    rintro _ ⟨⟩
    exact Callback.reads_alongside "abc"
  have hwhen := Retyped.when hreads (.some hset) .none
  obtain ⟨-, halone, hsteps, hchains⟩ := setText_undisclosed around
  refine ⟨_, _, hs, ht, ?_, hsteps _ _ hwhen c none m, ?_⟩
  · refine halone _ _ _ _ _ huv hs ht (Rehearsal.pageDriver_failsAlike _ _) c none m ?_
    exact congrArg (Outcome.way _) ((hended _ (by simp)).trans (hended _ (by simp)).symm)
  · exact hchains _ _ (.cons (hset.retrying _ _ _) (.cons hwhen .nil)) c none m

/-- What was typed can be read back, and a branch taken for it: both runs come back with the context
that they were given, but one of them goes on to set the text again. -/
theorem Step.setText_readBack :
    let around : Surroundings Rehearsal.Page := ⟨Rehearsal.pageDriver, .ok {}, 0⟩
    let l : Locator := .root none "input" none
    let c : Context :=
      { session := ⟨"fake", "s"⟩, focus := some (.element l), items := 0, sink := .recorder }
    let m := Machine.start Rehearsal.textField
    let step (text : String) : Step Rehearsal.Page :=
      .ofBody "set_text" [("selector", .none), ("chars", .int text.length)] fun c =>
        Interact.afterFinding .none (.int 0) c (typing (.str text))
    let ended (text : String) :=
      Chain.run ⟨[step text, .when (some (.reads "abc")) (some (step text))]⟩ c none around m
    (∀ text, setText (.str text) = .ok (step text)) ∧
      (Value.str "abc").SameLength (.str "xyz") ∧ (∀ u v, around.driver.FailsAlike u v) ∧
      (ended "abc").1 = .done c ∧ (ended "xyz").1 = .done c ∧
      Event.linesOf .step (ended "abc").2.log = ["set_text(selector=None, chars=3)",
        "when(predicate=[reads], step='set_text')", "set_text(selector=None, chars=3)"] ∧
      Event.linesOf .step (ended "xyz").2.log = ["set_text(selector=None, chars=3)",
        "when(predicate=[reads], step='set_text')"] := by
  intro around l c m step ended
  let typed (text : String) : Machine Rehearsal.Page := { m with
    world := { m.world with conditions := [("field", { value := .str text })] }
    log := [.line .step (step text).describe, .call (.tagName l), .call (.fill l (.str text))] }
  have hfirst : ∀ text, (step text).execute c none around m = (.done c, typed text) :=
    fun _ => rfl
  have hended : ∀ text,
      ((Step.when (some (.reads "abc")) (some (step text))).execute c none around
        (typed text)).1 = .done c → (ended text).1 = .done c := fun text h =>
    congrArg Prod.fst ((Chain.runSteps_cons (hfirst text) rfl).trans
      (Chain.runSteps_cons (Prod.ext h rfl) rfl))
  refine ⟨fun _ => setText_of_length rfl _, ⟨3, rfl, rfl⟩, Rehearsal.pageDriver_failsAlike,
    hended _ ?_, hended _ ?_, by decide +kernel⟩
  · rfl
  · rfl

end BrowserFlow
