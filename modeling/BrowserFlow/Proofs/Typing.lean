import BrowserFlow.Proofs.Finding
import BrowserFlow.Proofs.PageValues
import BrowserFlow.Proofs.Settling
import BrowserFlow.Steps.Act

/-!
# Typing

What it tells when a text was set without a failure. The element was asked for its tag; one that is
no select box was filled with exactly that text, and on a select box the option with that text was
asked for. How many options were chosen is not looked at, none included. That is where it parts from
choosing in a select box, which succeeds only if an option was chosen: on a rehearsed page a select
box without such an option keeps its value, though the text was set without a failure.
-/
namespace BrowserFlow

variable {σ : Type}

/-! ### Conversing with the driver -/

/-- A leeway in which the driver's world changes through calls alone. -/
def Leeway.conversing (around : Surroundings σ) : Leeway σ where
  moves := Conversed around
  errors _ := True

theorem Leeway.conversing_tolerates (around : Surroundings σ) :
    (conversing around).Tolerates around where
  refl m := .refl around m
  trans := Conversed.trans
  emit he m := ⟨[], .emit around (fun k hk => by simp [hk, Event.isAside] at he) m⟩
  fresh m := ⟨[], .still rfl rfl⟩
  call k _ m := ⟨⟨_, .call around k m⟩, fun _ _ => trivial⟩
  own _ := trivial
  leaving _ := trivial
  settings _ := trivial
  failing sink text m := ⟨[], .given around .error text sink m⟩

namespace Interact

/-- Finding the selector first, if there is one. -/
def finding (selector : Value) (c : Context) : Action σ Context :=
  if selector.isNone then pure c else (Step.find selector (.int 0)).execute c

variable {around : Surroundings σ} {c d : Context} {m n k : Machine σ} {selector : Value}

theorem finding_conversed (hc : c.failure = none)
    (h : finding selector c around m = (.done d, n)) : Conversed around m n := by
  rw [finding] at h
  split at h
  · cases h
    exact .refl around m
  · have hL := Leeway.conversing_tolerates around
    obtain ⟨name, args, body, hfind, hbody⟩ :
        (Step.find selector (.int 0) : Step σ).Does around (.conversing around) false
          Context.Stays :=
      Query.does_focusing _ _ (Query.work_inScope _)
    have hsettled := Step.execute_settled hL name args hc
      (fun m => (hbody c).settled hL (fun _ _ => trivial) hc m) none m
    rw [← hfind, h] at hsettled
    rcases hsettled with ⟨-, stores, hmoves, hstores⟩ | ⟨-, hmoves⟩
    · rwa [hstores rfl] at hmoves
    · exact hmoves

/-- An action on what is found is done on it unless finding it failed. -/
theorem afterFinding_eq (selector : Value) (c : Context) (act : Context → Action σ Context) :
    afterFinding selector (.int 0) c act = finding selector c >>= fun d =>
      if d.hasFailure then pure d else act d := by
  rw [afterFinding, finding]
  split
  · rw [pure_bind]
  · rfl

/-- An ending under the name of an action. -/
def named {α : Type} (label : String) : Outcome α → Outcome α
  | .raised e =>
    if e.cls.isDriver then
      match e.readText with
      | .ok text => .raised (.interaction (label ++ ": " ++ text))
      | .error e' => .raised e'
    else .raised e
  | ending => ending

theorem naming_run {α : Type} (label : String) (p : Action σ α) (around : Surroundings σ)
    (m : Machine σ) :
    naming label p around m = (named label (p around m).1, (p around m).2) := by
  rw [naming, Action.bind_run, Action.attempt_run]
  rcases p around m with ⟨a | e | _, n⟩
  · rfl
  · dsimp only [named]
    split
    · rcases e.readText with e' | text <;> rfl
    · rfl
  · rfl

theorem naming_done {α : Type} {label : String} {p : Action σ α} {a : α} :
    naming label p around m = (.done a, n) ↔ p around m = (.done a, n) := by
  rw [naming_run]
  rcases p around m with ⟨a' | e | _, n'⟩
  · rfl
  · refine iff_of_false ?_ (by simp)
    simp only [named]
    split
    · split <;> simp
    · simp
  · exact iff_of_false (by simp [named]) (by simp)

end Interact

/-- How typing a text into an element goes when it goes well. -/
inductive Entered (l : Locator) (text : Value) : List Exchange → Prop
  | filled {tag : String} (htag : tag ≠ "select") :
    Entered l text [⟨.tagName l, .done tag⟩, ⟨.fill l text, .done ()⟩]
  | selected (chosen : List Value) :
    Entered l text [⟨.tagName l, .done "select"⟩, ⟨.click l .none, .done ()⟩,
      ⟨.selectOption l text, .done chosen⟩]

/-- How a select box answers when it is asked to choose, once it was asked for its tag and
clicked. -/
theorem Entered.reply_of_mem {l : Locator} {text : Value} {xs : List Exchange}
    {driver : Driver σ} {world : σ} {chosen : List Value} (h : Entered l text xs)
    (hanswering : driver.Answering world xs)
    (hchosen : ⟨.selectOption l text, .done chosen⟩ ∈ xs) :
    driver.reply (.selectOption l text)
      (driver.worldAfterAll [.tagName l, .click l .none] world) = .done chosen := by
  cases h with
  | filled => simp at hchosen
  | selected chosen' =>
    obtain rfl : chosen = chosen' := by simpa using hchosen
    exact hanswering.head.2.head.2.head.1

theorem Value.isNone_typed {v : Value} (h : v.isNone = false) : v.typed.isNone = false := by
  cases v with
  | none => exact h
  | _ => rfl

namespace Step

open Interact

variable {around : Surroundings σ} {c d : Context} {m n k : Machine σ} {text selector : Value}

/-- What is done with the element in focus when a text is typed. -/
def enteringText (l : Locator) (text : Value) : Action σ Unit := do
  if (← Action.call (.tagName l)) = "select" then
    Action.call (.click l .none)
    let _ ← Action.call (.selectOption l text)
  else
    Action.call (.fill l text)

/-- A step of the library that comes back without a failure leaves the machine to its body. -/
theorem execute_ofBody_unfailed_run {name : String} {args : List (String × Value)}
    {body : Context → Action σ Context} {token : Option Token}
    (h : (ofBody name args body).execute c token around m = (.done d, n)) (hd : d.failure = none) :
    ∃ k, (ofBody name args body).startOn c token m = some k ∧
      body c around k = (.done d, n) := by
  obtain ⟨k, hk, hcall, -⟩ := execute_unfailed_iff.1 ⟨⟨n, h⟩, hd⟩
  have hrun := (execute_of_started _ token around m hk).2
  rw [h, hcall] at hrun
  have hn : ((ofBody name args body).call c around k).2 = n := (congrArg Prod.snd hrun).symm
  have hbody := call_done.1 (Prod.ext hcall hn)
  rw [ofBody_run] at hbody
  rcases hran : body c around k with ⟨d' | e | _, o⟩ <;> rw [hran] at hbody <;> cases hbody
  exact ⟨k, hk, hran⟩

theorem enteringText_done {l : Locator} (hrun : enteringText l text around m = (.done (), n)) :
    ∃ xs, Entered l text xs ∧ Exchanged around m xs n := by
  obtain ⟨tag, n₁, hasked, hrest⟩ := (Action.bind_eq_done ..).1 hrun
  by_cases htag : tag = "select"
  · subst htag
    rw [if_pos rfl] at hrest
    obtain ⟨_, n₂, hclicked, hrest⟩ := (Action.bind_eq_done ..).1 hrest
    obtain ⟨chosen, n₃, hselected, hlast⟩ := (Action.bind_eq_done ..).1 hrest
    cases hlast
    exact ⟨_, .selected chosen, (Exchanged.of_call hasked).trans
      ((Exchanged.of_call hclicked).trans (.of_call hselected))⟩
  · rw [if_neg htag] at hrest
    exact ⟨_, .filled htag, (Exchanged.of_call hasked).trans (.of_call hrest)⟩

theorem enteringText_of_answering {l : Locator} {xs : List Exchange} (h : Entered l text xs)
    (hanswering : around.driver.Answering m.world xs) :
    ∃ n, enteringText l text around m = (.done (), n) ∧ Exchanged around m xs n := by
  cases h with
  | filled htag =>
    obtain ⟨n₁, hasked, hrest⟩ := hanswering.call_run
    obtain ⟨n₂, hfilled, -⟩ := hrest.call_run
    refine ⟨n₂, ?_, (Exchanged.of_call hasked).trans (.of_call hfilled)⟩
    rw [enteringText, Action.bind_done hasked, if_neg htag, hfilled]
  | selected chosen =>
    obtain ⟨n₁, hasked, hrest⟩ := hanswering.call_run
    obtain ⟨n₂, hclicked, hrest⟩ := hrest.call_run
    obtain ⟨n₃, hselected, -⟩ := hrest.call_run
    refine ⟨n₃, ?_, (Exchanged.of_call hasked).trans
      ((Exchanged.of_call hclicked).trans (.of_call hselected))⟩
    rw [enteringText, Action.bind_done hasked, if_pos rfl, Action.bind_done hclicked,
      Action.bind_done hselected]
    rfl

theorem typing_eq (text : Value) (c : Context) :
    (typing text c : Action σ Context) =
      requireValue text "set_text" "text" >>= fun text => focus c "set_text" >>= fun f =>
        naming "set_text" (element f "tag_name" >>= fun l => enteringText l text.typed) >>=
          fun _ => pure c := rfl

/-- A text was typed into the element in focus, and the context was handed on. -/
theorem typing_done (hrun : typing text c around m = (.done d, n)) :
    d = c ∧ text.isNone = false ∧ ∃ l xs, c.focus = some (.element l) ∧
      Entered l text.typed xs ∧ Exchanged around m xs n := by
  rw [typing_eq, requireValue] at hrun
  cases htext : text.isNone
  · rw [htext, if_neg Bool.false_ne_true, pure_bind, focus] at hrun
    rcases hfocus : c.focus with _ | f <;> rw [hfocus] at hrun
    · cases hrun
    · rw [pure_bind] at hrun
      obtain ⟨_, k, hnamed, hlast⟩ := (Action.bind_eq_done ..).1 hrun
      cases hlast
      obtain ⟨l, o, hl, hentering⟩ := (Action.bind_eq_done ..).1 (naming_done.1 hnamed)
      obtain ⟨hthrough, rfl⟩ := Action.ofExcept_eq_done.1 hl
      obtain ⟨xs, hentered, hxs⟩ := enteringText_done hentering
      exact ⟨rfl, rfl, l, xs, congrArg some (Focus.through_ok hthrough), hentered, hxs⟩
  · rw [htext] at hrun
    cases hrun

theorem typing_of_answering {l : Locator} {xs : List Exchange} (htext : text.isNone = false)
    (hfocus : c.focus = some (.element l)) (h : Entered l text.typed xs)
    (hanswering : around.driver.Answering m.world xs) :
    ∃ n, typing text c around m = (.done c, n) ∧ Exchanged around m xs n := by
  obtain ⟨n, hrun, hxs⟩ := enteringText_of_answering h hanswering
  have hentering : (element (.element l) "tag_name" >>= fun l => enteringText l text.typed) around
      m = (.done (), n) := hrun
  refine ⟨n, ?_, hxs⟩
  rw [typing_eq, requireValue, htext, if_neg Bool.false_ne_true, pure_bind, focus, hfocus]
  exact Action.bind_done (naming_done.2 hentering) _

end Step

/-- A text was typed: the selector was found first, if there is one, and the element that was in
focus then took exactly that text, from the machine `k` on. -/
structure Typing (text selector : Value) (around : Surroundings σ) (started : Machine σ)
    (c d : Context) (l : Locator) (k : Machine σ) (ys xs : List Exchange) : Prop where
  found : Interact.finding selector c around started = (.done d, k)
  unfailed : d.failure = none
  before : Exchanged around started ys k
  given : text.isNone = false
  focus : d.focus = some (.element l)
  entered : Entered l text.typed xs
  answering : around.driver.Answering k.world xs

namespace Step

variable {text selector : Value} {s : Step σ} {c d : Context} {token : Option Token}
  {around : Surroundings σ} {m n : Machine σ}

/-- A text that is set without a failure was typed, and nothing was exchanged after that. -/
theorem setText_unfailed (hs : setText text selector = .ok s)
    (hrun : s.execute c token around m = (.done d, n)) (hd : d.failure = none) :
    ∃ started l k ys xs, s.startOn c token m = some started ∧
      Typing text selector around started c d l k ys xs ∧ Exchanged around k xs n := by
  obtain ⟨chars, rfl⟩ := setText_ok hs
  obtain ⟨started, hstarted, hbody⟩ := execute_ofBody_unfailed_run hrun hd
  obtain ⟨hc, -, -⟩ := (startOn_eq_some _ token m).1 hstarted
  rw [Interact.afterFinding_eq] at hbody
  obtain ⟨d', k, hfound, hrest⟩ := (Action.bind_eq_done ..).1 hbody
  by_cases hd' : d'.failure = none
  · rw [if_neg (by simp [Context.hasFailure_of_none hd'])] at hrest
    obtain ⟨rfl, htext, l, xs, hfocus, hentered, hxs⟩ := typing_done hrest
    obtain ⟨ys, hys⟩ := Interact.finding_conversed hc hfound
    exact ⟨started, l, k, ys, xs, hstarted,
      ⟨hfound, hd, hys, htext, hfocus, hentered, hxs.answering⟩, hxs⟩
  · rw [if_pos (Context.hasFailure_of_ne hd')] at hrest
    cases hrest
    exact absurd hd hd'

/-- Wherever a text can be typed, setting it comes back without a failure. -/
theorem setText_of_typing (hs : setText text selector = .ok s) {started k : Machine σ}
    {l : Locator} {ys xs : List Exchange} (hstarted : s.startOn c token m = some started)
    (h : Typing text selector around started c d l k ys xs) :
    s.HandsBack c token around m d (ys ++ xs) := by
  obtain ⟨chars, rfl⟩ := setText_ok hs
  obtain ⟨hc, hstop, rfl⟩ := (startOn_eq_some _ token m).1 hstarted
  obtain ⟨n, hrun, hxs⟩ := typing_of_answering h.given h.focus h.entered h.answering
  refine handsBack_of_done hc hstop ?_ (h.before.trans hxs)
  rw [Interact.afterFinding_eq, Action.bind_done h.found,
    if_neg (by simp [Context.hasFailure_of_none h.unfailed]), hrun]

end Step

/-! ### Choosing in a select box -/

/-- A context on which no option with this text could be chosen. -/
def Context.unchosen (d : Context) (text : Value) : Context :=
  { d with failure := some ⟨.assertion, "Can't find combo text '" ++ text.text ++ "'",
    some "select_combo_text", some "FlowAssertionError"⟩ }

namespace Step

open Interact

/-- What choosing does once the select box is found. -/
def choosing (value : Value) (c : Context) : Action σ Context := do
  let value ← requireValue value "select_combo_text" "value"
  let f ← focus c "select_combo_text"
  let chosen ← naming "select_combo_text" do
    Action.call (.selectOption (← element f "select_option") value)
  if chosen.isEmpty then Action.raise (.assertion ("Can't find combo text '" ++ value.text ++ "'"))
  else return c

theorem selectComboText_eq (value selector : Value) :
    (selectComboText value selector : Step σ) =
      .ofBody "select_combo_text" [("selector", selector), ("value", value)] fun c =>
        afterFinding selector (.int 0) c (choosing value) := rfl

variable {around : Surroundings σ} {d : Context} {o n : Machine σ} {l : Locator} {text : Value}
  {chosen : List Value}

theorem choosing_run (htext : text.isNone = false) (hfocus : d.focus = some (.element l))
    (hcall : Action.call (.selectOption l text) around o = (.done chosen, n)) :
    choosing text d around o =
      (if chosen.isEmpty then .raised (.assertion ("Can't find combo text '" ++ text.text ++ "'"))
        else .done d, n) := by
  have hselecting : (naming "select_combo_text" do
      Action.call (.selectOption (← element (.element l) "select_option") text)) around o =
        (.done chosen, n) := naming_done.2 hcall
  rw [choosing, requireValue, htext, if_neg Bool.false_ne_true, pure_bind, focus, hfocus]
  refine (Action.bind_done hselecting _).trans ?_
  split <;> rfl

/-- On a select box in focus, choosing succeeds if some option is chosen, and fails if none is. -/
theorem selectComboText_handsBack {token : Option Token} (hd : d.failure = none)
    (hstop : stopReason token o = none) (htext : text.isNone = false)
    (hfocus : d.focus = some (.element l))
    (hreply : around.driver.reply (.selectOption l text) o.world = .done chosen) :
    (selectComboText text).HandsBack d token around o
      (if chosen.isEmpty then d.unchosen text else d)
      [⟨.selectOption l text, .done chosen⟩] := by
  let started := d.sink.given .step (selectComboText text : Step σ).describe o
  have hworld : started.world = o.world := Sink.given_world ..
  rw [← hworld] at hreply
  have hcall := Action.call_of_reply hreply
  have hbody : afterFinding .none (.int 0) d (choosing text) = (choosing text d : Action σ _) := by
    simp [afterFinding, Value.isNone, Context.hasFailure_of_none hd]
  have hrun := choosing_run htext hfocus hcall
  rw [← hbody] at hrun
  rw [selectComboText_eq]
  by_cases hchosen : chosen.isEmpty
  · rw [if_pos hchosen] at hrun ⊢
    exact handsBack_of_own (k := .assertion) hd hstop hrun (.of_call hcall)
  · rw [if_neg hchosen] at hrun ⊢
    exact handsBack_of_done hd hstop hrun (.of_call hcall)

end Step

/-! ### What setting a text tells -/

/-- Where a text was entered into an element of a rehearsed page, that element has it as its value,
unless it is a select box without such an option: that keeps its value, and nothing was chosen. -/
theorem Rehearsal.entered_value {page : Page} {l : Locator} {text : Value} {xs : List Exchange}
    (h : Entered l text xs) (hanswering : pageDriver.Answering page xs) :
    ∃ e, page.elementAt l = .ok e ∧
      ((pageDriver.worldAfterAll (xs.map Exchange.call) page).condition e.label).value =
        (if e.tag = "select" ∧ Page.isOption e text = false then (page.condition e.label).value
        else text) ∧
      ∀ chosen, ⟨.selectOption l text, .done chosen⟩ ∈ xs →
        chosen.isEmpty = !Page.isOption e text := by
  cases h with
  | filled htag =>
    obtain ⟨hasked, hrest⟩ := hanswering.head
    obtain ⟨e, hat, rfl, hsame⟩ := tagName_done hasked
    obtain ⟨e', hat', hvalue⟩ := fill_done hrest.head.1
    cases hat'.symm.trans ((hsame.elementAt l).trans hat)
    refine ⟨_, hat, ?_, by simp⟩
    rw [if_neg fun h => htag h.1]
    exact hvalue
  | selected chosen =>
    obtain ⟨hasked, hrest⟩ := hanswering.head
    obtain ⟨hclicked, hrest⟩ := hrest.head
    obtain ⟨e, hat, htag, hsame⟩ := tagName_done hasked
    have hsame := hsame.trans (click_done hclicked)
    obtain ⟨e', hat', hchosen, hvalue⟩ := selectOption_done hrest.head.1
    cases hat'.symm.trans ((hsame.elementAt l).trans hat)
    refine ⟨_, hat, hvalue.trans ?_, by simpa using hchosen⟩
    rw [hsame.value]
    cases Page.isOption _ text <;> simp [htag]

/-- A text is set without a failure exactly where its element could be asked for its tag and then,
if it is no select box, be filled with exactly that text, and if it is one, be clicked and asked to
choose exactly that text. Whether anything was chosen makes no difference, while choosing the same
text there succeeds exactly if something is chosen. On a rehearsed page the text is the value of the
element from then on, unless it is a select box without such an option, which keeps its value. -/
theorem Step.setText_tells {text selector : Value} {s : Step σ} {t : Step Rehearsal.Page}
    (hs : setText text selector = .ok s) (ht : setText text selector = .ok t) :
    (∀ c d token around m, (∃ n, s.execute c token around m = (.done d, n)) ∧
      d.failure = none ↔
      ∃ started l k ys xs, s.startOn c token m = some started ∧
        Typing text selector around started c d l k ys xs) ∧
    (∀ c d token around m n, s.execute c token around m = (.done d, n) → d.failure = none →
      ∃ started l k ys xs, s.startOn c token m = some started ∧
        Typing text selector around started c d l k ys xs ∧ Exchanged around k xs n ∧
        ∀ chosen, ⟨.selectOption l text.typed, .done chosen⟩ ∈ xs →
          ∀ (o : Machine σ) token,
          o.world = around.driver.worldAfterAll [.tagName l, .click l .none] k.world →
          stopReason token o = none →
          (selectComboText text.typed).HandsBack d token around o
            (if chosen.isEmpty then d.unchosen text.typed else d)
            [⟨.selectOption l text.typed, .done chosen⟩]) ∧
    ∀ c d token settings patience m n,
      t.execute c token ⟨Rehearsal.pageDriver, settings, patience⟩ m = (.done d, n) →
      d.failure = none →
      ∃ started l k ys xs e, t.startOn c token m = some started ∧
        Typing text selector ⟨Rehearsal.pageDriver, settings, patience⟩ started c d
          l k ys xs ∧
        k.world.elementAt l = .ok e ∧
        (n.world.condition e.label).value =
          (if e.tag = "select" ∧ Rehearsal.Page.isOption e text.typed = false
          then (k.world.condition e.label).value else text.typed) ∧
        ∀ chosen, ⟨.selectOption l text.typed, .done chosen⟩ ∈ xs →
          chosen.isEmpty = !Rehearsal.Page.isOption e text.typed := by
  refine ⟨fun c d token around m => ⟨?_, ?_⟩, ?_, ?_⟩
  · rintro ⟨⟨n, hrun⟩, hd⟩
    obtain ⟨started, l, k, ys, xs, hstarted, h, -⟩ := setText_unfailed hs hrun hd
    exact ⟨started, l, k, ys, xs, hstarted, h⟩
  · rintro ⟨started, l, k, ys, xs, hstarted, h⟩
    obtain ⟨n, hrun, -⟩ := setText_of_typing hs hstarted h
    exact ⟨⟨n, hrun⟩, h.unfailed⟩
  · intro c d token around m n hrun hd
    obtain ⟨started, l, k, ys, xs, hstarted, h, hxs⟩ := setText_unfailed hs hrun hd
    refine ⟨started, l, k, ys, xs, hstarted, h, hxs, fun chosen hchosen o token' ho hstop => ?_⟩
    have hreply := h.entered.reply_of_mem h.answering hchosen
    rw [← ho] at hreply
    exact selectComboText_handsBack hd hstop (Value.isNone_typed h.given) h.focus hreply
  · intro c d token settings patience m n hrun hd
    obtain ⟨started, l, k, ys, xs, hstarted, h, hxs⟩ := setText_unfailed ht hrun hd
    obtain ⟨e, hat, hvalue, hchosen⟩ := Rehearsal.entered_value h.entered h.answering
    have hworld : n.world = Rehearsal.pageDriver.worldAfterAll (xs.map Exchange.call) k.world :=
      hxs.world
    rw [← hworld] at hvalue
    exact ⟨started, l, k, ys, xs, e, hstarted, h, hat, hvalue, hchosen⟩

/-- A page with a select box. -/
def Rehearsal.countryBox : Page where
  root := plainElement "page" "html"
    [.node ⟨"country", "select", none, none, [], [], ["France", "Norway"], none⟩ []]

theorem Step.setText_tells_country :
    let around : Surroundings Rehearsal.Page := ⟨Rehearsal.pageDriver, .ok {}, 0⟩
    let l : Locator := .root none "select" none
    let c : Context :=
      { session := ⟨"fake", "s"⟩, focus := some (.element l), items := 0, sink := .recorder }
    ∃ s : Step Rehearsal.Page, setText (.secret "Norway") = .ok s ∧ ∃ n,
      s.execute c none around (Machine.start Rehearsal.countryBox) = (.done c, n) ∧
      ∃ started l k ys xs e,
        s.startOn c none (Machine.start Rehearsal.countryBox) = some started ∧
        Typing (.secret "Norway") .none around started c c l k ys xs ∧
        k.world.elementAt l = .ok e ∧
        (n.world.condition e.label).value =
          (if e.tag = "select" ∧ Rehearsal.Page.isOption e (.str "Norway") = false
          then (k.world.condition e.label).value else .str "Norway") ∧
        ∀ chosen, ⟨.selectOption l (.str "Norway"), .done chosen⟩ ∈ xs →
          chosen.isEmpty = !Rehearsal.Page.isOption e (.str "Norway") := by
  intro around l c
  have hs : (setText (.secret "Norway") : Except Raised (Step Rehearsal.Page)) = .ok _ := rfl
  obtain ⟨-, -, hpage⟩ := setText_tells hs hs
  exact ⟨_, hs, _, rfl,
    hpage c c none (.ok {}) 0 (Machine.start Rehearsal.countryBox) _ rfl rfl⟩

/-- The text of no option is set without a failure, and the select box keeps its value; choosing the
same text fails. -/
theorem Step.setText_unchosen :
    let around : Surroundings Rehearsal.Page := ⟨Rehearsal.pageDriver, .ok {}, 0⟩
    let l : Locator := .root none "select" none
    let c : Context :=
      { session := ⟨"fake", "s"⟩, focus := some (.element l), items := 0, sink := .recorder }
    let m := Machine.start Rehearsal.countryBox
    (∃ s : Step Rehearsal.Page, setText (.str "Atlantis") = .ok s ∧ ∃ n,
      s.execute c none around m = (.done c, n) ∧ c.failure = none ∧
      (n.world.condition "country").value = .none) ∧
    ∃ n, (selectComboText (.str "Atlantis")).execute c none around m =
      (.done { c with failure := some ⟨.assertion, "Can't find combo text 'Atlantis'",
        some "select_combo_text", some "FlowAssertionError"⟩ }, n) :=
  ⟨⟨_, rfl, _, rfl, rfl, rfl⟩, _, rfl⟩

end BrowserFlow
