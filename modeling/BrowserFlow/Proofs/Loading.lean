import BrowserFlow.Proofs.Framing
import BrowserFlow.Proofs.Typing
import Mathlib.Data.List.Basic

/-!
# Waiting for a page to load

A remote browser that is asked for the title goes to the top-level document first. A wait for the
page to load does not: it asks for the state of the document that happens to be current. When a link
is followed that is the document the link was clicked in, since nothing but going to the top level,
entering a frame and opening or closing a page takes the browser to another one. So every look of
that wait is into the frame that the context is confined to, and into the top-level document, whose
title is read afterwards, only if there is none.
-/
namespace BrowserFlow

namespace Proc

variable {s α β γ : Type}

/-- The procedure leaves a part of the state as it was, however it ends. -/
def Leaves (part : s → γ) (p : Proc s α) : Prop := ∀ st, part (p st).2 = part st

namespace Leaves

variable {part : s → γ}

theorem eq {p : Proc s α} (hp : p.Leaves part) {st next : s} {o : Outcome α}
    (h : p st = (o, next)) : part next = part st := by
  have hleft := hp st
  rwa [h] at hleft

theorem pure (a : α) : (Pure.pure a : Proc s α).Leaves part := fun _ => rfl

theorem raise (e : Raised) : (Proc.raise e : Proc s α).Leaves part := fun _ => rfl

theorem ofExcept (x : Except Raised α) : (Proc.ofExcept x : Proc s α).Leaves part := by
  cases x with
  | ok a => exact pure a
  | error e => exact raise e

theorem read : (Proc.read : Proc s s).Leaves part := fun _ => rfl

theorem bind {p : Proc s α} {f : α → Proc s β} (hp : p.Leaves part)
    (hf : ∀ a, (f a).Leaves part) : (p >>= f).Leaves part := by
  intro st
  have hfirst := hp st
  rw [Proc.bind_apply]
  rcases h : p st with ⟨a | e | _, next⟩ <;> rw [h] at hfirst
  · exact (hf a next).trans hfirst
  · exact hfirst
  · exact hfirst

theorem attempt {p : Proc s α} (hp : p.Leaves part) : p.attempt.Leaves part := by
  intro st
  have hfirst := hp st
  rw [Proc.attempt]
  rcases h : p st with ⟨a | e | _, next⟩ <;> rw [h] at hfirst <;> exact hfirst

theorem rounds {round : α → Proc s (α ⊕ β)} (hround : ∀ a, (round a).Leaves part) (n : Nat)
    (a : α) : (Proc.rounds round n a).Leaves part := by
  induction n generalizing a with
  | zero => exact fun _ => rfl
  | succ n ih =>
    refine (hround a).bind fun next => ?_
    cases next with
    | inl b => exact ih b
    | inr r => exact pure r

end Leaves

/-- What every round leaves as it was is still so when a round begins. -/
theorem Begins.part_eq {part : s → γ} {round : α → Proc s (α ⊕ β)}
    (hround : ∀ a, (round a).Leaves part) {n : Nat} {a b : α} {st last : s}
    (h : Begins round n a st b last) : part last = part st := by
  induction h with
  | first => rfl
  | later hturn _ ih => exact ih.trans ((hround _).eq hturn)

end Proc

namespace Remote

/-- The command does not take the browser to another frame. -/
def Command.staysInFrame : Command → Bool
  | start .. | defaultContent | enterFrame _ | visit _ | quit => false
  | _ => true

namespace Framing

variable {τ π α β : Type} {b : Browser τ} (fr : Framing b π)

/-- No other commands change the current frame, however they end. -/
def Steady : Prop :=
  ∀ c : Command, c.staysInFrame = true → ∀ w, fr.current (b.perform c w).2 = fr.current w

/-- The frames that a browser is in where look-ups are confined to a frame: the one that its
selector leads to from the top level, or none. -/
inductive Leads : Option Frame → List ElementRef → Prop
  | top : Leads none []
  | into {frame : Frame} {top found : τ} {el : ElementRef} (htop : fr.current top = [])
    (hfound : b.perform (.findElement (Selector.lookup frame.selector).1
      (Selector.lookup frame.selector).2) top = (.done el, found)) : Leads (some frame) [el]

variable {fr}

theorem Leads.eq_nil_iff {scope : Option Frame} {els : List ElementRef} (h : fr.Leads scope els) :
    els = [] ↔ scope = none := by
  cases h <;> simp

theorem IsAt.leads {scope : Option Frame} {w : τ} (h : fr.IsAt scope w) :
    fr.Leads scope (fr.current w) := by
  cases scope with
  | none =>
    have htop : fr.current w = [] := h
    rw [htop]
    exact .top
  | some frame =>
    obtain ⟨top, found, el, htop, hfound, -, hcurrent⟩ := h
    rw [hcurrent]
    exact .into htop hfound

variable (fr) in
/-- The frames around the current document of a browser at work. -/
def frames (rig : Rig (Station τ)) : List ElementRef := fr.current rig.world.browser

end Framing

namespace Line

variable {τ π α : Type} {line : Line τ} {fr : Framing line.browser π}

section Staying

variable (hsteady : fr.Steady)
include hsteady

theorem stays_send {c : Command} (hc : c.staysInFrame = true) : (line.send c).Leaves fr.frames :=
  fun rig => hsteady c hc rig.world.browser

theorem stays_sleep : line.sleep.Leaves fr.frames :=
  .bind (.ofExcept _) fun _ => .bind (fun _ => rfl) fun _ => stays_send hsteady rfl

theorem stays_afterLook (deadline : Float) (message : String) (seen : Bool) :
    (line.afterLook deadline message seen).Leaves fr.frames := by
  rw [afterLook]
  split
  · exact .pure _
  · refine .bind .read fun now => ?_
    split
    · exact .raise _
    · exact .bind (stays_sleep hsteady) fun _ => .pure _

theorem stays_look (deadline : Float) {ready : Work τ Bool} (hready : ready.Leaves fr.frames)
    (ignored : List BrowserErrorClass) (message : String) :
    (line.look deadline ready ignored message ()).Leaves fr.frames := by
  rw [look_eq]
  refine .bind hready.attempt fun looked => ?_
  cases looked with
  | ok seen => exact stays_afterLook hsteady deadline message seen
  | error e =>
    dsimp only
    split
    · exact stays_afterLook hsteady deadline message false
    · exact .raise e

theorem stays_waitUntil (timeout : Value) {ready : Work τ Bool} (hready : ready.Leaves fr.frames)
    (message : String) (ignored : List BrowserErrorClass) :
    (line.waitUntil timeout ready message ignored).Leaves fr.frames :=
  .bind (.ofExcept _) fun _ => .bind (.ofExcept _) fun _ => .bind .read fun _ =>
    .rounds (fun _ => stays_look hsteady _ hready ignored message) _ _

theorem stays_isClickable (el : ElementRef) : (line.isClickable el).Leaves fr.frames := by
  refine .bind (stays_send hsteady rfl) fun displayed => ?_
  split
  · exact stays_send hsteady rfl
  · exact .pure false

theorem stays_isLoaded : line.isLoaded.Leaves fr.frames :=
  .bind (stays_send hsteady rfl) fun _ => .pure _

/-- Each look of a wait for the page to load is into the frame that was current when it began. -/
theorem current_of_looks {wait : Value} {message : String} {rig last : Rig (Station τ)}
    (h : line.Looks wait line.isLoaded message [] rig last) :
    fr.frames last = fr.frames rig := by
  obtain ⟨length, poll, -, -, hbegins⟩ := h
  exact hbegins.part_eq fun _ => stays_look hsteady _ (stays_isLoaded hsteady) _ _

/-! ### Where a click leaves the browser -/

theorem leads_elements {l : Locator} {rig next : Rig (Station τ)} {found : List ElementRef}
    (h : line.elements l rig = (.done found, next)) :
    fr.Leads l.scope (fr.frames next) := by
  induction l generalizing found next with
  | root scope selector index =>
    obtain ⟨_, entered, hentered, hfound⟩ := Proc.bind_eq_done_iff.1 h
    rcases hlookup : Selector.lookup selector with ⟨how, value⟩
    have hfree : (line.send (.findElements how value)).Leaves fr.frames := stays_send hsteady rfl
    rw [hlookup] at hfound
    rw [hfree.eq hfound]
    exact (isAt_of_enterScope fr hentered).leads
  | child parent selector index ih =>
    -- The frame is entered for the outermost locator; what lies below is found without leaving it.
    obtain ⟨above, middle, hparent, hrest⟩ := Proc.bind_eq_done_iff.1 h
    obtain ⟨base, picked, hbase, hfound⟩ := Proc.bind_eq_done_iff.1 hrest
    rcases hlookup : Selector.lookupUnder selector with ⟨how, value⟩
    have hfree : (line.send (.findUnder base how value)).Leaves fr.frames := stays_send hsteady rfl
    have hpicked : (Proc.ofExcept (pick parent (indexOf parent) above)).Leaves fr.frames :=
      .ofExcept _
    rw [hlookup] at hfound
    rw [hfree.eq hfound, hpicked.eq hbase]
    exact ih hparent

theorem leads_element {l : Locator} {rig next : Rig (Station τ)} {el : ElementRef}
    (h : line.element l rig = (.done el, next)) :
    fr.Leads l.scope (fr.frames next) := by
  obtain ⟨found, middle, hfound, hpicked⟩ := Proc.bind_eq_done_iff.1 h
  have hkept : (Proc.ofExcept (pick l (indexOf l) found)).Leaves fr.frames := .ofExcept _
  rw [hkept.eq hpicked]
  exact leads_elements hsteady hfound

/-- A click leaves the browser in the frame that the element was looked up in. -/
theorem leads_click {l : Locator} {timeout : Value} {rig next : Rig (Station τ)}
    (h : line.click l timeout rig = (.done (), next)) :
    fr.Leads l.scope (fr.frames next) := by
  obtain ⟨el, found, hfound, hclicked⟩ := Proc.bind_eq_done_iff.1 h
  have hkept : Proc.Leaves fr.frames (do
      if timeout.isTrue then
        line.waitUntil timeout (line.isClickable el)
          ("'" ++ l.path ++ "' not clickable after " ++ timeout.text ++ "s")
      line.send (.click el)) := by
    split
    · exact .bind (stays_waitUntil hsteady _ (stays_isClickable hsteady el) _ _) fun _ =>
        stays_send hsteady rfl
    · exact stays_send hsteady rfl
  rw [hkept.eq hclicked]
  exact leads_element hsteady hfound

end Staying

theorem guarded_done_iff {p : Work τ α} {rig next : Rig (Station τ)} {a : α} :
    guarded p rig = (.done a, next) ↔ p rig = (.done a, next) := by
  rw [guarded, Proc.bind_apply, Proc.attempt]
  rcases p rig with ⟨a' | e | _, middle⟩ <;> simp [Proc.raise]

/-- The title is read in the top-level document, whichever frame was current. -/
theorem title_done {session : Session} {rig next : Rig (Station τ)} {title : String}
    (h : line.work (.title session) rig = (.done title, next)) :
    ∃ top, fr.frames top = [] ∧ line.send .title top = (.done title, next) := by
  obtain ⟨_, top, htop, hread⟩ := Proc.bind_eq_done_iff.1 h
  exact ⟨top, isAt_of_enterScope fr htop, hread⟩

end Line

end Remote

/-! ### The calls of a step that follows a link -/

variable {σ : Type} {around : Surroundings σ}

/-- A leeway in which the driver is called through locators alone. -/
def Leeway.locating (around : Surroundings σ) : Leeway σ where
  moves m n := ∃ xs, Exchanged around m xs n ∧ ∀ x ∈ xs, x.call.locator?.isSome = true
  errors _ := True

theorem Leeway.locating_tolerates (around : Surroundings σ) :
    (locating around).Tolerates around fun k => k.locator?.isSome = true where
  refl m := ⟨[], .refl around m, by simp⟩
  trans := by
    rintro m n o ⟨xs, hxs, hlocated⟩ ⟨ys, hys, hlocated'⟩
    exact ⟨xs ++ ys, hxs.trans hys, List.forall_mem_append.2 ⟨hlocated, hlocated'⟩⟩
  emit he m := ⟨[], .emit around (fun k hk => by simp [hk, Event.isAside] at he) m, by simp⟩
  fresh m := ⟨[], .still rfl rfl, by simp⟩
  call k hk m := ⟨⟨_, .call around k m, by simpa using hk⟩, fun _ _ => trivial⟩
  own _ := trivial
  leaving _ := trivial
  settings _ := trivial
  failing sink text m := ⟨[], .given around .error text sink m, by simp⟩

/-- Two actions exchange what the first does and then, if it has a result, what the second does. -/
theorem Action.bind_exchanged {α β : Type} {p : Action σ α} {f : α → Action σ β}
    {P : List Exchange → Prop} {xs : List Exchange} {m : Machine σ} (hnone : P [])
    (hp : Exchanged around m xs (p around m).2)
    (hf : ∀ a n, ∃ ys, Exchanged around n ys (f a around n).2 ∧ P ys) :
    ∃ ys, Exchanged around m (xs ++ ys) ((p >>= f) around m).2 ∧ P ys := by
  rw [bind_run]
  rcases h : p around m with ⟨a | e | _, n⟩ <;> rw [h] at hp
  · obtain ⟨ys, hys, hP⟩ := hf a n
    exact ⟨ys, hp.trans hys, hP⟩
  · exact ⟨[], by rwa [List.append_nil], hnone⟩
  · exact ⟨[], by rwa [List.append_nil], hnone⟩

namespace Action.Keeps

variable {L : Leeway σ} {asks : Call → Prop} {α : Type}

theorem attempt {p : Action σ α} (hp : p.Keeps around L) : p.attempt.Keeps around L := by
  intro m
  have hmoves := (hp m).1
  rw [attempt_run]
  rcases h : p around m with ⟨a | e | _, n⟩ <;> rw [h] at hmoves <;>
    exact ⟨hmoves, fun e he => by cases he⟩

theorem timeout (hL : L.Covers around asks) (given : Value) (fallback : Settings → Float) :
    (Action.timeout given fallback).Keeps around L := by
  rw [Action.timeout]
  split
  · exact (settings hL).bind hL fun s => .pure hL _
  · exact .pure hL _

end Action.Keeps

namespace Step

variable {c d : Context} {token : Option Token} {m n : Machine σ} {selector title : Value}

/-- A step of the library that is started exchanges what its body does. -/
theorem execute_exchanged_of_started {name : String} {args : List (String × Value)}
    {body : Context → Action σ Context} {k : Machine σ} {xs : List Exchange}
    (hstarted : (ofBody name args body).startOn c token m = some k)
    (hbody : Exchanged around k xs (body c around k).2) :
    Exchanged around m xs ((ofBody name args body).execute c token around m).2 := by
  have hcalled : ((ofBody name args body).call c around k).2 = (body c around k).2 := by
    rw [call, Action.awaited_machine, ofBody_run]
    rcases body c around k with ⟨d | e | _, o⟩ <;> rfl
  rw [(execute_of_started _ token around m hstarted).2, hcalled]
  obtain ⟨-, -, rfl⟩ := (startOn_eq_some ..).1 hstarted
  have hannounced := Exchanged.given around .step (ofBody name args body).describe c.sink m
  exact (hannounced.trans hbody).onward (exchanged_settled ..)

/-- Executing a step of the library exchanges what its body does, or nothing. -/
theorem execute_exchanged {P : List Exchange → Prop} (hnone : P []) {name : String}
    {args : List (String × Value)} {body : Context → Action σ Context}
    (hbody : ∀ k, ∃ xs, Exchanged around k xs (body c around k).2 ∧ P xs)
    (token : Option Token) (m : Machine σ) :
    ∃ xs, Exchanged around m xs ((ofBody name args body).execute c token around m).2 ∧
      P xs := by
  by_cases hc : c.failure = none
  · cases hstop : stopReason token m with
    | some reason =>
      rw [execute_run _ token around m hc, hstop]
      exact ⟨[], .given around .error _ c.sink m, hnone⟩
    | none =>
      obtain ⟨xs, hxs, hP⟩ := hbody (c.sink.given .step (ofBody name args body).describe m)
      have hstarted := (startOn_eq_some (ofBody name args body) token m).2 ⟨hc, hstop, rfl⟩
      exact ⟨xs, execute_exchanged_of_started hstarted hxs, hP⟩
  · rw [execute_of_failed _ token around m hc]
    exact ⟨[], .refl around m, hnone⟩

/-- Waiting for matches and counting them goes through one locator. -/
theorem countAfterWait_locates (q : Query) (l : Locator) :
    (q.countAfterWait l).Keeps around (.locating around) := by
  have hL := (Leeway.locating_tolerates around).toCovers
  refine .bind hL (.timeout hL _ _) fun timeout => ?_
  refine .bind hL (.attempt (.call hL rfl)) fun waited => ?_
  cases waited with
  | ok _ =>
    refine .bind hL (.call hL rfl) fun count => ?_
    split
    · exact .raise hL trivial
    · exact .pure hL _
  | error e => exact .raise hL trivial

theorem finding_locates (selector : Value) (c : Context) :
    (Interact.finding selector c).Keeps around (.locating around) := by
  have hL := (Leeway.locating_tolerates around).toCovers
  have hplace : ∀ q : Query, (q.inScope c).Keeps around (.locating around) := fun q =>
    .bind hL (.ofExcept hL fun _ _ => trivial) fun _ => .pure hL _
  have hone : ∀ (q : Query) (index : Value) (l : Locator),
      (q.one index l).Keeps around (.locating around) := fun q index l =>
    .bind hL (countAfterWait_locates q l) fun count =>
      .bind hL (.ofExcept hL fun _ _ => trivial) fun _ => .pure hL _
  intro m
  rw [Interact.finding]
  split
  · exact Action.Keeps.pure hL c m
  · refine ⟨execute_exchanged (by simp) (fun k => ?_) none m, fun _ _ => trivial⟩
    let q : Query := ⟨"find", selector, .style, .none⟩
    have hbody := Action.Keeps.bind hL (hplace q) fun l =>
      .bind hL (hone q (.int 0) l) fun found => .pure hL (c.withFocus found)
    exact (hbody k).1

theorem click_locates (around : Surroundings σ) (selector : Value) (c : Context)
    (token : Option Token) (m : Machine σ) :
    (Leeway.locating around).moves m ((click selector).execute c token around m).2 := by
  have hL := (Leeway.locating_tolerates around).toCovers
  have hfocus : ∀ d, (Interact.focus d "click").Keeps around (.locating around) := by
    intro d
    rw [Interact.focus]
    split
    · exact .pure hL _
    · exact .raise hL trivial
  have hclick : ∀ f, (Interact.element f "click" >>= fun l =>
      Action.timeout .none Settings.actionTimeout >>= fun timeout =>
        Action.call (.click l timeout)).Keeps around (.locating around) := fun f =>
    .bind hL (.ofExcept hL fun _ _ => trivial) fun l =>
      .bind hL (.timeout hL _ _) fun _ => .call hL rfl
  refine execute_exchanged (by simp) (fun k => ?_) token m
  rw [Interact.afterFinding_eq]
  refine (Action.Keeps.bind hL (finding_locates selector c) (fun d => ?_) k).1
  split
  · exact .pure hL d
  · refine .bind hL (hfocus d) fun f => .bind hL (fun k => ?_) fun _ => .pure hL d
    rw [Interact.naming_run]
    exact ⟨(hclick f k).1, fun _ _ => trivial⟩

/-- Settling how long to wait leaves the machine alone. -/
theorem timeout_machine (around : Surroundings σ) (given : Value) (fallback : Settings → Float)
    (m : Machine σ) : (Action.timeout given fallback around m).2 = m := by
  rw [Action.timeout_run]
  split
  · cases around.settings <;> rfl
  · rfl

/-- What a finder without a failure has in focus is in the frame of the context. -/
theorem finding_focus (hselector : selector.isNone = false)
    (h : Interact.finding selector c around m = (.done d, n)) (hd : d.failure = none) :
    ∃ l, d.focus = some (.element l) ∧ l.scope = c.scope := by
  rw [Interact.finding, hselector, if_neg Bool.false_ne_true] at h
  obtain ⟨k, -, hbody⟩ := execute_ofBody_unfailed_run h hd
  obtain ⟨l, o, hplace, hrest⟩ := (Action.bind_eq_done ..).1 hbody
  obtain ⟨found, o', hfound, hlast⟩ := (Action.bind_eq_done ..).1 hrest
  cases hlast
  obtain ⟨_, _, -, hlocated⟩ := (Action.bind_eq_done ..).1 hplace
  cases hlocated
  obtain ⟨count, _, -, hindexed⟩ := (Action.bind_eq_done ..).1 hfound
  obtain ⟨i, _, -, hnth⟩ := (Action.bind_eq_done ..).1 hindexed
  cases hnth
  exact ⟨_, rfl, rfl⟩

/-- A click without a failure ends with the click itself, on an element in the frame of the context;
what came before went through locators. -/
theorem click_unfailed (hselector : selector.isNone = false)
    (h : (click selector).execute c token around m = (.done d, n)) (hd : d.failure = none) :
    ∃ xs l timeout, Exchanged around m (xs ++ [⟨.click l timeout, .done ()⟩]) n ∧
      (∀ x ∈ xs, x.call.locator?.isSome = true) ∧ l.scope = c.scope := by
  obtain ⟨k, hk, hbody⟩ := execute_ofBody_unfailed_run h hd
  obtain ⟨-, -, rfl⟩ := (startOn_eq_some ..).1 hk
  rw [Interact.afterFinding_eq] at hbody
  obtain ⟨d', o, hfound, hact⟩ := (Action.bind_eq_done ..).1 hbody
  obtain ⟨xs, hxs, hlocated⟩ := (finding_locates selector c).moved hfound
  by_cases hd' : d'.failure = none
  · obtain ⟨l, hfocus, hscope⟩ := finding_focus hselector hfound hd'
    simp only [Context.hasFailure_of_none hd', Bool.false_eq_true, if_false] at hact
    obtain ⟨f, o', hf, hrest⟩ := (Action.bind_eq_done ..).1 hact
    rw [Interact.focus, hfocus] at hf
    cases hf
    obtain ⟨_, o'', hclicked, hlast⟩ := (Action.bind_eq_done ..).1 hrest
    cases hlast
    obtain ⟨l', p, hl, hwaited⟩ := (Action.bind_eq_done ..).1 (Interact.naming_done.1 hclicked)
    cases hl
    obtain ⟨timeout, q, htimeout, hcall⟩ := (Action.bind_eq_done ..).1 hwaited
    have hstill : _ = q := congrArg Prod.snd htimeout
    rw [timeout_machine] at hstill
    subst hstill
    refine ⟨xs, l, timeout, ?_, hlocated, hscope⟩
    exact ((Exchanged.given around ..).trans hxs).trans (.of_call hcall)
  · simp only [Context.hasFailure_of_ne hd', if_true] at hact
    cases hact
    exact absurd hd hd'

/-- What is exchanged when a link is followed: the link is found and clicked, then there may be one
wait for the page to load, and after that nothing but a look at the title. -/
inductive Following (scope : Option Frame) (session : Session) : List Exchange → Prop
  | unwaited {xs : List Exchange} (hxs : ∀ x ∈ xs, x.call.locator?.isSome = true) :
    Following scope session xs
  | waited {xs ys : List Exchange} {l : Locator} {timeout wait : Value} {r : Outcome Unit}
    (hxs : ∀ x ∈ xs, x.call.locator?.isSome = true) (hl : l.scope = scope)
    (hys : ∀ y ∈ ys, y.call = .title session) :
    Following scope session (xs ++ ⟨.click l timeout, .done ()⟩ ::
      ⟨.waitForLoad session wait, r⟩ :: ys)

/-- What is left to do once the link was clicked and it is settled how long to wait. -/
def afterClick (title : Value) (c clicked : Context) (wait : Value) : Action σ Context := do
  Interact.naming "follow_link" (Action.call (.waitForLoad c.session wait))
  let actual ← Action.call (.title c.session)
  if title.isText (some actual) then return clicked else Action.raise (otherTitle title actual)

theorem followLink_eq (selector title timeout : Value) :
    (followLink selector title timeout : Step σ) =
      .ofBody "follow_link" [("selector", selector), ("title", title)] fun c =>
        requireValue selector "follow_link" "selector" >>= fun selector =>
        requireValue title "follow_link" "target title" >>= fun title =>
        (click selector).execute c >>= fun clicked =>
          if clicked.hasFailure then pure clicked
          else Action.timeout timeout Settings.loadTimeout >>= afterClick title c clicked := rfl

theorem afterClick_exchanged (around : Surroundings σ) (title : Value) (c clicked : Context)
    (wait : Value) (m : Machine σ) :
    ∃ r ys, Exchanged around m (⟨.waitForLoad c.session wait, r⟩ :: ys)
        (afterClick title c clicked wait around m).2 ∧
      ∀ y ∈ ys, y.call = .title c.session := by
  have hwaited : Exchanged around m
      [⟨.waitForLoad c.session wait, around.driver.reply (.waitForLoad c.session wait) m.world⟩]
      (Interact.naming "follow_link" (Action.call (.waitForLoad c.session wait)) around m).2 := by
    rw [Interact.naming_run]
    exact .call around _ m
  let judge : String → Action σ Context := fun actual =>
    if title.isText (some actual) then pure clicked else Action.raise (otherTitle title actual)
  have hjudge : ∀ actual (o : Machine σ), Exchanged around o [] (judge actual around o).2 := by
    intro actual o
    simp only [judge]
    split <;> exact .refl around o
  have hread : ∀ n : Machine σ, ∃ ys, Exchanged around n ys
      ((Action.call (.title c.session) >>= judge) around n).2 ∧
      ∀ y ∈ ys, y.call = .title c.session := by
    intro n
    obtain ⟨_, hys, rfl⟩ := Action.bind_exchanged (f := judge) (P := (· = [])) rfl
      (.call around (.title c.session) n) fun actual o => ⟨[], hjudge actual o, rfl⟩
    exact ⟨_, hys, by simp⟩
  obtain ⟨ys, hys, hafter⟩ := Action.bind_exchanged (by simp) hwaited fun _ n => hread n
  exact ⟨_, ys, hys, hafter⟩

/-- Once the link was clicked there is a wait, unless the settings that tell how long to wait cannot
be had. -/
theorem afterClick_follows {xs : List Exchange} {l : Locator} {limit : Value}
    (hclicked : Exchanged around m (xs ++ [⟨.click l limit, .done ()⟩]) n)
    (hfound : ∀ x ∈ xs, x.call.locator?.isSome = true) (hl : l.scope = c.scope)
    (title timeout : Value) (d : Context) :
    ∃ zs, Exchanged around m zs
        ((Action.timeout timeout Settings.loadTimeout >>= afterClick title c d) around n).2 ∧
      Following c.scope c.session zs := by
  have hstill := timeout_machine around timeout Settings.loadTimeout n
  have hunwaited : Following c.scope c.session (xs ++ [⟨.click l limit, .done ()⟩]) :=
    .unwaited (List.forall_mem_append.2 ⟨hfound, by simp [Call.locator?]⟩)
  rw [Action.bind_run]
  -- However this ends, the machine is the one that the click left.
  rcases hsettled : Action.timeout timeout Settings.loadTimeout around n with
    ⟨wait | e | _, o⟩ <;> rw [hsettled] at hstill <;> obtain rfl : o = n := hstill
  · obtain ⟨r, ys, hys, hafter⟩ := afterClick_exchanged around title c d wait o
    refine ⟨_, hclicked.trans hys, ?_⟩
    rw [List.append_assoc]
    exact .waited hfound hl hafter
  · exact ⟨_, hclicked, hunwaited⟩
  · exact ⟨_, hclicked, hunwaited⟩

theorem followLink_follows (around : Surroundings σ) (selector title timeout : Value) (c : Context)
    (token : Option Token) (m : Machine σ) :
    ∃ xs, Exchanged around m xs
        ((followLink selector title timeout).execute c token around m).2 ∧
      Following c.scope c.session xs := by
  rw [followLink_eq]
  refine execute_exchanged (.unwaited (by simp)) (fun k => ?_) token m
  by_cases hselector : selector.isNone
  · simp only [requireValue, hselector, if_true]
    exact ⟨[], .refl around k, .unwaited (by simp)⟩
  by_cases htitle : title.isNone
  · simp only [requireValue, hselector, htitle, if_true, pure_bind, Bool.false_eq_true, if_false]
    exact ⟨[], .refl around k, .unwaited (by simp)⟩
  simp only [requireValue, hselector, htitle, pure_bind, Bool.false_eq_true, if_false]
  obtain ⟨xs, hxs, hlocated⟩ := click_locates around selector c none k
  rw [Action.bind_run]
  rcases hclick : (click selector).execute c none around k with ⟨d | e | _, n⟩ <;>
    rw [hclick] at hxs
  · by_cases hd : d.failure = none
    · obtain ⟨xs, l, limit, hclicked, hfound, hl⟩ :=
        click_unfailed (by simpa using hselector) hclick hd
      simp only [Context.hasFailure_of_none hd, Bool.false_eq_true, if_false]
      exact afterClick_follows hclicked hfound hl title timeout d
    · simp only [Context.hasFailure_of_ne hd, if_true]
      exact ⟨xs, hxs, .unwaited hlocated⟩
  · exact ⟨xs, hxs, .unwaited hlocated⟩
  · exact ⟨xs, hxs, .unwaited hlocated⟩

/-- Where no time is given it is taken from the settings. -/
theorem timeout_none {settings : Settings} (hsettings : around.settings = .ok settings)
    (fallback : Settings → Float) (m : Machine σ) :
    Action.timeout .none fallback around m = (.done (.float (fallback settings)), m) := by
  have hgiven : Value.none.isNone = true := rfl
  rw [Action.timeout_run, if_pos hgiven, hsettings]
  rfl

/-- What is exchanged when a link is found, of which there are `count`, and the first is clicked. -/
def foundAndClicked (settings : Settings) (l : Locator) (count : Int) : List Exchange :=
  [⟨.waitFor l (.float settings.findTimeout) (.bool false), .done ()⟩,
    ⟨.count l, .done count⟩,
    ⟨.click (l.nth (.whole 0)) (.float settings.actionTimeout), .done ()⟩]

section

variable {settings : Settings} {text : String} {count : Int}
  (hsettings : around.settings = .ok settings) (htext : text.toList.all Text.isBlank = false)
  (hcount : 0 < count) (hc : c.failure = none) (hstop : stopReason none m = none)
  (h : around.driver.Answering m.world (foundAndClicked settings (c.locate text) count))
include hsettings htext hcount hc hstop h

theorem click_handsBack :
    (click (.str text)).HandsBack c none around m
      (c.withFocus ((c.locate text).nth (.whole 0)))
      (foundAndClicked settings (c.locate text) count) := by
  let l := c.locate text
  let k := c.sink.given .step (click (.str text) : Step σ).describe m
  have hk : k.world = m.world := Sink.given_world ..
  obtain ⟨hwait, hrest⟩ := h.head
  obtain ⟨hcounted, hrest⟩ := hrest.head
  let xs : List Exchange := [⟨.waitFor l (.float settings.findTimeout) (.bool false), .done ()⟩,
    ⟨.count l, .done count⟩]
  have hsought : Sought around l (.float settings.findTimeout) k.world count xs := by
    rw [hk]
    exact .counted hwait hcounted
  have htimeout : around.findTimeout .none = .ok (.float settings.findTimeout) := by
    simp [Surroundings.findTimeout, Value.isNone, hsettings, Except.map]
  have hfind : (find (.str text) : Step σ).HandsBack c none around k
      (Finder.focused "find" text l count 0 c) xs :=
    Query.focusing_handsBack htimeout
      (fun _ => Finder.place_run (k := ⟨false, .style⟩) htext rfl)
      hc (by simpa [stopReason, k] using hstop) hsought 0
  obtain ⟨n, hfound, hxs⟩ := hfind
  rw [Finder.focused_of_inside (by omega)] at hfound
  have hn : around.driver.worldAfter (.count l) (around.driver.worldAfter
      (.waitFor l (.float settings.findTimeout) (.bool false)) m.world) = n.world := by
    rw [hxs.world, hk]
    rfl
  rw [hn] at hrest
  obtain ⟨o, hclicked, -⟩ := hrest.call_run
  refine handsBack_of_done hc hstop ?_ (hxs.trans (.of_call hclicked))
  have hnamed : Interact.naming "click" (Interact.element (.element (l.nth (.whole 0))) "click" >>=
      fun l => Action.timeout .none Settings.actionTimeout >>= fun timeout =>
        Action.call (.click l timeout)) around n = (.done (), o) :=
    Interact.naming_done.2 ((Action.bind_done (timeout_none hsettings _ n) _).trans hclicked)
  rw [Interact.afterFinding_eq]
  refine (Action.bind_done hfound _).trans ?_
  rw [Context.hasFailure_of_none (by exact hc), if_neg Bool.false_ne_true]
  exact Action.bind_done hnamed _

/-- Once the link was clicked the wait is made. -/
theorem followLink_waits (htitle : title.isNone = false) :
    ∃ r ys, Exchanged around m (foundAndClicked settings (c.locate text) count ++
      ⟨.waitForLoad c.session (.float settings.loadTimeout), r⟩ :: ys)
      ((followLink (.str text) title).execute c none around m).2 := by
  let k := c.sink.given .step (followLink (.str text) title : Step σ).describe m
  let d := c.withFocus ((c.locate text).nth (.whole 0))
  have hd : d.hasFailure = false := Context.hasFailure_of_none hc
  have hstarted : (followLink (.str text) title).startOn c none m = some k :=
    (startOn_eq_some ..).2 ⟨hc, hstop, rfl⟩
  have hk : k.world = m.world := Sink.given_world ..
  rw [← hk] at h
  obtain ⟨n, hclicked, hxs⟩ := click_handsBack hsettings htext hcount hc
    (by simpa [stopReason, k] using hstop) h
  obtain ⟨r, ys, hys, -⟩ :=
    afterClick_exchanged around title c d (.float settings.loadTimeout) n
  rw [followLink_eq] at hstarted ⊢
  refine ⟨r, ys, execute_exchanged_of_started hstarted ?_⟩
  have hbody : ((click (.str text)).execute c >>= fun clicked =>
      if clicked.hasFailure then pure clicked
      else Action.timeout .none Settings.loadTimeout >>= afterClick title c clicked) around k =
        afterClick title c d (.float settings.loadTimeout) around n := by
    refine (Action.bind_done hclicked _).trans ?_
    change (if d.hasFailure then pure d
      else Action.timeout .none Settings.loadTimeout >>= afterClick title c d) around n = _
    rw [hd, if_neg Bool.false_ne_true]
    exact Action.bind_done (timeout_none hsettings _ n) _
  have hgiven : (Value.str text).isNone = false := rfl
  simp only [requireValue, hgiven, htitle, Bool.false_eq_true, if_false, pure_bind]
  rw [hbody]
  exact hxs.trans hys

end

end Step

/-! ### Where the wait looks -/

namespace Driver.Answering

variable {d : Driver σ} {world : σ} {k : Call} {xs ys : List Exchange}

/-- Each of the calls in a list of exchanges is answered as told in the world that those before it
leave. -/
theorem reply_eq {r : Outcome k.Reply} (h : d.Answering world (xs ++ ⟨k, r⟩ :: ys)) :
    d.reply k (d.worldAfterAll (xs.map Exchange.call) world) = r := by
  induction xs generalizing world with
  | nil => exact h.head.1
  | cons x rest ih => exact ih h.head.2

theorem cons {a : k.Reply} {rig : Rig σ} (h : d.answer k ⟨world, []⟩ = (.done a, rig))
    (hrest : d.Answering rig.world xs) : d.Answering world (⟨k, .done a⟩ :: xs) := by
  have hreply : d.reply k world = .done a := by
    rw [Driver.reply, h]
    rfl
  have hafter : d.worldAfter k world = rig.world := by rw [Driver.worldAfter, h]
  rw [Driver.Answering, List.map_cons, Driver.exchanges, hreply, hafter]
  exact congrArg _ hrest

end Driver.Answering

namespace Remote.Line

variable {τ π : Type} {line : Line τ}

/-- A wait for the page to load that begins in one world puts its question to the browser in the
other state. -/
def PollsIn (line : Line τ) (wait : Value) (world : Station τ) (rig : Rig (Station τ)) : Prop :=
  line.Looks wait line.isLoaded ("Page not loaded after " ++ wait.text ++ "s") []
    ⟨world, []⟩ rig

theorem looks_pos (hpatience : 0 < line.patience) (timeout poll : Float) :
    0 < line.looks timeout poll := by
  rw [looks]
  split
  · decide
  · split <;> omega

/-- Wherever the times are numbers, the first look of such a wait is made right away. -/
theorem pollsIn_first (hpatience : 0 < line.patience) {wait : Value} {length poll : Float}
    (hlength : wait.toFloat = .ok length) (hpoll : (Value.ofNumber line.pause).toFloat = .ok poll)
    (world : Station τ) : line.PollsIn wait world ⟨world, []⟩ := by
  obtain ⟨n, hn⟩ := Nat.exists_eq_add_one.2 (line.looks_pos hpatience length poll)
  refine ⟨length, poll, hlength, hpoll, ?_⟩
  rw [hn]
  exact .first n () _

/-- A wait for what is there at the first look is over at once. -/
theorem waitUntil_of_ready (hpatience : 0 < line.patience) {timeout : Value} {length poll : Float}
    (hlength : timeout.toFloat = .ok length)
    (hpoll : (Value.ofNumber line.pause).toFloat = .ok poll) {ready : Work τ Bool}
    {rig next : Rig (Station τ)} (hready : ready rig = (.done true, next)) (message : String)
    (ignored : List BrowserErrorClass) :
    line.waitUntil timeout ready message ignored rig = (.done (), next) := by
  obtain ⟨n, hn⟩ := Nat.exists_eq_add_one.2 (line.looks_pos hpatience length poll)
  have hlook : line.look (rig.world.clock + length) ready ignored message () rig =
      (.done (.inr ()), next) := by
    rw [look_eq, Proc.bind_apply, Proc.attempt, hready]
    rfl
  rw [waitUntil, hlength, hpoll]
  change Proc.rounds _ (line.looks length poll) () rig = _
  rw [hn, Proc.rounds, Proc.bind_apply, hlook]
  rfl

/-- An element that can be clicked at the first look is clicked. -/
theorem click_of_ready (hpatience : 0 < line.patience) {l : Locator} {timeout : Value}
    {length poll : Float} (hlength : timeout.toFloat = .ok length)
    (hpoll : (Value.ofNumber line.pause).toFloat = .ok poll) {el : ElementRef}
    {rig found ready last : Rig (Station τ)} (hfound : line.element l rig = (.done el, found))
    (hready : line.isClickable el found = (.done true, ready))
    (hclick : line.send (.click el) ready = (.done (), last))
    (hunawaited : ∃ last, line.send (.click el) found = (.done (), last)) :
    ∃ last, line.click l timeout rig = (.done (), last) := by
  simp only [click, Proc.bind_apply, hfound]
  -- Without a time to wait the element is clicked unasked.
  by_cases htimeout : timeout.isTrue
  · have hwaited := waitUntil_of_ready hpatience hlength hpoll hready
      ("'" ++ l.path ++ "' not clickable after " ++ timeout.text ++ "s") []
    simp only [htimeout, if_true, Proc.bind_apply, hwaited]
    exact ⟨last, hclick⟩
  · simp only [htimeout, Bool.false_eq_true, if_false]
    exact hunawaited

/-- After a click on an element that was looked up in a frame a wait for the page to load looks into
that frame. -/
theorem polls_lead {fr : Framing line.browser π} (hsteady : fr.Steady) {l : Locator}
    {timeout wait : Value} {world : Station τ} {rig : Rig (Station τ)}
    (hclick : (driver line).reply (.click l timeout) world = .done ())
    (hpolls : line.PollsIn wait ((driver line).worldAfter (.click l timeout) world) rig) :
    fr.Leads l.scope (fr.frames rig) := by
  rw [current_of_looks hsteady hpolls]
  rcases hanswer : line.answer (.click l timeout) ⟨world, []⟩ with ⟨u | e | _, next⟩
  · have hworld : (driver line).worldAfter (.click l timeout) world = next.world :=
      congrArg (·.2.world) hanswer
    have hleads : fr.Leads l.scope (fr.frames next) :=
      leads_click hsteady (guarded_done_iff.1 hanswer)
    rw [hworld]
    exact hleads
  all_goals
    simp [Driver.reply, driver, hanswer, Outcome.leaving] at hclick

/-- So it does where the click was the last of several calls. -/
theorem polls_lead_after {fr : Framing line.browser π} (hsteady : fr.Steady)
    {xs ys : List Exchange} {l : Locator} {limit wait : Value} {world : Station τ}
    {rig : Rig (Station τ)}
    (h : (driver line).Answering world (xs ++ [⟨.click l limit, .done ()⟩] ++ ys))
    (hpolls : line.PollsIn wait
      ((driver line).worldAfterAll (xs.map Exchange.call ++ [.click l limit]) world) rig) :
    fr.Leads l.scope (fr.frames rig) := by
  rw [List.append_assoc] at h
  rw [Driver.worldAfterAll_append] at hpolls
  exact polls_lead hsteady h.reply_eq hpolls

end Remote.Line

/-! ### The frames of a rehearsed page -/

namespace Rehearsal.RemotePage

open Remote (Framing Command ElementRef)

variable {α : Type}

theorem onPage_stays (p : Proc Page α) : (onPage p).Leaves current := fun _ => rfl

theorem resolve_stays (el : ElementRef) : (resolve el).Leaves current := by
  refine .bind .read fun r => ?_
  split
  · exact .pure _
  · exact .raise _

theorem operate_stays (el : ElementRef) (operation : String) :
    (operate el operation).Leaves current :=
  .bind (resolve_stays el) fun _ => .bind (onPage_stays _) fun _ => .pure _

theorem perform_stays {c : Command} (hc : c.staysInFrame = true) : (perform c).Leaves current := by
  cases c with
  | start | defaultContent | enterFrame | visit | quit => cases hc
  | setPageLoadTimeout | title | sleep => exact onPage_stays _
  | findElement how value =>
    refine .bind (onPage_stays _) fun _ => .bind .read fun r => ?_
    split
    · exact .pure _
    · exact .raise _
  | findElements how value =>
    exact .bind (onPage_stays _) fun _ => .bind .read fun _ => .pure _
  | executeScript source args =>
    refine .bind (onPage_stays _) fun _ => ?_
    split
    · exact .bind (onPage_stays _) fun _ => .pure _
    · exact .pure _
  | findUnder el how value =>
    exact .bind (operate_stays el _) fun _ => .bind .read fun _ => .pure _
  | click el | clear el | isDisplayed el | isEnabled el | readAttribute el =>
    exact .bind (operate_stays el _) fun _ => onPage_stays _
  | doubleClick el | text el | tagName el =>
    exact .bind (operate_stays el _) fun _ => .pure _
  | sendKeys el keys =>
    exact .bind (operate_stays el _) fun _ => .bind (onPage_stays _) fun _ =>
      .bind (.ofExcept _) fun _ => onPage_stays _
  | selectBox el =>
    refine .bind (operate_stays el _) fun _ => ?_
    split
    · exact .pure _
    · exact .raise _
  | selectByText el text =>
    refine .bind (operate_stays el _) fun _ => ?_
    split
    · exact onPage_stays _
    · exact .raise _
  | selectedValues el =>
    exact .bind (resolve_stays el) fun _ => .bind (onPage_stays _) fun _ => .pure _

/-- On a rehearsed page nothing but the commands for it changes the current frame. -/
theorem steady : framing.Steady := fun _ hc w =>
  congrArg (fun current : Option String => current.toList.map ElementRef.mk) (perform_stays hc w)

end Rehearsal.RemotePage

/-! ### A page with links -/

namespace Remote.Line

open Rehearsal (Page RemotePage)

variable {τ π : Type} {line : Line τ}

/-- A link, and a frame with a link of its own. -/
def linked : RemotePage where
  page.root := .node ⟨"page", "html", none, none, [], [], [], none⟩
    [.node ⟨"outer", "a", some "Home", none, [], [], [], none⟩ [],
      .node ⟨"frame", "iframe", none, some "f", [], [], [], none⟩
        [.node ⟨"inner", "a", some "Next", none, [], [], [], none⟩ []]]

def linkedLine : Line RemotePage := ⟨RemotePage.browser, .whole 0, .none, "s", 1⟩

def linkScope (inside : Bool) : Option Frame := if inside then some ⟨"#f"⟩ else none

/-- The browser on that page, in the frame or at the top level. -/
def linkedStation (inside : Bool) : Station RemotePage :=
  ⟨{ linked with current := if inside then some "frame" else none }, 0.0⟩

/-- On the page the link can be found and clicked, inside the frame and outside. -/
theorem linked_answering (inside : Bool) :
    (driver linkedLine).Answering (linkedStation false)
      (Step.foundAndClicked {} (.root (linkScope inside) "a" none) 1) := by
  let l : Locator := .root (linkScope inside) "a" none
  let el : ElementRef := ⟨if inside then "inner" else "outer"⟩
  have hpatience : 0 < linkedLine.patience := Nat.zero_lt_one
  have hpoll : (Value.ofNumber linkedLine.pause).toFloat = .ok defaultPoll := rfl
  have hlength : ∀ x : Float, (Value.float x).toFloat = .ok x := fun _ => rfl
  obtain ⟨sent, hpresent⟩ : ∃ sent, linkedLine.present l false ⟨linkedStation false, []⟩ =
      (.done true, ⟨linkedStation inside, sent⟩) := by
    cases inside <;> exact ⟨_, rfl⟩
  have hwait := guarded_done_iff.2 (waitUntil_of_ready hpatience (hlength 10.0) hpoll hpresent
    ("'" ++ l.path ++ "' not present after " ++ (Value.float 10.0).text ++ "s") [.staleElement])
  obtain ⟨sent, hcount⟩ : ∃ sent,
      linkedLine.answer (.count l) ⟨linkedStation inside, []⟩ =
        (.done 1, ⟨linkedStation inside, sent⟩) := by
    cases inside <;> exact ⟨_, rfl⟩
  obtain ⟨sent, hfound⟩ : ∃ sent, linkedLine.element (l.nth (.whole 0))
      ⟨linkedStation inside, []⟩ = (.done el, ⟨linkedStation inside, sent⟩) := by
    cases inside <;> exact ⟨_, rfl⟩
  obtain ⟨ready, last, hready, hsent⟩ : ∃ ready last,
      linkedLine.isClickable el ⟨linkedStation inside, sent⟩ = (.done true, ready) ∧
        linkedLine.send (.click el) ready = (.done (), last) := by
    cases inside <;> exact ⟨_, _, rfl, rfl⟩
  have hunawaited : ∃ last, linkedLine.send (.click el) ⟨linkedStation inside, sent⟩ =
      (.done (), last) := by
    cases inside <;> exact ⟨_, rfl⟩
  obtain ⟨last, hclick⟩ :=
    click_of_ready hpatience (hlength 60.0) hpoll hfound hready hsent hunawaited
  exact .cons hwait (.cons hcount (.cons (guarded_done_iff.2 hclick) rfl))

def linkedAround : Surroundings (Station RemotePage) := ⟨driver linkedLine, .ok {}, 0⟩

def linkedContext (inside : Bool) : Context where
  session := ⟨"chrome", "s"⟩
  scope := linkScope inside
  items := 0
  sink := .recorder

/-- What becomes of following the link, from the top level on. -/
def followed (inside : Bool) : Machine (Station RemotePage) :=
  ((Step.followLink (.str "a") (.str "Fake page")).execute (linkedContext inside) none linkedAround
    (.start (linkedStation false))).2

/-- The link is found and clicked, the wait is made, and it looks at the page. -/
theorem followed_waits (inside : Bool) :
    ∃ before l limit wait r after, l.scope = linkScope inside ∧
      Exchanged linkedAround (.start (linkedStation false))
        ((before ++ [⟨.click l limit, .done ()⟩]) ++
          ⟨.waitForLoad (linkedContext inside).session wait, r⟩ :: after) (followed inside) ∧
      ∀ world, ∃ rig, linkedLine.PollsIn wait world rig := by
  let c := linkedContext inside
  let m : Machine (Station RemotePage) := .start (linkedStation false)
  have hsettings : linkedAround.settings = .ok {} := rfl
  have htext : "a".toList.all Text.isBlank = false := by decide
  have hanswering : linkedAround.driver.Answering m.world
      (Step.foundAndClicked {} (c.locate "a") 1) := linked_answering inside
  have hc : c.failure = none := rfl
  have hstop : Step.stopReason none m = none := rfl
  have htitle : (Value.str "Fake page").isNone = false := rfl
  obtain ⟨r, after, hxs⟩ :=
    Step.followLink_waits hsettings htext Int.one_pos hc hstop hanswering htitle
  refine ⟨(Step.foundAndClicked {} (c.locate "a") 1).take 2, (c.locate "a").nth (.whole 0),
    .float 60.0, .float 30.0, r, after, rfl, hxs, fun world => ⟨⟨world, []⟩, ?_⟩⟩
  exact pollsIn_first Nat.zero_lt_one rfl rfl world

/-! ### Following a link -/

/-- Following a link makes at most one wait for the page to load, and each look of that wait is into
the frame that the context is confined to, whatever was done before: into the top-level document if
and only if there is no such frame. The title that is asked for afterwards is read in the top-level
document. -/
theorem followLink_polls {fr : Framing line.browser π} (hsteady : fr.Steady)
    {around : Surroundings (Station τ)} (haround : around.driver = driver line)
    (selector title timeout : Value) (c : Context) (token : Option Token)
    (m : Machine (Station τ)) :
    (∃ xs, Exchanged around m xs
        ((Step.followLink selector title timeout).execute c token around m).2 ∧
      ∀ before session wait r after,
        xs = before ++ ⟨.waitForLoad session wait, r⟩ :: after →
        (∀ x ∈ after, x.call = .title c.session) ∧
        ∀ rig, line.PollsIn wait (around.driver.worldAfterAll (before.map Exchange.call) m.world)
            rig →
          fr.Leads c.scope (fr.frames rig) ∧
          (fr.frames rig = [] ↔ c.scope = none)) ∧
    ∀ session rig read next, line.answer (.title session) rig = (.done read, next) →
      ∃ top, fr.frames top = [] ∧ line.send .title top = (.done read, next) := by
  constructor
  · obtain ⟨xs, hxs, hfollowing⟩ :=
      Step.followLink_follows around selector title timeout c token m
    refine ⟨xs, hxs, ?_⟩
    intro before session wait r after hsplit
    cases hfollowing with
    | unwaited hlocated =>
      have hwait := hlocated ⟨.waitForLoad session wait, r⟩ (by simp [hsplit])
      cases hwait
    | @waited xs ys l limit wait' r' hlocated hl hys =>
      have hsplit' :
          (xs ++ [⟨.click l limit, .done ()⟩]) ++ ⟨.waitForLoad c.session wait', r'⟩ :: ys =
            before ++ ⟨.waitForLoad session wait, r⟩ :: after := by simpa using hsplit
      have hbefore :
          ⟨.waitForLoad session wait, r⟩ ∉ xs ++ [⟨.click l limit, .done ()⟩] := by
        intro h
        rcases List.mem_append.1 h with h | h
        · cases hlocated _ h
        · cases List.mem_singleton.1 h
      have hafter : ⟨.waitForLoad session wait, r⟩ ∉ ys := fun h => by cases hys _ h
      -- There is no other wait, so what the list was split at is the one after the click.
      obtain ⟨rfl, -, rfl⟩ := (List.append_cons_inj_of_notMem hbefore hafter).1 hsplit'
      refine ⟨hys, fun rig hpolls => ?_⟩
      have hanswering := hxs.answering
      rw [List.append_cons, haround] at hanswering
      rw [List.map_append, haround] at hpolls
      have hleads := polls_lead_after hsteady hanswering hpolls
      rw [hl] at hleads
      exact ⟨hleads, hleads.eq_nil_iff⟩
  · intro session rig read next h
    exact title_done (guarded_done_iff.1 h)

/-- Without a frame to be confined to, the wait looks at the top-level document. -/
theorem followLink_polls_outside :
    let fr : Framing linkedLine.browser Page := RemotePage.framing
    ∃ before wait r after, Exchanged linkedAround (.start (linkedStation false))
        (before ++ ⟨.waitForLoad (linkedContext false).session wait, r⟩ :: after)
        (followed false) ∧
      let world := (driver linkedLine).worldAfterAll (before.map Exchange.call)
        (linkedStation false)
      (∃ rig, linkedLine.PollsIn wait world rig) ∧
      ∀ rig, linkedLine.PollsIn wait world rig → fr.frames rig = [] := by
  intro fr
  have hsteady : fr.Steady := RemotePage.steady
  obtain ⟨before, l, limit, wait, r, after, -, hxs, hmade⟩ := followed_waits false
  have haround : linkedAround.driver = driver linkedLine := rfl
  obtain ⟨⟨ys, hys, hpolls⟩, -⟩ := followLink_polls hsteady haround (.str "a")
    (.str "Fake page") .none (linkedContext false) none (.start (linkedStation false))
  refine ⟨_, wait, r, after, hxs, hmade _, fun rig hrig => ?_⟩
  obtain ⟨-, hlead⟩ := hpolls _ _ _ _ _ (hys.unique hxs)
  exact (hlead rig hrig).2.2 rfl

/-- In a frame the wait looks at the document in the frame. -/
theorem followLink_polls_inside :
    let fr : Framing linkedLine.browser Page := RemotePage.framing
    ∃ before wait r after, Exchanged linkedAround (.start (linkedStation false))
        (before ++ ⟨.waitForLoad (linkedContext true).session wait, r⟩ :: after)
        (followed true) ∧
      ∃ rig, linkedLine.PollsIn wait ((driver linkedLine).worldAfterAll
        (before.map Exchange.call) (linkedStation false)) rig ∧ fr.frames rig ≠ [] := by
  intro fr
  have hsteady : fr.Steady := RemotePage.steady
  obtain ⟨before, l, limit, wait, r, after, hl, hxs, hmade⟩ := followed_waits true
  let clicked : Exchange := ⟨.click l limit, .done ()⟩
  obtain ⟨rig, hrig⟩ := hmade ((driver linkedLine).worldAfterAll
    ((before ++ [clicked]).map Exchange.call) (linkedStation false))
  refine ⟨_, wait, r, after, hxs, rig, hrig, ?_⟩
  rw [List.map_append] at hrig
  have hleads := polls_lead_after hsteady hxs.answering hrig
  rw [hl] at hleads
  intro htop
  cases hleads.eq_nil_iff.1 htop

end Remote.Line

end BrowserFlow
