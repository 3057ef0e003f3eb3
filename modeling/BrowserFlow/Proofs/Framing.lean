import BrowserFlow.Proofs.RemoteWork
import BrowserFlow.Rehearsal.RemotePage

/-!
# Look-ups and the frame left behind

A remote browser has one current frame, which every look-up shares. Work that looks elements up, or
reads what belongs to the page as a whole, does not depend on the frame that earlier work left
behind, wherever that stopped: from two worlds that differ in the current frame alone it ends alike
and does the same to the page. And whatever a browser does at a look-up from another frame than the
one the look-up is confined to makes no difference, so there is no such look-up.
-/
namespace BrowserFlow

/-- The frame, or the top-level document, that a call which looks something up is confined to. -/
def Call.lookupScope? : Call → Option (Option Frame)
  | frame .. | title _ => some none
  | evaluate _ scope _ _ => some scope
  | k => k.locator?.map Locator.scope

namespace Remote

/-- How the world of a browser comes apart into its page and the frames around the current document,
from the outermost on, of which there are none at the top level. Going back to the top level does
not depend on these frames, and neither does letting time pass; a look-up does not change them, and
entering a frame from the top level leads into that frame. -/
structure Framing {τ : Type} (b : Browser τ) (π : Type) where
  page : τ → π
  current : τ → List ElementRef
  ext {w w' : τ} : page w = page w' → current w = current w' → w = w'
  defaultContent_eq {w w' : τ} : page w = page w' →
    (b.perform .defaultContent w).1 = (b.perform .defaultContent w').1 ∧
      page (b.perform .defaultContent w).2 = page (b.perform .defaultContent w').2
  sleep_eq (duration : Number) {w w' : τ} : page w = page w' →
    (b.perform (.sleep duration) w).1 = (b.perform (.sleep duration) w').1 ∧
      page (b.perform (.sleep duration) w).2 = page (b.perform (.sleep duration) w').2
  current_defaultContent {w next : τ} :
    b.perform .defaultContent w = (.done (), next) → current next = []
  current_findElement {how : Strategy} {value : String} {w next : τ} {el : ElementRef} :
    b.perform (.findElement how value) w = (.done el, next) → current next = current w
  current_enterFrame {w next : τ} {el : ElementRef} : current w = [] →
    b.perform (.enterFrame el) w = (.done (), next) → current next = [el]

/-- The command is no look-up from the current document. -/
def Command.isFree : Command → Bool
  | findElement .. | findElements .. => false
  | _ => true

namespace Framing

variable {τ π α β : Type} {b : Browser τ} (fr : Framing b π)

/-- The two differ in nothing but the current frame. -/
structure Alike (rig rig' : Rig (Station τ)) : Prop where
  page : fr.page rig.world.browser = fr.page rig'.world.browser
  clock : rig.world.clock = rig'.world.clock
  sent : rig.sent = rig'.sent

/-- The two end alike and differ in nothing but the current frame. -/
inductive EndsAlike : Outcome α × Rig (Station τ) → Outcome α × Rig (Station τ) → Prop
  | intro (o : Outcome α) {rig rig' : Rig (Station τ)} (h : fr.Alike rig rig') :
    EndsAlike (o, rig) (o, rig')

/-- The two end in the same result and the same frame, or alike without a result. -/
inductive Meets : Outcome α × Rig (Station τ) → Outcome α × Rig (Station τ) → Prop
  | same (ending : Outcome α × Rig (Station τ)) : Meets ending ending
  | raised (e : Raised) {rig rig' : Rig (Station τ)} (h : fr.Alike rig rig') :
    Meets (.raised e, rig) (.raised e, rig')
  | endless {rig rig' : Rig (Station τ)} (h : fr.Alike rig rig') :
    Meets (.endless, rig) (.endless, rig')

/-- The work ends alike whichever frame is current. -/
def Blind (p : Work τ α) : Prop :=
  ∀ ⦃rig rig'⦄, fr.Alike rig rig' → fr.EndsAlike (p rig) (p rig')

/-- The work ends alike whichever frame is current, and where it has a result in the same frame. -/
def Settles (p : Work τ α) : Prop :=
  ∀ ⦃rig rig'⦄, fr.Alike rig rig' → fr.Meets (p rig) (p rig')

variable {fr}

theorem Alike.refl (rig : Rig (Station τ)) : fr.Alike rig rig := ⟨rfl, rfl, rfl⟩

theorem Alike.eq {rig rig' : Rig (Station τ)} (h : fr.Alike rig rig')
    (hcurrent : fr.current rig.world.browser = fr.current rig'.world.browser) : rig = rig' := by
  obtain ⟨⟨world, clock⟩, sent⟩ := rig
  obtain ⟨⟨world', clock'⟩, sent'⟩ := rig'
  obtain ⟨hpage, rfl, rfl⟩ := h
  obtain rfl := fr.ext hpage hcurrent
  rfl

/-- What is sent and what becomes of the page is the same for both. -/
theorem Alike.after {rig rig' : Rig (Station τ)} (h : fr.Alike rig rig') {w w' : τ}
    (hpage : fr.page w = fr.page w') (signals : List Signal) :
    fr.Alike ⟨{ rig.world with browser := w }, rig.sent ++ signals⟩
      ⟨{ rig'.world with browser := w' }, rig'.sent ++ signals⟩ :=
  ⟨hpage, h.clock, congrArg (· ++ signals) h.sent⟩

theorem EndsAlike.eq {x y : Outcome α × Rig (Station τ)} (h : fr.EndsAlike x y) :
    x.1 = y.1 ∧ fr.Alike x.2 y.2 := by
  obtain ⟨o, h⟩ := h
  exact ⟨rfl, h⟩

theorem Meets.endsAlike {x y : Outcome α × Rig (Station τ)} (h : fr.Meets x y) :
    fr.EndsAlike x y := by
  cases h with
  | same => exact .intro x.1 (.refl x.2)
  | raised e h => exact .intro (.raised e) h
  | endless h => exact .intro .endless h

namespace Blind

theorem pure (a : α) : fr.Blind (Pure.pure a : Work τ α) := fun _ _ h => .intro _ h

theorem raise (e : Raised) : fr.Blind (Proc.raise e : Work τ α) := fun _ _ h => .intro _ h

theorem ofExcept (x : Except Raised α) : fr.Blind (Proc.ofExcept x : Work τ α) := by
  cases x with
  | ok a => exact pure a
  | error e => exact raise e

theorem bind {p : Work τ α} {f : α → Work τ β} (hp : fr.Blind p)
    (hf : ∀ a, fr.Blind (f a)) : fr.Blind (p >>= f) := by
  intro rig rig' h
  have hends := hp h
  rw [Proc.bind_apply, Proc.bind_apply]
  generalize p rig = x at hends ⊢
  generalize p rig' = y at hends ⊢
  obtain ⟨a | e | _, hnext⟩ := hends
  · exact hf a hnext
  · exact .intro _ hnext
  · exact .intro _ hnext

theorem attempt {p : Work τ α} (hp : fr.Blind p) : fr.Blind p.attempt := by
  intro rig rig' h
  have hends := hp h
  rw [Proc.attempt, Proc.attempt]
  generalize p rig = x at hends ⊢
  generalize p rig' = y at hends ⊢
  obtain ⟨a | e | _, hnext⟩ := hends <;> exact .intro _ hnext

/-- The time can be read in any frame. -/
theorem clock_bind {f : Rig (Station τ) → Work τ α}
    (hclock : ∀ rig rig', rig.world.clock = rig'.world.clock → f rig = f rig')
    (hf : ∀ rig, fr.Blind (f rig)) : fr.Blind (Proc.read >>= f) := by
  intro rig rig' h
  simp only [Proc.bind_apply, Proc.read, hclock rig rig' h.clock]
  exact hf rig' h

theorem rounds {round : α → Work τ (α ⊕ β)} (hround : ∀ a, fr.Blind (round a))
    (n : Nat) (a : α) : fr.Blind (Proc.rounds round n a) := by
  induction n generalizing a with
  | zero => exact fun _ _ h => .intro _ h
  | succ n ih =>
    refine (hround a).bind fun next => ?_
    cases next with
    | inl b => exact ih b
    | inr r => exact pure r

end Blind

namespace Settles

theorem blind {p : Work τ α} (hp : fr.Settles p) : fr.Blind p := fun _ _ h => (hp h).endsAlike

/-- What follows finds the same current frame, so nothing is asked of it. -/
theorem bind {p : Work τ α} {f : α → Work τ β} (hp : fr.Settles p) :
    fr.Settles (p >>= f) := by
  intro rig rig' h
  have hends := hp h
  rw [Proc.bind_apply, Proc.bind_apply]
  generalize p rig = x at hends ⊢
  generalize p rig' = y at hends ⊢
  cases hends with
  | same => exact .same _
  | raised e hnext => exact .raised e hnext
  | endless hnext => exact .endless hnext

theorem attempt_bind {p : Work τ α} {f : Except Raised α → Work τ β} (hp : fr.Settles p)
    (hf : ∀ e, fr.Blind (f (.error e))) : fr.Blind (p.attempt >>= f) := by
  intro rig rig' h
  have hends := hp h
  rw [Proc.bind_apply, Proc.bind_apply, Proc.attempt, Proc.attempt]
  generalize p rig = x at hends ⊢
  generalize p rig' = y at hends ⊢
  cases hends with
  | same => exact (Meets.same _).endsAlike
  | raised e hnext => exact hf e hnext
  | endless hnext => exact .intro _ hnext

end Settles

variable (fr)

/-- The browser has just entered the frame, looked up from the top level, or is at the top level. -/
def IsAt : Option Frame → τ → Prop
  | none, w => fr.current w = []
  | some frame, w => ∃ top found el, fr.current top = [] ∧
      b.perform (.findElement (Selector.lookup frame.selector).1 (Selector.lookup frame.selector).2)
        top = (.done el, found) ∧
      b.perform (.enterFrame el) found = (.done (), w) ∧ fr.current w = [el]

/-- All matches are looked up from the frame, and one match from the top level only. -/
def Allows (scope : Option Frame) : Command → τ → Prop
  | .findElements .., w => fr.IsAt scope w
  | .findElement .., w => fr.current w = []
  | _, _ => True

end Framing

namespace Line

variable {τ π α β : Type} {line : Line τ} (fr : Framing line.browser π)

/-! ### Ending alike -/

theorem settles_defaultContent : fr.Settles (line.send .defaultContent) := by
  intro rig rig' h
  obtain ⟨hends, hpage⟩ := fr.defaultContent_eq h.page
  rw [send, send]
  rcases hr : line.browser.perform .defaultContent rig.world.browser with ⟨o, next⟩
  rcases hr' : line.browser.perform .defaultContent rig'.world.browser with ⟨o', next'⟩
  rw [hr, hr'] at hends hpage
  obtain rfl : o = o' := hends
  dsimp only
  have halike := Framing.Alike.after h hpage [.command .defaultContent]
  rcases o with _ | e | _
  · have hcurrent := (fr.current_defaultContent hr).trans (fr.current_defaultContent hr').symm
    rw [halike.eq hcurrent]
    exact .same _
  · exact .raised e halike
  · exact .endless halike

theorem settles_enterScope (scope : Option Frame) : fr.Settles (line.enterScope scope) :=
  (settles_defaultContent fr).bind

theorem settles_elements (l : Locator) : fr.Settles (line.elements l) := by
  induction l with
  | root scope selector index => exact (settles_enterScope fr scope).bind
  | child parent selector index ih => exact ih.bind

theorem settles_element (l : Locator) : fr.Settles (line.element l) := (settles_elements fr l).bind

theorem blind_sleep : fr.Blind line.sleep := by
  refine .bind (.ofExcept _) fun length => .bind (fun rig rig' h => ?_) fun _ rig rig' h => ?_
  · exact .intro _ ⟨h.page, congrArg (· + length) h.clock, h.sent⟩
  · obtain ⟨hends, hpage⟩ := fr.sleep_eq line.pause h.page
    rw [send, send]
    dsimp only
    rw [hends]
    exact .intro _ (h.after hpage _)

theorem blind_afterLook (deadline : Float) (message : String) (seen : Bool) :
    fr.Blind (line.afterLook deadline message seen) := by
  rw [afterLook]
  split
  · exact .pure _
  · refine .clock_bind (fun _ _ h => by simp only [h]) fun now => ?_
    split
    · exact .raise _
    · exact .bind (blind_sleep fr) fun _ => .pure _

theorem blind_waitUntil (timeout : Value) {ready : Work τ Bool} (hready : fr.Blind ready)
    (message : String) (ignored : List BrowserErrorClass) :
    fr.Blind (line.waitUntil timeout ready message ignored) := by
  refine .bind (.ofExcept _) fun length => .bind (.ofExcept _) fun poll => ?_
  refine .clock_bind (fun _ _ h => by simp only [h]) fun start => .rounds (fun _ => ?_) _ _
  rw [look_eq]
  refine .bind hready.attempt fun looked => ?_
  cases looked with
  | ok seen => exact blind_afterLook fr _ _ seen
  | error e =>
    dsimp only
    split
    · exact blind_afterLook fr _ _ false
    · exact .raise e

theorem blind_present (l : Locator) (visible : Bool) : fr.Blind (line.present l visible) := by
  refine (settles_elements fr l).attempt_bind fun e => ?_
  dsimp only
  split
  · exact .pure false
  · exact .raise e

theorem blind_guarded {p : Work τ α} (hp : fr.Blind p) : fr.Blind (guarded p) := by
  refine .bind hp.attempt fun looked => ?_
  cases looked with
  | ok a => exact .pure a
  | error e => exact .raise _

/-- Work that looks something up goes back to the top level before the current frame matters. -/
theorem blind_work {k : Call} {scope : Option Frame} (hscope : k.lookupScope? = some scope) :
    fr.Blind (line.work k) := by
  cases k
  case launch | goto | waitForLoad | close => cases hscope
  case frame => exact (settles_enterScope fr none).bind.blind
  case evaluate session scope source args => exact (settles_enterScope fr scope).bind.blind
  case title => exact (settles_enterScope fr none).bind.blind
  case count l => exact (settles_elements fr l).bind.blind
  case waitFor l timeout visible => exact blind_waitUntil fr _ (blind_present fr l _) _ _
  case press l key => exact .bind (.ofExcept _) fun keys => (settles_element fr l).bind.blind
  all_goals exact (settles_element fr _).bind.blind

/-! ### Looking up in the right frame -/

/-- Having entered a frame, the browser is in it. -/
theorem isAt_of_enterScope {scope : Option Frame} {rig next : Rig (Station τ)}
    (h : line.enterScope scope rig = (.done (), next)) : fr.IsAt scope next.world.browser := by
  obtain ⟨_, top, htop, h⟩ := Proc.bind_eq_done_iff.1 h
  have htop := fr.current_defaultContent (perform_of_send htop)
  cases scope with
  | none =>
    cases h
    exact htop
  | some frame =>
    obtain ⟨el, found, hfound, hentered⟩ := Proc.bind_eq_done_iff.1 h
    have hfound := perform_of_send hfound
    have hentered := perform_of_send hentered
    exact ⟨_, _, el, htop, hfound, hentered,
      fr.current_enterFrame ((fr.current_findElement hfound).trans htop) hentered⟩

/-- The same work through another browser. -/
def through (line : Line τ) (b : Browser τ) : Line τ := { line with browser := b }

section Confined

variable {scope : Option Frame} {b : Browser τ}
  (hb : ∀ c w, fr.Allows scope c w → b.perform c w = line.browser.perform c w)
include hb

theorem send_through {c : Command} {rig : Rig (Station τ)}
    (h : fr.Allows scope c rig.world.browser) : (line.through b).send c rig = line.send c rig := by
  simp only [send, through, hb c _ h]

theorem send_free_through {c : Command} (hc : c.isFree = true) :
    (line.through b).send c = line.send c := by
  funext rig
  refine send_through fr hb ?_
  cases c
  case findElement | findElements => cases hc
  all_goals trivial

theorem findElement_through {how : Strategy} {value : String} {rig : Rig (Station τ)}
    (htop : fr.current rig.world.browser = []) :
    (line.through b).send (.findElement how value) rig = line.send (.findElement how value) rig :=
  send_through fr hb htop

theorem enterScope_through (s : Option Frame) :
    (line.through b).enterScope s = line.enterScope s := by
  refine Proc.bind_congr_of_done (send_free_through fr hb rfl) fun _ rig top h => ?_
  have htop : fr.current top.world.browser = [] := fr.current_defaultContent (perform_of_send h)
  cases s with
  | none => rfl
  | some frame =>
    dsimp only
    rw [Proc.bind_apply, Proc.bind_apply, findElement_through fr hb htop]
    simp only [send_free_through fr hb (show (Command.enterFrame _).isFree = true from rfl)]

theorem elements_through {l : Locator} (hl : l.scope = scope) :
    (line.through b).elements l = line.elements l := by
  induction l with
  | root s selector index =>
    obtain rfl : s = scope := hl
    exact Proc.bind_congr_of_done (enterScope_through fr hb s) fun _ rig next h =>
      send_through fr hb (isAt_of_enterScope fr h)
  | child parent selector index ih =>
    rw [elements, elements, ih hl]
    exact bind_congr fun found => bind_congr fun base => send_free_through fr hb rfl

theorem element_through {l : Locator} (hl : l.scope = scope) :
    (line.through b).element l = line.element l := by
  rw [element, element, elements_through fr hb hl]

theorem waitUntil_through (timeout : Value) (ready : Work τ Bool) (message : String)
    (ignored : List BrowserErrorClass) :
    (line.through b).waitUntil timeout ready message ignored =
      line.waitUntil timeout ready message ignored := by
  have hsleep : (line.through b).sleep = line.sleep :=
    bind_congr fun _ => bind_congr fun _ => send_free_through fr hb rfl
  have hlook : (line.through b).look = line.look := by
    funext deadline ready ignored message _
    simp only [look, hsleep]
  simp only [waitUntil, hlook]
  rfl

theorem anyDisplayed_through (found : List ElementRef) :
    (line.through b).anyDisplayed found = line.anyDisplayed found := by
  induction found with
  | nil => rfl
  | cons el rest ih =>
    rw [anyDisplayed, anyDisplayed, ih, send_free_through fr hb rfl]

theorem present_through {l : Locator} (hl : l.scope = scope) (visible : Bool) :
    (line.through b).present l visible = line.present l visible := by
  simp only [present, elements_through fr hb hl, anyDisplayed_through fr hb]

theorem isClickable_through (el : ElementRef) :
    (line.through b).isClickable el = line.isClickable el := by
  rw [isClickable, isClickable, send_free_through fr hb rfl, send_free_through fr hb rfl]

theorem frame_through (selector : Value) :
    (line.through b).frame selector = line.frame selector := by
  refine Proc.bind_congr_of_done (enterScope_through fr hb none) fun _ rig top h => ?_
  have htop : fr.current top.world.browser = [] := isAt_of_enterScope fr h
  cases Selector.ofValue selector with
  | error e => rfl
  | ok s =>
    simp only [Proc.ofExcept, pure_bind]
    rw [Proc.bind_apply, Proc.bind_apply, findElement_through fr hb htop]

/-- Work that looks its element up and goes on with that by free commands. -/
theorem element_bind_through {l : Locator} (hl : l.scope = scope) {f f' : ElementRef → Work τ α}
    (hf : ∀ el, f el = f' el) : (line.through b).element l >>= f = line.element l >>= f' := by
  rw [element_through fr hb hl]
  exact bind_congr hf

/-- No look-up is made from another frame than the one that the work is confined to. -/
theorem work_through {k : Call} (hscope : k.lookupScope? = some scope) :
    (line.through b).work k = line.work k := by
  have hfree : ∀ {c : Command}, c.isFree = true → (line.through b).send c = line.send c :=
    send_free_through fr hb
  cases k
  case launch | goto | waitForLoad | close => cases hscope
  case frame session selector => exact frame_through fr hb selector
  case evaluate | title => rw [work, work, enterScope_through fr hb, hfree rfl]
  all_goals have hl := Option.some.inj hscope
  case count => rw [work, work, elements_through fr hb hl]
  case waitFor =>
    rw [work, work, waitFor, waitFor, present_through fr hb hl, waitUntil_through fr hb]
  case click =>
    refine element_bind_through fr hb hl fun el => ?_
    rw [isClickable_through fr hb, waitUntil_through fr hb, hfree rfl]
  case fill => exact element_bind_through fr hb hl fun el => by rw [hfree rfl, hfree rfl]
  case press =>
    exact bind_congr fun keys => element_bind_through fr hb hl fun el => hfree rfl
  case tagName => exact element_bind_through fr hb hl fun el => by rw [hfree rfl]
  case selectOption =>
    refine element_bind_through fr hb hl fun el => ?_
    rw [hfree rfl, hfree rfl, hfree rfl]
  all_goals exact element_bind_through fr hb hl fun el => hfree rfl

end Confined

/-- A call that looks something up ends alike, sends the same and does the same to the page
whichever frame is current. And it looks nothing up but in the frame that it is confined to: it
makes no difference what a browser does at a look-up elsewhere. -/
theorem answer_regardless_of_frame {k : Call} {scope : Option Frame}
    (hscope : k.lookupScope? = some scope) :
    (∀ rig rig', fr.Alike rig rig' → (line.answer k rig).1 = (line.answer k rig').1 ∧
      fr.Alike (line.answer k rig).2 (line.answer k rig').2) ∧
    ∀ b : Browser τ,
      (∀ c w, fr.Allows scope c w → b.perform c w = line.browser.perform c w) →
      (line.through b).answer k = line.answer k := by
  have hlaunch : ∀ brand headless, k ≠ .launch brand headless := by
    rintro brand headless rfl
    cases hscope
  constructor
  · intro rig rig' h
    rw [answer_eq_guarded hlaunch]
    exact (blind_guarded fr (blind_work fr hscope) h).eq
  · intro b hb
    rw [answer_eq_guarded hlaunch, answer_eq_guarded hlaunch, work_through fr hb hscope]

end Line

end Remote

namespace Rehearsal.RemotePage

open Remote (Framing ElementRef)

/-- The frames of a remote browser on a rehearsed page. -/
def framing : Framing browser Page where
  page r := r.page
  current r := r.current.toList.map ElementRef.mk
  ext := by
    rintro ⟨page, current⟩ ⟨page', current'⟩ hpage hcurrent
    cases current <;> cases current' <;> simp_all
  defaultContent_eq := by
    rintro ⟨page, current⟩ ⟨page', current'⟩ rfl
    simp only [browser, perform, Proc.bind_apply, onPage, Proc.update]
    rcases Page.turn "default_content" page with ⟨_ | e | _, next⟩ <;> exact ⟨rfl, rfl⟩
  sleep_eq := by
    rintro duration ⟨page, current⟩ ⟨page', current'⟩ rfl
    exact ⟨rfl, rfl⟩
  current_defaultContent := by
    intro w next h
    obtain ⟨_, middle, -, h⟩ := Proc.bind_eq_done_iff.1 h
    cases h
    rfl
  current_findElement := by
    intro how value w next el h
    obtain ⟨_, turned, hturn, h⟩ := Proc.bind_eq_done_iff.1 h
    have hcurrent : turned.current = w.current := (congrArg (·.2.current) hturn).symm
    obtain ⟨_, _, hread, h⟩ := Proc.bind_eq_done_iff.1 h
    cases hread
    generalize turned.found turned.document how value = found at h
    cases found <;> cases h
    rw [hcurrent]
  current_enterFrame := by
    intro w next el _ h
    obtain ⟨_, middle, -, h⟩ := Proc.bind_eq_done_iff.1 h
    cases h
    rfl

end Rehearsal.RemotePage

namespace Remote.Line

open Rehearsal (Page RemotePage)

/-- A heading, and a frame with a heading of its own that the browser may have been left in. -/
def headings (current : Option String) : Rig (Station RemotePage) where
  world.browser.page.root := .node ⟨"page", "html", none, none, [], [], [], none⟩
    [.node ⟨"h1", "h1", some "Outside", none, [], [], [], none⟩ [],
      .node ⟨"frame", "iframe", none, none, [], [], [], none⟩
        [.node ⟨"inner", "h1", some "Inside", none, [], [], [], none⟩ []]]
  world.browser.current := current
  sent := []

/-- A browser that was left in a frame finds what it would have found outside of it. -/
theorem answer_text_left_in_frame :
    let line : Line RemotePage := ⟨RemotePage.browser, .whole 0, .none, "s", 0⟩
    let k := Call.text (.root none "h1" none)
    k.lookupScope? = some none ∧ (line.answer k (headings none)).1 = .done (some "Outside") ∧
      (line.answer k (headings (some "frame"))).1 = .done (some "Outside") := by
  intro line k
  have houtside : (line.answer k (headings none)).1 = .done (some "Outside") := rfl
  let fr : Framing line.browser Page := RemotePage.framing
  have hscope : k.lookupScope? = some none := rfl
  have halike : fr.Alike (headings (some "frame")) (headings none) := ⟨rfl, rfl, rfl⟩
  have hleft := ((answer_regardless_of_frame fr hscope).1 _ _ halike).1
  exact ⟨hscope, houtside, hleft.trans houtside⟩

end Remote.Line

end BrowserFlow
