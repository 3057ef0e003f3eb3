import BrowserFlow.Proofs.Leeway
import BrowserFlow.Proofs.OwnErrors
import BrowserFlow.Steps.Handover
import BrowserFlow.Steps.Probe

/-!
# The work of steps

What the bodies of the steps do before they hand a context on: finding, reading, typing, probing.
All of it is put together from a few things. The driver is called, but no call looks into any frame
but that of the context, as long as the elements that the context holds were located there; errors
are raised that can be recorded; the log and the sink are told something; and actions of the
caller's own are run, of which only what is assumed is known. No items are stored. Whatever is true
of these few things is true of all the work that is done with them.
-/
namespace BrowserFlow

/-- A computation of the library raises only errors of its own. -/
theorem Action.Keeps.compute {σ α : Type} {L : Leeway σ} {around : Surroundings σ}
    {asks : Call → Prop} (hL : L.Covers around asks) {x : Except Raised α}
    (hx : Raised.RecordableIn x) : (Action.ofExcept x).Keeps around L :=
  .ofExcept hL fun e he => hL.own (hx e he)

/-- The frame that a call looks into, or the page as a whole, if the call looks into any. -/
def Call.scope? : Call → Option (Option Frame)
  | .evaluate _ scope .. => some scope
  | c => c.locator?.map Locator.scope

theorem Focus.through_ok {f : Focus} {operation : String} {l : Locator}
    (h : f.through operation = .ok l) : f = .element l := by
  cases f with
  | element l' => cases h; rfl
  | value v => cases h

namespace Context

/-- Focus and collection are never both there, and they hold nothing but elements that were located
in the frame that the context is confined to. -/
structure Sound (c : Context) : Prop where
  apart : c.focus = none ∨ c.collection = none
  focus : ∀ f ∈ c.focus, ∃ l, f = .element l ∧ l.scope = c.scope
  collection : ∀ ls ∈ c.collection, ∀ l ∈ ls, l.scope = c.scope

theorem Sound.element {c : Context} (h : c.Sound) {l : Locator}
    (hl : c.focus = some (.element l)) : l.scope = c.scope := by
  obtain ⟨l', hl', hscope⟩ := h.focus _ hl
  cases hl'
  exact hscope

/-- The context is derived from another one: it has the same session, items, failure and sink. -/
structure DerivedFrom (d c : Context) : Prop where
  session : d.session = c.session
  items : d.items = c.items
  failure : d.failure = c.failure
  sink : d.sink = c.sink

theorem DerivedFrom.refl (c : Context) : c.DerivedFrom c := ⟨rfl, rfl, rfl, rfl⟩

/-- Contexts derived from the same one are derived from each other. -/
theorem DerivedFrom.sibling {c d e : Context} (h : d.DerivedFrom c) (h' : e.DerivedFrom c) :
    e.DerivedFrom d :=
  ⟨h'.session.trans h.session.symm, h'.items.trans h.items.symm,
    h'.failure.trans h.failure.symm, h'.sink.trans h.sink.symm⟩

/-- The context is derived from another one, and is sound if that one is. -/
structure Follows (d c : Context) : Prop extends DerivedFrom d c where
  sound : c.Sound → d.Sound

namespace Follows

variable (c : Context)

theorem refl : c.Follows c := ⟨.refl c, id⟩

variable {c} in
theorem trans {d e : Context} (h : d.Follows c) (h' : e.Follows d) : e.Follows c :=
  ⟨⟨h'.session.trans h.session, h'.items.trans h.items, h'.failure.trans h.failure,
    h'.sink.trans h.sink⟩, h'.sound ∘ h.sound⟩

theorem withScope (frame : Frame) : (c.withScope frame).Follows c :=
  ⟨⟨rfl, rfl, rfl, rfl⟩, fun _ => ⟨.inl rfl, by simp [Context.withScope],
    by simp [Context.withScope]⟩⟩

theorem withoutScope : c.withoutScope.Follows c :=
  ⟨⟨rfl, rfl, rfl, rfl⟩, fun _ => ⟨.inl rfl, by simp [Context.withoutScope],
    by simp [Context.withoutScope]⟩⟩

end Follows

/-- The context follows another one and is confined to the same frame. -/
structure Stays (d c : Context) : Prop extends Follows d c where
  scope : d.scope = c.scope

namespace Stays

variable (c : Context)

theorem refl : c.Stays c := ⟨.refl c, rfl⟩

variable {c} in
theorem trans {d e : Context} (h : d.Stays c) (h' : e.Stays d) : e.Stays c :=
  ⟨h.toFollows.trans h'.toFollows, h'.scope.trans h.scope⟩

theorem withFocus {l : Locator} (h : c.Sound → l.scope = c.scope) : (c.withFocus l).Stays c :=
  ⟨⟨⟨rfl, rfl, rfl, rfl⟩, fun hc =>
    ⟨.inr rfl, fun f hf => ⟨l, by cases hf; rfl, h hc⟩,
      by simp [Context.withFocus]⟩⟩, rfl⟩

theorem withCollection {ls : List Locator} (h : c.Sound → ∀ l ∈ ls, l.scope = c.scope) :
    (c.withCollection ls).Stays c :=
  ⟨⟨⟨rfl, rfl, rfl, rfl⟩, fun hc => ⟨.inl rfl, by simp [Context.withCollection],
    fun ls' hls => by cases hls; exact h hc⟩⟩, rfl⟩

end Stays

end Context

/-- The driver can answer a call in this way. -/
def Driver.Answers {σ : Type} (d : Driver σ) (k : Call) (a : k.Reply) : Prop :=
  ∃ rig, (d.answer k rig).1 = .done a

theorem Action.call_answers {σ : Type} {k : Call} {around : Surroundings σ} :
    (Action.call k : Action σ k.Reply).Gives around (around.driver.Answers k) :=
  fun h => ⟨_, congrArg Prod.fst (awaited_done.1 h)⟩

/-- Work that is done for a context, with what is known of its result. The leeway is that of the
caller's own actions, and of errors that are made of what they give. -/
inductive Work {σ : Type} (around : Surroundings σ) (L : Leeway σ) (c : Context) :
    {α : Type} → Action σ α → (α → Prop) → Prop
  | pure {α : Type} {P : α → Prop} {a : α} (h : P a) : Work around L c (Pure.pure a) P
  | raise {α : Type} {P : α → Prop} {e : Raised} (h : e.Recordable ∨ L.errors e) :
    Work around L c (Action.raise e : Action σ α) P
  | settings : Work around L c Action.settings fun _ => True
  | items : Work around L c (Action.items c.items) fun _ => True
  | call (k : Call) (h : c.Sound → ∀ s ∈ k.scope?, s = c.scope) :
    Work around L c (Action.call k) (around.driver.Answers k)
  | record {logger : String} (h : logger ≠ Sink.loggerName) (level : LogLevel) (message : String)
    (extra : Option Value) :
    Work around L c (Action.record level logger message extra) fun _ => True
  | inform (text : String) : Work around L c (c.sink.write .info text) fun _ => True
  | guest {α : Type} {P : α → Prop} {p : Action σ α} (hp : p.Keeps around L)
    (hP : p.Gives around P) :
    Work around L c p P
  | bind {α β : Type} {P : α → Prop} {Q : β → Prop} {p : Action σ α}
    {f : α → Action σ β} (hp : Work around L c p P)
    (hf : ∀ a, P a → Work around L c (f a) Q) :
    Work around L c (p >>= f) Q
  /-- An error that is caught is raised again, or another one in its place. -/
  | attempt {α β : Type} {P : α → Prop} {Q : β → Prop} {p : Action σ α}
    {f : Except Raised α → Action σ β} (hp : Work around L c p P)
    (hok : ∀ a, P a → Work around L c (f (.ok a)) Q)
    (herror : ∀ e, ∃ e', f (.error e) = Action.raise e' ∧ (e' = e ∨ e'.Recordable)) :
    Work around L c (p.attempt >>= f) Q
  | rescue {α : Type} {P : α → Prop} {p : Action σ α} (hp : Work around L c p P) :
    Work around L c p.rescue fun _ => True

variable {σ : Type} {L : Leeway σ} {around : Surroundings σ} {asks : Call → Prop} {c : Context}

namespace Work

variable {α β : Type} {P : α → Prop}

/-- Work gives what is known of its result. -/
theorem gives {p : Action σ α} (h : Work around L c p P) : p.Gives around P := by
  induction h with
  | pure h => exact fun hdone => by cases hdone; exact h
  | raise h => exact fun hdone => by cases hdone
  | call k h => exact Action.call_answers
  | guest hp hP => exact hP
  | bind _ _ hp hf =>
    intro m b o hdone
    obtain ⟨a, n, ha, hb⟩ := (Action.bind_eq_done around _).1 hdone
    exact hf a (hp ha) hb
  | @attempt _ _ P Q p f _ _ herror hp hok =>
    intro m b o hdone
    rw [Action.bind_run, Action.attempt_run] at hdone
    rcases hrun : p around m with ⟨a | e | _, n⟩ <;> rw [hrun] at hdone
    · exact hok a (hp hrun) hdone
    · obtain ⟨e', hf, -⟩ := herror e
      dsimp only at hdone
      rw [hf] at hdone
      cases hdone
    · cases hdone
  | _ => exact fun _ => trivial

/-- Work keeps to a leeway that covers the library. -/
theorem keeps (hL : L.Covers around asks)
    (hasks : ∀ k : Call, (c.Sound → ∀ s ∈ k.scope?, s = c.scope) → asks k)
    {p : Action σ α} (h : Work around L c p P) : p.Keeps around L := by
  induction h with
  | pure h => exact .pure hL _
  | raise h => exact .raise hL (h.elim hL.own id)
  | settings => exact .settings hL
  | items => exact .items hL _
  | call k h => exact .call hL (hasks k h)
  | record h level message extra => exact .record hL h level message extra
  | inform text => exact .write hL (by simp) text _
  | guest hp hP => exact hp
  | bind hp _ ih hf => exact ih.bind_gives hL hp.gives hf
  | @attempt _ _ P Q p f hp _ herror ih hok =>
    intro m
    obtain ⟨hmoves, herrors⟩ := ih m
    rw [Action.bind_run, Action.attempt_run]
    rcases hrun : p around m with ⟨a | e | _, n⟩ <;> rw [hrun] at hmoves herrors
    · have hrest := hok a (hp.gives hrun) n
      exact ⟨hL.trans hmoves hrest.1, hrest.2⟩
    · obtain ⟨e', hf, he'⟩ := herror e
      dsimp only
      rw [hf]
      refine ⟨hmoves, fun e'' he'' => ?_⟩
      cases he''
      rcases he' with rfl | he'
      · exact herrors e' rfl
      · exact hL.own he'
    · exact ⟨hmoves, fun e he => by cases he⟩
  | rescue _ hp => exact .rescue hp

theorem mono {Q : α → Prop} {p : Action σ α} (h : Work around L c p P)
    (hPQ : ∀ a, P a → Q a) : Work around L c p Q := by
  have hbind : Work around L c (p >>= Pure.pure) Q := h.bind fun a ha => .pure (hPQ a ha)
  rwa [bind_pure] at hbind

theorem own {e : Raised} (he : e.Recordable) : Work around L c (Action.raise e : Action σ α) P :=
  .raise (.inl he)

/-- A computation of the library itself. -/
theorem compute {x : Except Raised α} (hx : Raised.RecordableIn x)
    (hP : ∀ a, x = .ok a → P a) : Work around L c (Action.ofExcept x) P := by
  cases x with
  | ok a => exact .pure (hP a rfl)
  | error e => exact .own (hx e rfl)

theorem timeout (given : Value) (fallback : Settings → Float) :
    Work around L c (Action.timeout given fallback) fun _ => True := by
  rw [Action.timeout]
  split
  · exact Work.settings.bind fun s _ => .pure trivial
  · exact .pure trivial

/-- A call on the session as a whole. -/
theorem ask {k : Call} (hk : k.scope? = none) :
    Work around L c (Action.call k) (around.driver.Answers k) :=
  .call k fun _ => by simp [hk]

/-- A call through an element that was located where the context is confined to. -/
theorem look {k : Call} {l : Locator} (hl : c.Sound → l.scope = c.scope)
    (hk : k.scope? = some l.scope) : Work around L c (Action.call k) fun _ => True :=
  (Work.call k fun hc => by simpa [hk] using hl hc).mono fun _ _ => trivial

end Work

namespace Step

theorem work_requireValue (v : Value) (label what : String) :
    Work around L c (requireValue v label what) (· = v) := by
  rw [requireValue]
  split
  · exact .own (Raised.recordable_step _ _)
  · exact .pure rfl

end Step

namespace Query

variable {l : Locator}

theorem work_countAfterWait (q : Query) (hl : c.Sound → l.scope = c.scope) :
    Work around L c (q.countAfterWait l) fun _ => True := by
  rw [countAfterWait]
  refine (Work.timeout _ _).bind fun timeout _ => ?_
  refine .attempt (.look hl rfl) (fun _ _ => ?_) fun e => ⟨_, rfl, ?_⟩
  · refine (Work.look hl rfl).bind fun count _ => ?_
    split
    · exact .own (Raised.recordable_step _ _)
    · exact .pure trivial
  · split
    · exact .inr (Raised.recordable_step _ _)
    · exact .inl rfl

theorem work_one (q : Query) (index : Value) (hl : c.Sound → l.scope = c.scope) :
    Work around L c (q.one index l) fun found => found.scope = l.scope := by
  rw [one]
  refine (q.work_countAfterWait hl).bind fun count _ => ?_
  refine (Work.compute (P := fun _ => True) (recordableIn_place index count q.label)
    fun _ _ => trivial).bind fun place _ => ?_
  exact .pure (l.scope_nth place)

theorem work_all (q : Query) (hl : c.Sound → l.scope = c.scope) :
    Work around L c (q.all l) fun found => ∀ l' ∈ found, l'.scope = l.scope := by
  rw [all]
  refine (q.work_countAfterWait hl).bind fun count _ => .pure ?_
  simp

theorem work_inScope (q : Query) (c : Context) :
    Work around L c (q.inScope c) fun l => c.Sound → l.scope = c.scope := by
  rw [inScope]
  refine (Work.compute (P := fun _ => True) (recordableIn_requireSelector _ _)
    fun _ _ => trivial).bind fun _ _ => ?_
  exact .pure fun _ => rfl

theorem work_underFocus (q : Query) (c : Context) :
    Work around L c (q.underFocus c) fun l => c.Sound → l.scope = c.scope := by
  rw [underFocus]
  refine (Work.compute (P := fun _ => True) (recordableIn_requireSelector _ _)
    fun _ _ => trivial).bind fun _ _ => ?_
  cases hfocus : c.focus with
  | none => exact .own (Raised.recordable_step _ _)
  | some f =>
    refine (Work.compute (f.recordableIn_through _) fun l hl => Focus.through_ok hl).bind
      fun l hl => .pure fun hc => ?_
    show l.scope = c.scope
    exact hc.element (hl ▸ hfocus)

end Query

namespace Filter

theorem work_matchesText (wanted : Value) {l : Locator} (hl : c.Sound → l.scope = c.scope) :
    Work around L c (matchesText wanted l) fun _ => True := by
  rw [matchesText]
  refine (Work.look hl rfl).bind fun text _ => ?_
  cases text with
  | none => exact .pure trivial
  | some s => exact .compute (wanted.recordableIn_isPartOf s) fun _ _ => trivial

theorem work_firstMatch (wanted : Value) {ls : List Locator}
    (hls : ∀ l ∈ ls, c.Sound → l.scope = c.scope) :
    Work around L c (firstMatch wanted ls) fun found => ∀ l ∈ found, l ∈ ls := by
  induction ls with
  | nil => exact .pure (by simp)
  | cons l rest ih =>
    rw [List.forall_mem_cons] at hls
    refine (work_matchesText wanted hls.1).bind fun hit _ => ?_
    cases hit with
    | false => exact (ih hls.2).mono fun found h l' hl' => List.mem_cons_of_mem l (h l' hl')
    | true => exact .pure (by simp)

theorem work_lastMatch (wanted : Value) {ls : List Locator}
    (hls : ∀ l ∈ ls, c.Sound → l.scope = c.scope) (before : Option Locator) :
    Work around L c (lastMatch wanted ls before) fun found =>
      ∀ l ∈ found, l ∈ ls ∨ l ∈ before := by
  induction ls generalizing before with
  | nil => exact .pure fun l hl => .inr hl
  | cons l rest ih =>
    rw [List.forall_mem_cons] at hls
    refine (work_matchesText wanted hls.1).bind fun hit _ => (ih hls.2 _).mono ?_
    intro found h l' hl'
    rcases h l' hl' with h | h
    · exact .inl (List.mem_cons_of_mem l h)
    · cases hit with
      | false => exact .inr h
      | true => cases h; exact .inl List.mem_cons_self

theorem work_storedItem (key : Value) (c : Context) :
    Work around L c (storedItem key c) fun _ => True := by
  rw [storedItem]
  refine Work.items.bind fun store _ => ?_
  refine (Work.compute (P := fun _ => True) (ItemStore.recordableIn_checkKey key)
    fun _ _ => trivial).bind fun _ _ => ?_
  exact .compute (store.recordableIn_get key) fun _ _ => trivial

end Filter

theorem Context.work_value (c : Context) : Work around L c c.value fun _ => True := by
  rw [value]
  cases hfocus : c.focus with
  | none => exact .pure trivial
  | some f =>
    refine (Work.compute (f.recordableIn_through _) fun l hl => Focus.through_ok hl).bind
      fun l hl => ?_
    have hscope : c.Sound → l.scope = c.scope := fun hc => hc.element (hl ▸ hfocus)
    refine (Work.look hscope rfl).bind fun tag _ => ?_
    split
    · exact .look hscope rfl
    · exact (Work.look hscope rfl).bind fun text _ => .pure trivial

namespace Interact

theorem work_focus (c : Context) (label : String) :
    Work around L c (focus c label) fun f => c.focus = some f := by
  rw [focus]
  cases h : c.focus with
  | none => exact .own (Raised.recordable_step _ _)
  | some f => exact .pure rfl

theorem work_element {f : Focus} (hf : c.focus = some f) (operation : String) :
    Work around L c (element f operation) fun l => c.Sound → l.scope = c.scope :=
  .compute (f.recordableIn_through operation) fun _ hl hc => hc.element (Focus.through_ok hl ▸ hf)

/-- An error that is given the name of an action is one that the library raises, or passes on as it
is. -/
theorem work_naming {α : Type} {P : α → Prop} (label : String) {p : Action σ α}
    (hp : Work around L c p P) : Work around L c (naming label p) P := by
  rw [naming]
  refine .attempt hp (fun a ha => .pure ha) fun e => ?_
  dsimp only
  split
  · rcases hread : e.readText with e' | text
    · exact ⟨e', rfl, .inr (Raised.recordable_of_readText hread)⟩
    · exact ⟨_, rfl, .inr (Raised.recordable_step _ _)⟩
  · exact ⟨e, rfl, .inl rfl⟩

/-- An operation on the element in focus, under the name of an action. -/
theorem work_operation {α : Type} {P : α → Prop} (label operation : String) {f : Focus}
    (hf : c.focus = some f) {p : Locator → Action σ α}
    (hp : ∀ l, (c.Sound → l.scope = c.scope) → Work around L c (p l) P) :
    Work around L c (naming label (element f operation >>= p)) P :=
  work_naming label ((work_element hf operation).bind hp)

end Interact

theorem Probe.work_run (label : String) (c : Context) (selector shown : String) (timeout : Value) :
    Work around L c (Probe.run label c selector shown timeout) fun _ => True := by
  rw [Probe.run]
  refine (Work.timeout _ _).bind fun wait _ => ?_
  refine (Work.look (l := c.locate selector) (fun _ => rfl) rfl).rescue.bind fun r _ => ?_
  have hmiss : Work around L c (do
      c.sink.write .info (miss label shown)
      return false) fun _ => True :=
    (Work.inform _).bind fun _ _ => .pure trivial
  cases r with
  | ok _ => exact .pure trivial
  | error e =>
    dsimp only
    split
    · have htrouble : Raised.RecordableIn (trouble label shown e) :=
        Raised.RecordableIn.bind (fun _ => Raised.recordable_of_readText) fun _ => .ok _
      refine (Work.compute (P := fun _ => True) htrouble fun _ _ => trivial).bind fun text _ => ?_
      exact (Work.record (by decide) _ _ _).bind fun _ _ => hmiss
    · exact hmiss

/-- A probe keeps to any leeway that has room for a look into the page that its context is confined
to, if that is sound. -/
theorem Probe.keeps_run {asks : Call → Prop} (hL : L.Covers around asks)
    (hasks : ∀ k : Call, (c.Sound → ∀ s ∈ k.scope?, s = c.scope) → asks k)
    (label selector shown : String) (timeout : Value) :
    (Probe.run label c selector shown timeout).Keeps around L :=
  (work_run label c selector shown timeout).keeps hL hasks

end BrowserFlow
