import BrowserFlow.Proofs.Faults
import BrowserFlow.Steps.Assert
import BrowserFlow.Steps.Filter

/-!
# Actions that deal with faults

An action deals with the faults of the driver if what it comes to tells of them, and the items that
it keeps are texts. Calls on the driver deal with faults by passing them on, the actions of the
library by what they make of them; a sequence deals with them if it goes on only where there were
none. A step that is executed deals with faults if its body does.
-/
namespace BrowserFlow

variable {σ α β : Type}

/-! ### Items that are texts -/

/-- Every value that is kept is a text. -/
def ItemStore.Textual (store : ItemStore) : Prop :=
  ∀ entry ∈ store.entries, ∃ s, entry.2 = .str s

namespace ItemStore

variable {store : ItemStore}

theorem textual_empty : empty.Textual := by simp [Textual, empty]

theorem textual_insertEntry {key : Value} {s : String} {entries : List (Value × Value)}
    (h : ∀ entry ∈ entries, ∃ s, entry.2 = .str s) :
    ∀ entry ∈ insertEntry key (.str s) entries, ∃ s, entry.2 = .str s := by
  induction entries with
  | nil => simp [insertEntry]
  | cons entry rest ih =>
    obtain ⟨hfirst, hrest⟩ := List.forall_mem_cons.1 h
    simp only [insertEntry]
    split
    · exact List.forall_mem_cons.2 ⟨⟨s, rfl⟩, hrest⟩
    · exact List.forall_mem_cons.2 ⟨hfirst, ih hrest⟩

theorem Textual.set (h : store.Textual) (key value : Value) : (store.set key value).Textual :=
  textual_insertEntry h

theorem Textual.remove (h : store.Textual) {key : Value} {left : ItemStore}
    (hleft : store.remove key = .ok left) : left.Textual := by
  rw [ItemStore.remove] at hleft
  split at hleft
  · cases hleft; exact h
  · rcases hkey : checkKey key with e | _ <;> rw [hkey] at hleft <;> cases hleft
    exact fun entry hentry => h entry (List.mem_filter.1 hentry).1

theorem Textual.get (h : store.Textual) {key v : Value} (hv : store.get key = .ok v) :
    ∃ s, v = .str s := by
  rw [ItemStore.get] at hv
  split at hv
  case h_1 found hfound =>
    cases hv
    obtain ⟨entry, hentry, rfl⟩ := Option.map_eq_some_iff.1 hfound
    exact h entry (List.mem_of_find?_eq_some hentry)
  case h_2 => cases hv

end ItemStore

/-! ### Dealing with faults -/

/-- What a run has come to, by the faults that there were: what it gives back and what it raises has
to do with them as it is asked, and the items that are kept are texts. -/
structure Dealt (around : Surroundings σ) (store : Nat) (Q : α → List Fault → Prop)
    (E : Raised → List Fault → Prop) (m : Machine σ) (r : Outcome α × Machine σ) :
    Prop where
  textual : (r.2.stores store).Textual
  told : ∃ xs, Exchanged around m xs r.2 ∧
    match r.1 with
    | .done a => Q a (faults xs)
    | .raised e => E e (faults xs)
    | .endless => True

/-- An action deals with faults, wherever the items that are kept are texts. -/
def Action.Deals (around : Surroundings σ) (store : Nat) (stray : Prop)
    (Q : α → List Fault → Prop) (p : Action σ α) : Prop :=
  ∀ m, (m.stores store).Textual →
    Dealt around store Q (Raised.Tells stray) m (p around m)

/-- What an action gives back has a property, and there were no faults. -/
def Spotless (P : α → Prop) (a : α) (fs : List Fault) : Prop := P a ∧ fs = []

namespace Dealt

variable {around : Surroundings σ} {store : Nat} {Q Q' : α → List Fault → Prop}
  {E E' : Raised → List Fault → Prop} {m n : Machine σ} {r : Outcome α × Machine σ}

theorem mono (h : Dealt around store Q E m r) (hQ : ∀ a fs, Q a fs → Q' a fs)
    (hE : ∀ e fs, E e fs → E' e fs) : Dealt around store Q' E' m r := by
  obtain ⟨htextual, xs, hxs, htold⟩ := h
  refine ⟨htextual, xs, hxs, ?_⟩
  rcases r with ⟨a | e | _, n⟩
  · exact hQ a _ htold
  · exact hE e _ htold
  · trivial

/-- What was dealt with after exchanges without a fault is dealt with from the start. -/
theorem after {xs : List Exchange} (hxs : Exchanged around m xs n) (hfaults : faults xs = [])
    (h : Dealt around store Q E n r) : Dealt around store Q E m r := by
  obtain ⟨htextual, ys, hys, htold⟩ := h
  refine ⟨htextual, xs ++ ys, hxs.trans hys, ?_⟩
  rwa [faults_append, hfaults, List.nil_append]

end Dealt

namespace Action.Deals

variable {around : Surroundings σ} {store : Nat} {stray : Prop} {P : α → Prop}
  {Q : β → List Fault → Prop}

theorem pure {a : α} (h : P a) :
    (Pure.pure a : Action σ α).Deals around store stray (Spotless P) :=
  fun m hm => ⟨hm, [], .refl around m, h, rfl⟩

theorem raise {Q : α → List Fault → Prop} {cls : StepErrorClass} (message : String)
    (h : cls.failureKind ≠ .unexpected) :
    (Action.raise (.ofText (.step cls) message) : Action σ α).Deals around store stray Q :=
  fun m hm => ⟨hm, [], .refl around m, .own h⟩

/-- A computation of the library raises errors of steps. -/
theorem compute {x : Except Raised α} (hok : ∀ a, x = .ok a → P a)
    (herror : ∀ e, x = .error e → ∃ cls message, cls.failureKind ≠ .unexpected ∧
      e = .ofText (.step cls) message) :
    (Action.ofExcept x : Action σ α).Deals around store stray (Spotless P) := by
  cases x with
  | ok a => exact pure (hok a rfl)
  | error e =>
    obtain ⟨cls, message, hcls, rfl⟩ := herror e rfl
    exact raise message hcls

/-- A sequence goes on only where there were no faults, with what its first part came to. -/
theorem bind_dealt {p : Action σ α} {f : α → Action σ β} {m : Machine σ}
    (hp : p.Deals around store stray (Spotless P)) (hm : (m.stores store).Textual)
    (hf : ∀ a n, p around m = (.done a, n) → P a → (f a).Deals around store stray Q) :
    Dealt around store Q (Raised.Tells stray) m ((p >>= f) around m) := by
  obtain ⟨htextual, xs, hxs, htold⟩ := hp m hm
  rw [bind_run]
  rcases hrun : p around m with ⟨a | e | _, n⟩ <;> rw [hrun] at htextual hxs htold
  · obtain ⟨ha, hfaults⟩ := htold
    exact .after hxs hfaults (hf a n hrun ha n htextual)
  · exact ⟨htextual, xs, hxs, htold⟩
  · exact ⟨htextual, xs, hxs, trivial⟩

theorem bind {p : Action σ α} {f : α → Action σ β}
    (hp : p.Deals around store stray (Spotless P))
    (hf : ∀ a, P a → (f a).Deals around store stray Q) :
    (p >>= f).Deals around store stray Q :=
  fun _ hm => hp.bind_dealt hm fun a _ _ ha => hf a ha

theorem items : (Action.items store : Action σ ItemStore).Deals around store stray
    (Spotless ItemStore.Textual) :=
  fun m hm => ⟨hm, [], .refl around m, hm, rfl⟩

theorem changeItems {f : ItemStore → ItemStore}
    (hf : ∀ s : ItemStore, s.Textual → (f s).Textual) :
    (Action.changeItems store f : Action σ Unit).Deals around store stray
      (Spotless fun _ => True) := by
  intro m hm
  have hchanged : ((Action.changeItems store f around m).2.stores store) = f (m.stores store) := by
    simp [Action.changeItems]
  exact ⟨hchanged ▸ hf _ hm, [], .still rfl rfl, trivial, rfl⟩

theorem settings {s : Settings} (hsettings : around.settings = .ok s) :
    (Action.settings : Action σ Settings).Deals around store stray (Spotless fun _ => True) := by
  intro m hm
  rw [Action.settings_run, hsettings]
  exact ⟨hm, [], .refl around m, trivial, rfl⟩

theorem timeout {s : Settings} (hsettings : around.settings = .ok s) (given : Value)
    (fallback : Settings → Float) :
    (Action.timeout given fallback : Action σ Value).Deals around store stray
      (Spotless fun _ => True) := by
  rw [Action.timeout]
  split
  · exact (settings hsettings).bind fun _ _ => pure trivial
  · exact pure trivial

theorem call_stores {k : Call} (around : Surroundings σ) (m : Machine σ) :
    (Action.call k around m).2.stores = m.stores := by
  rw [Action.call_run]

/-- A call passes the error of the driver on, if it is no wait. -/
theorem call (hdriver : around.driver.RaisesOwn) {k : Call}
    (hk : ∀ e, Fault.isMissedWait ⟨k, e⟩ = false) :
    (Action.call k : Action σ k.Reply).Deals around store stray (Spotless fun _ => True) := by
  intro m hm
  refine ⟨by rwa [call_stores], _, .call around k m, ?_⟩
  have hreply := hdriver k m.world
  rw [Action.call_reply]
  generalize around.driver.reply k m.world = r at hreply
  cases r with
  | done a => exact ⟨trivial, rfl⟩
  | raised e => exact .passed (x := ⟨k, e⟩) (hreply e rfl) (hk e)
  | endless => trivial

theorem cls_of_call (hdriver : around.driver.RaisesOwn) {k : Call} {e : Raised}
    {m n : Machine σ} (h : Action.call k around m = (.raised e, n)) : e.cls.isDriver = true :=
  hdriver k m.world e (by rw [← call_reply, h])

/-- A call whose error is looked at: what is raised in its place tells of the fault. -/
theorem attempted (hdriver : around.driver.RaisesOwn) {k : Call}
    {f : Except Raised k.Reply → Action σ β}
    (hok : ∀ a, (f (.ok a)).Deals around store stray Q)
    (herror : ∀ e : Raised, e.cls.isDriver = true →
      ∃ e' : Raised, f (.error e) = Action.raise e' ∧ e'.Tells stray [⟨k, e⟩]) :
    ((Action.call k).attempt >>= f).Deals around store stray Q := by
  intro m hm
  rw [bind_run, attempt_run]
  have hstores := call_stores (k := k) around m
  rcases hcall : Action.call k around m with ⟨a | e | _, n⟩
  all_goals
    have hasked := Exchanged.of_call hcall
    rw [hcall] at hstores
    have hn : (n.stores store).Textual := by rwa [hstores]
  · exact .after hasked rfl (hok a n hn)
  · obtain ⟨e', hraise, htells⟩ := herror e (cls_of_call hdriver hcall)
    dsimp only
    rw [hraise]
    exact ⟨hn, _, hasked, htells⟩
  · exact ⟨hn, _, hasked, trivial⟩

/-- An error that is given the name of an action tells of the same faults. -/
theorem naming {p : Action σ α} (label : String) (hp : p.Deals around store stray (Spotless P)) :
    (Interact.naming label p).Deals around store stray (Spotless P) := by
  intro m hm
  obtain ⟨htextual, xs, hxs, htold⟩ := hp m hm
  rw [Interact.naming, bind_run, attempt_run]
  rcases hrun : p around m with ⟨a | e | _, n⟩ <;> rw [hrun] at htextual hxs htold
  · exact ⟨htextual, xs, hxs, htold⟩
  · dsimp only at htold ⊢
    by_cases hcls : e.cls.isDriver = true
    · simp only [hcls, if_true]
      generalize hfaults : faults xs = fs at htold
      cases htold with
      | @passed x _ hwait =>
        -- Only here the text of an error is asked for, and there may be none.
        rw [Raised.readText]
        rcases x.error.toValue.readText_cases with ⟨hmute, type, htext⟩ | ⟨hmute, htext⟩
        · rw [htext]
          refine ⟨htextual, xs, hxs, ?_⟩
          rw [hfaults]
          exact .mute (Fault.kind_of_mute hwait hmute)
        · rw [htext]
          refine ⟨htextual, xs, hxs, ?_⟩
          rw [hfaults]
          exact .told (Fault.kind_of_text hwait hmute).symm (by simp [StepErrorClass.failureKind])
      | _ => cases hcls
    · simp only [hcls]
      exact ⟨htextual, xs, hxs, htold⟩
  · exact ⟨htextual, xs, hxs, trivial⟩

end Action.Deals

/-! ### Contexts and steps -/

namespace Context

/-- What is in focus is an element, if anything is. -/
def Located (c : Context) : Prop := ∀ f ∈ c.focus, ∃ l, f = .element l

/-- A context that steps may go on with: what is in focus is an element, and the items are those of
the first one. -/
structure Onward (c d : Context) : Prop where
  located : d.Located
  items : d.items = c.items

theorem Onward.withFocus {c d : Context} (h : c.Onward d) (l : Locator) :
    c.Onward (d.withFocus l) :=
  ⟨fun f hf => ⟨l, by cases hf; rfl⟩, h.items⟩

theorem Onward.withCollection {c d : Context} (h : c.Onward d) (ls : List Locator) :
    c.Onward (d.withCollection ls) :=
  ⟨by simp [Located, Context.withCollection], h.items⟩

theorem Onward.withScope {c d : Context} (h : c.Onward d) (frame : Frame) :
    c.Onward (d.withScope frame) :=
  ⟨by simp [Located, Context.withScope], h.items⟩

theorem Onward.withoutScope {c d : Context} (h : c.Onward d) : c.Onward d.withoutScope :=
  ⟨by simp [Located, Context.withoutScope], h.items⟩

theorem discloses_unfailed {stray : Prop} {P : Context → Prop} {d : Context}
    (hd : d.failure = none) (h : P d) : d.Discloses stray P [] := by
  rw [Discloses, hd]
  exact ⟨h, rfl⟩

theorem discloses_failed {stray : Prop} {P : Context → Prop} {d : Context} {f : Failure}
    {fs : List Fault} (hd : d.failure = some f) (h : f.Discloses stray fs) :
    d.Discloses stray P fs := by
  rw [Discloses, hd]
  exact h

end Context

/-- An answer tells of faults if it is a context that does. -/
def Answer.Discloses (stray : Prop) (P : Context → Prop) (a : Answer) (fs : List Fault) : Prop :=
  ∃ d, a = .context d ∧ d.Discloses stray P fs

variable {around : Surroundings σ} {stray : Prop} {P : Context → Prop} {c : Context}

theorem Step.noted_stores (s : Step σ) (e : Raised) (m : Machine σ) :
    (s.noted m e).stores = m.stores := rfl

theorem Step.noted_exchanged (s : Step σ) (e : Raised) (m : Machine σ) :
    Exchanged around m [] (s.noted m e) := .emit around (by simp) m

/-- The body of a step of the library deals with faults if the context it gives does. -/
theorem Step.ofBody_dealt {store : Nat} {E : Raised → List Fault → Prop} (name : String)
    (args : List (String × Value)) {body : Context → Action σ Context} {m : Machine σ}
    (h : Dealt around store (Context.Discloses stray P) E m (body c around m)) :
    Dealt around store (Answer.Discloses stray P) E m
      ((ofBody name args body).body c around m) := by
  obtain ⟨htextual, xs, hxs, htold⟩ := h
  rw [ofBody_run]
  rcases hrun : body c around m with ⟨d | e | _, n⟩ <;> rw [hrun] at htextual hxs htold
  · exact ⟨htextual, xs, hxs, d, rfl, htold⟩
  · exact ⟨htextual, xs, hxs, htold⟩
  · exact ⟨htextual, xs, hxs, trivial⟩

/-- A step that is executed deals with faults if its body does, where that is started; no error
leaves it but one for a fault without a text. -/
theorem Step.execute_dealt {s : Step σ} {token : Option Token} {m : Machine σ}
    (hc : c.failure = none) (hm : (m.stores c.items).Textual)
    (hbody : ∀ n, s.startOn c token m = some n → (n.stores c.items).Textual →
      Dealt around c.items (Answer.Discloses stray P) (Raised.Tells stray) n (s.body c around n)) :
    Dealt around c.items (Context.Discloses stray P) Raised.Mutes m
      (s.execute c token around m) := by
  rw [s.execute_run token around m hc]
  cases hreason : stopReason token m with
  | some reason =>
    refine ⟨by rwa [Sink.given_stores], [], .given around _ _ _ m, ?_⟩
    exact Context.discloses_failed rfl (.own fun h => by simp [cancelFailure] at h)
  | none =>
    rw [s.start_run around m hc]
    have hstarted := hbody (c.sink.given .step s.describe m)
      ((s.startOn_eq_some token m).2 ⟨hc, hreason, rfl⟩) (by rwa [Sink.given_stores])
    refine .after (.given around .step s.describe c.sink m) rfl ?_
    generalize c.sink.given .step s.describe m = k at hstarted
    obtain ⟨htextual, xs, hxs, htold⟩ := hstarted
    dsimp only
    rw [call, Action.awaited_run]
    rcases hrun : s.body c around k with ⟨a | e | _, n⟩ <;> rw [hrun] at htextual hxs htold
    · obtain ⟨d, rfl, hd⟩ := htold
      exact ⟨htextual, xs, hxs, hd⟩
    · have hnoted := hxs.onward (s.noted_exchanged e n)
      simp only [htold.leaving, verdict, settled, htold.isOrdinary, if_true]
      rcases htold.recorded s.name with ⟨f, hf, hdisclosed⟩ | ⟨e', he', hmutes⟩
      · rw [hf]
        have hgiven := hnoted.onward (.given around .error f.line c.sink (s.noted n e))
        refine ⟨?_, xs, hgiven, Context.discloses_failed rfl hdisclosed⟩
        rwa [Sink.given_stores, noted_stores]
      · rw [he']
        exact ⟨htextual, xs, hnoted, hmutes⟩
    · exact ⟨htextual, xs, hxs, trivial⟩

end BrowserFlow
