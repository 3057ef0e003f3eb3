import BrowserFlow.Proofs.RemoteWork
import BrowserFlow.Rehearsal.RemotePage

/-!
# Errors that leave the work on a remote browser

Whatever error of its own a remote browser raises, at whichever command, work on it is meant to end
in an error of the driver: in a timeout if that is what was raised or if a wait ran out of time, in
a plain one otherwise and if an element is not there. A launch is meant to end in an error of
sessions. That is so but for two strays. An index that counts back past the first match is not
looked for among the matches, and the error of the list leaves as it is. And an error of the browser
at the limit for loading a page leaves a launch as it is.
-/
namespace BrowserFlow

/-- The ending is an answer, an error of one sort, or a loop given up where that may be. -/
def Outcome.Within {α : Type} (E : Raised → Prop) (hangs : Prop) : Outcome α → Prop
  | .done _ => True
  | .raised e => E e
  | .endless => hangs

/-- However the procedure ends, it ends within these bounds. -/
def Proc.EndsWithin {s α : Type} (E : Raised → Prop) (hangs : Prop) (p : Proc s α) : Prop :=
  ∀ st, (p st).1.Within E hangs

namespace Proc.EndsWithin

variable {s α β : Type} {E F : Raised → Prop} {hangs : Prop}

theorem pure (a : α) : (Pure.pure a : Proc s α).EndsWithin E hangs := fun _ => trivial

theorem raise {e : Raised} (h : E e) : (Proc.raise e : Proc s α).EndsWithin E hangs := fun _ => h

theorem ofExcept {x : Except Raised α} (h : ∀ e, x = .error e → E e) :
    (Proc.ofExcept x : Proc s α).EndsWithin E hangs := by
  cases x with
  | ok a => exact pure a
  | error e => exact raise (h e rfl)

theorem mono {p : Proc s α} (hp : p.EndsWithin F hangs) (h : ∀ e, F e → E e) :
    p.EndsWithin E hangs := by
  intro st
  have hst := hp st
  rcases he : (p st).1 with a | e | _ <;> rw [he] at hst
  · trivial
  · exact h e hst
  · exact hst

theorem hanging {hangs' : Prop} {p : Proc s α} (hp : p.EndsWithin E hangs)
    (h : hangs → hangs') : p.EndsWithin E hangs' := by
  intro st
  have hst := hp st
  rcases he : (p st).1 with a | e | _ <;> rw [he] at hst
  · trivial
  · exact hst
  · exact h hst

theorem bind {p : Proc s α} {f : α → Proc s β} (hp : p.EndsWithin E hangs)
    (hf : ∀ a, (f a).EndsWithin E hangs) : (p >>= f).EndsWithin E hangs := by
  intro st
  have h := hp st
  rw [bind_apply]
  rcases he : p st with ⟨a | e | _, next⟩ <;> rw [he] at h
  · exact hf a next
  · exact h
  · exact h

/-- An error that was caught is one of those that could be raised. -/
theorem attempt_bind {p : Proc s α} {f : Except Raised α → Proc s β}
    (hp : p.EndsWithin F hangs) (hok : ∀ a, (f (.ok a)).EndsWithin E hangs)
    (herror : ∀ e, F e → (f (.error e)).EndsWithin E hangs) :
    (p.attempt >>= f).EndsWithin E hangs := by
  intro st
  have h := hp st
  rw [bind_apply, attempt]
  rcases he : p st with ⟨a | e | _, next⟩ <;> rw [he] at h
  · exact hok a next
  · exact herror e h next
  · exact h

theorem rounds {round : α → Proc s (α ⊕ β)}
    (hround : ∀ a, (round a).EndsWithin E True) (n : Nat) (a : α) :
    (Proc.rounds round n a).EndsWithin E True := by
  induction n generalizing a with
  | zero => exact fun _ => trivial
  | succ n ih =>
    refine (hround a).bind fun next => ?_
    cases next with
    | inl b => exact ih b
    | inr r => exact pure r

end Proc.EndsWithin

/-- The indexes along a path, from its root on. -/
def Locator.indexes : Locator → List Number
  | root _ _ index => index.toList
  | child parent _ index => parent.indexes ++ index.toList

theorem Locator.mem_indexes {l : Locator} {i : Number} (h : i ∈ Remote.Line.indexOf l) :
    i ∈ l.indexes := by
  cases l with
  | root scope selector index => exact Option.mem_toList.2 h
  | child parent selector index => exact List.mem_append_right _ (Option.mem_toList.2 h)

/-- The indexes along the path are whole numbers. -/
def Locator.IsCounted (l : Locator) : Prop := ∀ i ∈ l.indexes, ∃ n, i.whole? = some n

/-- What of a call is declared to be a text. -/
def Call.texts : Call → List Value
  | frame _ selector => [selector]
  | press _ key => [key]
  | _ => []

/-- The times that a call may take, which are waited for in looks. -/
def Call.times : Call → List Value
  | waitForLoad _ timeout | waitFor _ timeout _ => [timeout]
  | click _ timeout => if timeout.isTrue then [timeout] else []
  | _ => []

/-- What a call is given is of the declared kinds: whole numbers for indexes, texts for selectors
and keys, and for times numbers that floats have room for. -/
structure Call.Declared (k : Call) : Prop where
  indexes : ∀ l ∈ k.locator?, l.IsCounted
  texts : ∀ v ∈ k.texts, ∃ s, v = .str s
  times : ∀ v ∈ k.times, ∃ x, v.toFloat = .ok x

/-- The error of a list that is asked for a place before its first. -/
def Raised.beforeFirst : Raised := ofText (.foreign "IndexError") "list index out of range"

/-- The index counts back from the end past the first of so many. -/
def PassesFirst (index : Option Number) (count : Nat) : Prop :=
  ∃ i ∈ index, ∃ n, i.whole? = some n ∧ count + n < 0

namespace Remote

/-- Every command is answered, or an error of the browser's own is raised. -/
def Browser.Responds {τ : Type} (b : Browser τ) : Prop :=
  ∀ c world, (b.perform c world).1.Within (fun e => ∃ kind, e.cls = .browser kind) False

namespace Line

/-- The error that a locator does not lead to an element, but to so many others. -/
def absent (l : Locator) (count : Nat) : Raised :=
  .browser .noSuchElement ("'" ++ l.path ++ "' matched " ++ toString count ++ " element(s)")

/-- A place past the last match is met with the error that there is no such element, and one before
the first with the error of the list. -/
theorem pick_error {l : Locator} {index : Option Number} {found : List ElementRef} {e : Raised}
    (hindex : ∀ i ∈ index, ∃ n, i.whole? = some n) (h : pick l index found = .error e) :
    e = absent l found.length ∨ (e = .beforeFirst ∧ PassesFirst index found.length) := by
  have heffective : ∃ n, (effectiveIndex index).whole? = some n ∧
      (n < 0 → ∃ i ∈ index, i.whole? = some n) := by
    cases index with
    | none => exact ⟨0, rfl, by simp⟩
    | some i =>
      obtain ⟨n, hn⟩ := hindex i rfl
      by_cases htrue : i.isTrue = true
      · exact ⟨n, by simpa [effectiveIndex, Option.filter, htrue] using hn,
          fun _ => ⟨i, rfl, hn⟩⟩
      · exact ⟨0, by simp [effectiveIndex, Option.filter, htrue, Number.whole?], by simp⟩
  obtain ⟨n, hn, hgiven⟩ := heffective
  rw [pick, atIndex] at h
  by_cases hpast : (effectiveIndex index).relate .atLeast (.whole found.length) = true
  · simp only [hpast, if_true] at h
    cases h
    exact .inl rfl
  · by_cases hplace : (if n < 0 then found.length + n else n) < 0
    · have hneg : n < 0 := by omega
      obtain ⟨i, hi, hin⟩ := hgiven hneg
      simp only [hpast, hn, hplace, if_true] at h
      cases h
      exact .inr ⟨rfl, i, hi, n, hin, by omega⟩
    · simp only [hpast, hn, hplace, if_false] at h
      generalize found[(if n < 0 then (found.length : Int) + n else n).toNat]? = el at h
      cases el <;> cases h
      exact .inl rfl

theorem pick_of_passesFirst {l : Locator} {index : Option Number} {found : List ElementRef}
    (h : PassesFirst index found.length) : pick l index found = .error .beforeFirst := by
  obtain ⟨i, hi, n, hn, hplace⟩ := h
  have hneg : n < 0 := by omega
  have htrue : i.isTrue = true := by
    cases i with
    | whole m =>
      cases hn
      simp only [Number.isTrue, bne_iff_ne]
      omega
    | truth b =>
      cases hn
      cases b <;> simp [Number.ofBool] at hneg
    | real x => cases hn
  have heffective : effectiveIndex index = i := by
    cases hi
    simp [effectiveIndex, Option.filter, htrue]
  have hcompare : i.compare? (.whole found.length) = some .lt := by
    have hlt : compare n found.length = .lt := Int.compare_eq_lt.2 (by omega)
    cases i with
    | real x => cases hn
    | _ =>
      cases hn
      simpa [Number.compare?] using hlt
  simp [pick, atIndex, heffective, Number.relate, hcompare, Relation.holds, hn, hneg, hplace,
    Raised.beforeFirst]

variable {τ : Type} (line : Line τ)

/-- An error of the browser that comes up in work on it: the browser raises it at a command, an
element is not there, or a wait runs out of time. -/
inductive Arises : Raised → Prop
  | raised {c : Command} {world : τ} {e : Raised}
    (h : (line.browser.perform c world).1 = .raised e) : Arises e
  | absent (l : Locator) (count : Nat) : Arises (absent l count)
  | late (message : String) : Arises (.browser .timeout message)

/-- What can break work off, along a path or on the session as a whole: an error of the browser, or
an index that counts back. -/
inductive Breaks (l : Option Locator) : Raised → Prop
  | arisen {e : Raised} (h : line.Arises e) : Breaks l e
  | counted {path : Locator} (hpath : path ∈ l) {i : Number} (hi : i ∈ path.indexes) {n : Int}
    (hn : i.whole? = some n) (hback : n < 0) : Breaks l .beforeFirst

variable {line}

theorem Arises.cls (hbrowser : line.browser.Responds) {e : Raised} (h : line.Arises e) :
    ∃ kind, e.cls = .browser kind := by
  cases h with
  | @raised c world _ h =>
    have hresponse := hbrowser c world
    rw [h] at hresponse
    exact hresponse
  | absent l count => exact ⟨_, rfl⟩
  | late message => exact ⟨_, rfl⟩

theorem Breaks.below {parent : Locator} {selector : String} {index : Option Number} {e : Raised}
    (h : line.Breaks (some parent) e) : line.Breaks (some (.child parent selector index)) e := by
  cases h with
  | arisen h => exact .arisen h
  | counted hpath hi hn hback =>
    cases hpath
    exact .counted rfl (List.mem_append_left _ hi) hn hback

/-! ### How work can end -/

theorem pick_ends {l : Locator} {hangs : Prop} (hl : l.IsCounted)
    (found : List ElementRef) :
    (Proc.ofExcept (pick l (indexOf l) found) : Work τ ElementRef).EndsWithin
      (line.Breaks (some l)) hangs := by
  refine .ofExcept fun e he => ?_
  rcases pick_error (fun i hi => hl i (Locator.mem_indexes hi)) he with
    rfl | ⟨rfl, i, hi, n, hn, hpast⟩
  · exact .arisen (.absent _ _)
  · exact .counted rfl (Locator.mem_indexes hi) hn (by omega)

section Ends

variable {l? : Option Locator} {hangs : Prop} (hbrowser : line.browser.Responds)
include hbrowser

theorem send_arises (c : Command) : (line.send c).EndsWithin line.Arises hangs := by
  intro rig
  have h := hbrowser c rig.world.browser
  rw [send]
  rcases he : line.browser.perform c rig.world.browser with ⟨a | e | _, world⟩ <;> rw [he] at h
  · trivial
  · exact .raised (congrArg Prod.fst he)
  · exact False.elim h

theorem send_ends (c : Command) : (line.send c).EndsWithin (line.Breaks l?) hangs :=
  (send_arises hbrowser c).mono fun _ => .arisen

theorem enterScope_ends (scope : Option Frame) :
    (line.enterScope scope).EndsWithin (line.Breaks l?) hangs := by
  refine .bind (send_ends hbrowser _) fun _ => ?_
  cases scope with
  | none => exact .pure ()
  | some frame => exact .bind (send_ends hbrowser _) fun el => send_ends hbrowser _

theorem elements_ends {l : Locator} (hl : l.IsCounted) :
    (line.elements l).EndsWithin (line.Breaks (some l)) hangs := by
  induction l with
  | root scope selector index =>
    exact .bind (enterScope_ends hbrowser scope) fun _ => send_ends hbrowser _
  | child parent selector index ih =>
    have hparent : parent.IsCounted := fun i hi => hl i (List.mem_append_left _ hi)
    refine .bind ((ih hparent).mono fun _ => .below) fun found => ?_
    exact .bind ((pick_ends hparent found).mono fun _ => .below) fun base => send_ends hbrowser _

theorem element_ends {l : Locator} (hl : l.IsCounted) :
    (line.element l).EndsWithin (line.Breaks (some l)) hangs :=
  .bind (elements_ends hbrowser hl) fun found => pick_ends hl found

theorem sleep_ends (hpause : ∃ x, (Value.ofNumber line.pause).toFloat = .ok x) :
    line.sleep.EndsWithin (line.Breaks l?) hangs := by
  obtain ⟨x, hx⟩ := hpause
  refine .bind (.ofExcept fun e he => by rw [hx] at he; cases he) fun _ => ?_
  exact .bind (fun _ => trivial) fun _ => send_ends hbrowser _

theorem afterLook_ends (hpause : ∃ x, (Value.ofNumber line.pause).toFloat = .ok x)
    (deadline : Float) (message : String) (seen : Bool) :
    (line.afterLook deadline message seen).EndsWithin (line.Breaks l?) hangs := by
  rw [afterLook]
  split
  · exact .pure _
  · refine .bind (fun _ => trivial) fun now => ?_
    split
    · exact .raise (.arisen (.late message))
    · exact .bind (sleep_ends hbrowser hpause) fun _ => .pure _

/-- A wait for a time ends as its looks do, or runs out of time; it may also go on looking. -/
theorem waitUntil_ends (hpause : ∃ x, (Value.ofNumber line.pause).toFloat = .ok x)
    {timeout : Value} (htimeout : ∃ x, timeout.toFloat = .ok x) {ready : Work τ Bool}
    (hready : ready.EndsWithin (line.Breaks l?) True) (message : String)
    (ignored : List BrowserErrorClass) :
    (line.waitUntil timeout ready message ignored).EndsWithin (line.Breaks l?) True := by
  obtain ⟨x, hx⟩ := htimeout
  obtain ⟨y, hy⟩ := hpause
  refine .bind (.ofExcept fun e he => by rw [hx] at he; cases he) fun length => ?_
  refine .bind (.ofExcept fun e he => by rw [hy] at he; cases he) fun poll => ?_
  refine .bind (fun _ => trivial) fun rig => .rounds (fun _ => ?_) _ _
  rw [look_eq]
  refine .attempt_bind hready (fun seen => afterLook_ends hbrowser ⟨y, hy⟩ _ _ seen)
    fun e he => ?_
  dsimp only
  split
  · exact afterLook_ends hbrowser ⟨y, hy⟩ _ _ false
  · exact .raise he

theorem anyDisplayed_ends (found : List ElementRef) :
    (line.anyDisplayed found).EndsWithin (line.Breaks l?) hangs := by
  induction found with
  | nil => exact .pure false
  | cons el rest ih =>
    refine .bind (send_ends hbrowser _) fun shown => ?_
    cases shown with
    | true => exact .pure true
    | false => exact ih

theorem afterElements_ends {l : Locator} (hl : l.IsCounted) (visible : Bool)
    (found : List ElementRef) :
    (line.afterElements l visible found).EndsWithin (line.Breaks l?) hangs := by
  have hlook : ∀ found : List ElementRef, (if visible then line.anyDisplayed found
      else return !found.isEmpty : Work τ Bool).EndsWithin (line.Breaks l?) hangs := by
    intro found
    split
    · exact anyDisplayed_ends hbrowser found
    · exact .pure _
  rw [afterElements]
  split
  · next i hi =>
    obtain ⟨n, hn⟩ := hl i (Locator.mem_indexes hi)
    refine .bind (.ofExcept fun e he => ?_) hlook
    simp [slice, hn] at he
  · exact .bind (.pure _) hlook

theorem present_ends {l : Locator} (hl : l.IsCounted)
    (visible : Bool) : (line.present l visible).EndsWithin (line.Breaks (some l)) hangs := by
  rw [present_eq]
  refine .attempt_bind (elements_ends hbrowser hl) (afterElements_ends hbrowser hl visible)
    fun e he => ?_
  dsimp only
  split
  · exact .pure false
  · exact .raise he

theorem isClickable_ends (el : ElementRef) :
    (line.isClickable el).EndsWithin (line.Breaks l?) hangs := by
  refine .bind (send_ends hbrowser _) fun shown => ?_
  cases shown with
  | true => exact send_ends hbrowser _
  | false => exact .pure false

/-- A call that goes through a locator looks its element up first and goes on with that, unless it
is about all matches. -/
theorem work_element (hpause : ∃ x, (Value.ofNumber line.pause).toFloat = .ok x) {k : Call}
    (hk : k.Declared) {l : Locator} (hl : k.locator? = some l) (hcount : k ≠ .count l)
    (hwait : ∀ timeout visible, k ≠ .waitFor l timeout visible) :
    ∃ f : ElementRef → Work τ k.Reply, line.work k = line.element l >>= f ∧
      ∀ el, (f el).EndsWithin (line.Breaks none) (k.times ≠ []) := by
  cases k <;> cases hl
  case count => exact absurd rfl hcount
  case waitFor timeout visible => exact absurd rfl (hwait timeout visible)
  case click timeout =>
    refine ⟨_, rfl, fun el => ?_⟩
    dsimp only
    split
    · next htimeout =>
      have htimes : (Call.click l timeout).times = [timeout] := by simp [Call.times, htimeout]
      have hwaits : ((Call.click l timeout).times ≠ []) = True := by simp [htimes]
      rw [hwaits]
      refine .bind (waitUntil_ends hbrowser hpause (hk.times timeout (by simp [htimes]))
        (isClickable_ends hbrowser el) _ _) fun _ => send_ends hbrowser _
    · exact send_ends hbrowser _
  case fill text =>
    exact ⟨_, rfl, fun el => .bind (send_ends hbrowser _) fun _ => send_ends hbrowser _⟩
  case press key =>
    obtain ⟨name, rfl⟩ := hk.texts key (by simp [Call.texts])
    have hkeys : ∃ keys, keysFor (.str name) = .ok keys := by
      rw [keysFor]
      split <;> exact ⟨_, rfl⟩
    obtain ⟨keys, hkeys⟩ := hkeys
    refine ⟨fun el => line.send (.sendKeys el keys), ?_, fun el => send_ends hbrowser _⟩
    simp only [work, Line.press, hkeys]
    rfl
  case tagName => exact ⟨_, rfl, fun el => .bind (send_ends hbrowser _) fun _ => .pure _⟩
  case selectOption value =>
    refine ⟨_, rfl, fun el => .bind (send_ends hbrowser _) fun _ => ?_⟩
    refine .attempt_bind (send_arises hbrowser _) (fun _ => ?_) fun e he => ?_
    · exact send_ends hbrowser _
    · dsimp only
      split
      · exact .pure []
      · exact .raise (.arisen he)
  all_goals exact ⟨_, rfl, fun el => send_ends hbrowser _⟩

/-- Work that answers a call is broken off by an error of the browser or by an index that counts
back; only a wait can go on without an end. -/
theorem work_ends (hpause : ∃ x, (Value.ofNumber line.pause).toFloat = .ok x) {k : Call}
    (hk : k.Declared) (hlaunch : ∀ brand headless, k ≠ .launch brand headless) :
    (line.work k).EndsWithin (line.Breaks k.locator?) (k.times ≠ []) := by
  cases hl : k.locator? with
  | some l =>
    have hindexes : l.IsCounted := hk.indexes l hl
    by_cases hcount : k = .count l
    · subst hcount
      exact .bind (elements_ends hbrowser hindexes) fun _ => .pure _
    · by_cases hwait : ∃ timeout visible, k = .waitFor l timeout visible
      · obtain ⟨timeout, visible, rfl⟩ := hwait
        have hwaits : ((Call.waitFor l timeout visible).times ≠ []) = True := by simp [Call.times]
        rw [hwaits]
        exact waitUntil_ends hbrowser hpause (hk.times timeout (by simp [Call.times]))
          (present_ends hbrowser hindexes _) _ _
      · obtain ⟨f, hf, hends⟩ := work_element hbrowser hpause hk hl hcount
          fun timeout visible h => hwait ⟨timeout, visible, h⟩
        rw [hf]
        refine .bind (element_ends hbrowser hindexes) fun el => (hends el).mono fun e he => ?_
        cases he with
        | arisen h => exact .arisen h
        | counted hpath => cases hpath
  | none =>
    cases k <;> cases hl
    case launch.refl brand headless => exact absurd rfl (hlaunch brand headless)
    case frame.refl session selector =>
      obtain ⟨s, rfl⟩ := hk.texts selector (by simp [Call.texts])
      refine .bind (enterScope_ends hbrowser none) fun _ => ?_
      refine .bind (.pure s) fun selector => ?_
      exact .bind (send_ends hbrowser _) fun _ => .pure _
    case waitForLoad.refl session timeout =>
      have hwaits : ((Call.waitForLoad session timeout).times ≠ []) = True := by simp [Call.times]
      rw [hwaits]
      exact waitUntil_ends hbrowser hpause (hk.times timeout (by simp [Call.times]))
        (.bind (send_ends hbrowser _) fun _ => .pure _) _ _
    case evaluate.refl => exact .bind (enterScope_ends hbrowser _) fun _ => send_ends hbrowser _
    case title.refl => exact .bind (enterScope_ends hbrowser none) fun _ => send_ends hbrowser _
    all_goals exact send_ends hbrowser _

end Ends

/-! ### Indexes that count back too far -/

section Stumbling

variable (line)

/-- Following a path as far as all matches of its last part comes to an index that counts back past
the first match. -/
def StumblesOnWay : Locator → Rig (Station τ) → Prop
  | .root .., _ => False
  | .child parent _ _, rig =>
    StumblesOnWay parent rig ∨ ∃ found next, line.elements parent rig = (.done found, next) ∧
      PassesFirst (indexOf parent) found.length

/-- Following a path to its element comes to such an index. -/
def Stumbles (l : Locator) (rig : Rig (Station τ)) : Prop :=
  line.StumblesOnWay l rig ∨ ∃ found next, line.elements l rig = (.done found, next) ∧
    PassesFirst (indexOf l) found.length

variable {line}

theorem element_raises_iff_of_elements {l : Locator} (hl : l.IsCounted) {rig : Rig (Station τ)}
    (h : (line.elements l rig).1 = .raised .beforeFirst ↔ line.StumblesOnWay l rig) :
    (line.element l rig).1 = .raised .beforeFirst ↔ line.Stumbles l rig := by
  rw [element, Proc.bind_raises_iff, h, Stumbles]
  refine or_congr_right (exists_congr fun found => exists_congr fun next => and_congr_right' ?_)
  constructor
  · intro hpick
    rcases he : pick l (indexOf l) found with e | el <;> rw [he] at hpick <;> cases hpick
    rcases pick_error (fun i hi => hl i (Locator.mem_indexes hi)) he with he | ⟨-, hpast⟩
    · cases he
    · exact hpast
  · intro hpast
    rw [pick_of_passesFirst hpast]
    rfl

variable (hbrowser : line.browser.Responds)
include hbrowser

theorem not_raises_beforeFirst {α : Type} {p : Work τ α}
    (hp : p.EndsWithin (line.Breaks none) True) (rig : Rig (Station τ)) :
    (p rig).1 ≠ .raised .beforeFirst := by
  intro h
  have hends := hp rig
  rw [h] at hends
  cases hends with
  | arisen h =>
    obtain ⟨kind, hkind⟩ := h.cls hbrowser
    cases hkind
  | counted hpath => cases hpath

/-- Looking all matches of a path up raises the error of the list exactly if it stumbles on the
way. -/
theorem elements_raises_iff {l : Locator} (hl : l.IsCounted) (rig : Rig (Station τ)) :
    (line.elements l rig).1 = .raised .beforeFirst ↔ line.StumblesOnWay l rig := by
  induction l with
  | root scope selector index =>
    refine iff_of_false (not_raises_beforeFirst hbrowser ?_ rig) id
    exact .bind (enterScope_ends hbrowser scope) fun _ => send_ends hbrowser _
  | child parent selector index ih =>
    have hparent : parent.IsCounted := fun i hi => hl i (List.mem_append_left _ hi)
    have helements : line.elements (.child parent selector index) =
        line.element parent >>= fun base =>
          line.send (.findUnder base (Selector.lookupUnder selector).1
            (Selector.lookupUnder selector).2) := by
      rw [elements, element, bind_assoc]
    rw [helements, Proc.bind_raises_iff,
      element_raises_iff_of_elements hparent (ih hparent)]
    refine or_iff_left ?_
    rintro ⟨base, next, -, hsend⟩
    exact not_raises_beforeFirst hbrowser (send_ends hbrowser _) next hsend

theorem element_raises_iff {l : Locator} (hl : l.IsCounted) (rig : Rig (Station τ)) :
    (line.element l rig).1 = .raised .beforeFirst ↔ line.Stumbles l rig :=
  element_raises_iff_of_elements hl (elements_raises_iff hbrowser hl rig)

variable (hpause : ∃ x, (Value.ofNumber line.pause).toFloat = .ok x)

include hpause in
theorem look_raises_iff (deadline : Float) (ready : Work τ Bool) (ignored : List BrowserErrorClass)
    (message : String) (rig : Rig (Station τ)) :
    (line.look deadline ready ignored message () rig).1 = .raised .beforeFirst ↔
      (ready rig).1 = .raised .beforeFirst := by
  have hafter : ∀ seen next,
      (line.afterLook deadline message seen next).1 ≠ .raised .beforeFirst :=
    fun seen => not_raises_beforeFirst hbrowser
      (afterLook_ends hbrowser hpause deadline message seen)
  rw [look_eq]
  refine Proc.attempt_bind_raises_iff hafter fun cause next => ?_
  dsimp only
  split
  · next hpassing =>
    refine iff_of_false (hafter false next) ?_
    rintro rfl
    cases hpassing
  · simp [Proc.raise]

include hpause in
/-- A wait is broken off by the error of the list exactly if one of its looks is. -/
theorem waitUntil_raises_iff {timeout : Value} (htimeout : ∃ x, timeout.toFloat = .ok x)
    (ready : Work τ Bool) (message : String) (ignored : List BrowserErrorClass)
    (rig : Rig (Station τ)) :
    (line.waitUntil timeout ready message ignored rig).1 = .raised .beforeFirst ↔
      ∃ last, line.Looks timeout ready message ignored rig last ∧
        (ready last).1 = .raised .beforeFirst := by
  obtain ⟨length, hlength⟩ := htimeout
  have ⟨poll, hpoll⟩ := hpause
  have hwait : line.waitUntil timeout ready message ignored rig =
      Proc.rounds (line.look (rig.world.clock + length) ready ignored message)
        (line.looks length poll) () rig := by
    simp only [waitUntil, hlength, hpoll, Proc.ofExcept, pure_bind]
    rfl
  rw [hwait, Proc.rounds_raises_iff]
  simp only [look_raises_iff hbrowser hpause]
  constructor
  · rintro ⟨_, last, hbegins, hraised⟩
    exact ⟨last, ⟨length, poll, hlength, hpoll, hbegins⟩, hraised⟩
  · rintro ⟨last, ⟨length', poll', hlength', hpoll', hbegins⟩, hraised⟩
    cases hlength.symm.trans hlength'
    cases hpoll.symm.trans hpoll'
    exact ⟨(), last, hbegins, hraised⟩

/-- A look for matches takes a part of them by a slice, which has no error for a place. -/
theorem present_raises_iff {l : Locator} (hl : l.IsCounted) (visible : Bool)
    (rig : Rig (Station τ)) :
    (line.present l visible rig).1 = .raised .beforeFirst ↔ line.StumblesOnWay l rig := by
  rw [← elements_raises_iff hbrowser hl, present_eq]
  refine Proc.attempt_bind_raises_iff (fun found => ?_) fun cause next => ?_
  · exact not_raises_beforeFirst hbrowser (afterElements_ends hbrowser hl visible found)
  · dsimp only
    split
    · next hcls =>
      refine iff_of_false (by simp) ?_
      rintro rfl
      cases hcls
    · simp [Proc.raise]

variable (line) in
/-- How a call comes to such an index: on the way to all matches, at one of the looks of a wait, or
on the way to an element. -/
def StumblesAt (k : Call) (rig : Rig (Station τ)) : Prop :=
  match k with
  | .count l => line.StumblesOnWay l rig
  | .waitFor l timeout visible =>
    ∃ last, line.Looks timeout (line.present l visible.isTrue)
      ("'" ++ l.path ++ "' not present after " ++ timeout.text ++ "s") [.staleElement] rig last ∧
        line.StumblesOnWay l last
  | k => ∃ l ∈ k.locator?, line.Stumbles l rig

include hpause in
/-- A call is broken off by the error of the list exactly if it stumbles. -/
theorem work_raises_iff {k : Call} (hk : k.Declared)
    (hlaunch : ∀ brand headless, k ≠ .launch brand headless) (rig : Rig (Station τ)) :
    (line.work k rig).1 = .raised .beforeFirst ↔ line.StumblesAt k rig := by
  cases hl : k.locator? with
  | some l =>
    have hindexes : l.IsCounted := hk.indexes l hl
    by_cases hcount : k = .count l
    · subst hcount
      rw [work, Proc.bind_raises_iff, elements_raises_iff hbrowser hindexes]
      refine or_iff_left ?_
      rintro ⟨found, next, -, hdone⟩
      cases hdone
    by_cases hwaits : ∃ timeout visible, k = .waitFor l timeout visible
    · obtain ⟨timeout, visible, rfl⟩ := hwaits
      have htimeout : ∃ x, timeout.toFloat = .ok x := hk.times timeout (by simp [Call.times])
      rw [work, waitFor, waitUntil_raises_iff hbrowser hpause htimeout]
      simp only [present_raises_iff hbrowser hindexes]
      rfl
    · have hwait : ∀ timeout visible, k ≠ .waitFor l timeout visible :=
        fun timeout visible h => hwaits ⟨timeout, visible, h⟩
      obtain ⟨f, hf, hends⟩ := work_element hbrowser hpause hk hl hcount hwait
      have hstumbles : line.StumblesAt k rig ↔ line.Stumbles l rig := by
        cases k <;> cases hl
        case count.refl => exact absurd rfl hcount
        case waitFor.refl timeout visible => exact absurd rfl (hwait timeout visible)
        all_goals simp [StumblesAt, Call.locator?]
      rw [hf, Proc.bind_raises_iff, element_raises_iff hbrowser hindexes, hstumbles]
      refine or_iff_left ?_
      rintro ⟨el, next, -, hraised⟩
      exact not_raises_beforeFirst hbrowser ((hends el).hanging fun _ => trivial) next hraised
  | none =>
    have hends := work_ends hbrowser hpause hk hlaunch
    rw [hl] at hends
    refine iff_of_false (not_raises_beforeFirst hbrowser (hends.hanging fun _ => trivial) rig) ?_
    cases k <;> cases hl <;> simp [StumblesAt, Call.locator?]

end Stumbling

/-! ### What leaves -/

variable (line) in
/-- An error that is meant to leave a call: one of sessions leaves a launch, and of what comes up in
other work a timeout leaves as a timeout of the driver and the rest as a plain error of the
driver. -/
inductive Tells : Call → Raised → Prop
  | session {brand headless : Value} {e : Raised} (h : e.cls.isSession = true) :
    Tells (.launch brand headless) e
  | driver {k : Call} (hlaunch : ∀ brand headless, k ≠ .launch brand headless)
    {cause e : Raised} (hcause : line.Arises cause) (he : e = asDriverError cause)
    (hcls : e.cls = if cause.cls = .browser .timeout then .driverTimeout else .driver) : Tells k e

variable (line) in
/-- An error that leaves a call and is not meant to: the error of the list where an index counts
back past the first match, and an error of the browser at the limit for loading a page. -/
inductive Strays : Call → Rig (Station τ) → Raised → Prop
  | counted {k : Call} {rig : Rig (Station τ)} (h : line.StumblesAt k rig) :
    Strays k rig .beforeFirst
  | limited {brand headless : Value} {rig next : Rig (Station τ)} {e : Raised}
    (hstart : line.start brand headless.isTrue rig = (.done (), next))
    (hlimit : line.pageLoadTimeout.isTrue = true)
    (h : (line.send (.setPageLoadTimeout line.pageLoadTimeout) next).1 = .raised e) :
    Strays (.launch brand headless) rig e

section Leaving

variable (hbrowser : line.browser.Responds)
include hbrowser

/-- A stray is none of the errors that are meant to leave. -/
theorem Strays.cls {k : Call} {rig : Rig (Station τ)} {e : Raised} (h : line.Strays k rig e) :
    e.cls.isDriver = false ∧ e.cls.isSession = false := by
  cases h with
  | counted h => exact ⟨rfl, rfl⟩
  | @limited brand headless rig next e hstart hlimit h =>
    have hsend : (line.send (.setPageLoadTimeout line.pageLoadTimeout) next).1.Within
        line.Arises False := send_arises hbrowser _ next
    rw [h] at hsend
    obtain ⟨kind, hkind⟩ := Arises.cls hbrowser hsend
    simp [hkind, ErrorClass.isDriver, ErrorClass.isSession]

variable (hpause : ∃ x, (Value.ofNumber line.pause).toFloat = .ok x) {k : Call} (hk : k.Declared)
  (hlaunch : ∀ brand headless, k ≠ .launch brand headless) {rig : Rig (Station τ)}
include hpause hk hlaunch

theorem Strays.leaves {e : Raised} (h : line.Strays k rig e) :
    (guarded (line.work k) rig).1 = .raised e := by
  cases h with
  | counted h =>
    exact guarded_raises_iff.2
      ⟨.beforeFirst, (work_raises_iff hbrowser hpause hk hlaunch rig).2 h, rfl⟩
  | limited => exact absurd rfl (hlaunch _ _)

end Leaving

section Item

open Rehearsal (Faults RemotePage)

/-- A page with one item, which has faults. -/
def item (faults : Faults) : Rig (Station RemotePage) where
  world.browser.page.root := .node ⟨"page", "html", none, none, [], [], [], none⟩
    [.node ⟨"li", "li", none, none, [], [], [], none⟩ []]
  world.browser.page.conditions := [("li", { faults })]
  sent := []

end Item

end Line

end Remote

end BrowserFlow
