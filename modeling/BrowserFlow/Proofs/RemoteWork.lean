import BrowserFlow.Remote.Driver

/-!
# Work on a remote browser, part by part

Equations for the parts that all work on a remote browser is made of: how a sequence ends, what one
look of a wait does and in which states a wait looks, and how guarded work ends.
-/
namespace BrowserFlow

namespace Proc

variable {s α β : Type}

theorem bind_raises_iff {p : Proc s α} {f : α → Proc s β} {st : s} {e : Raised} :
    ((p >>= f) st).1 = .raised e ↔
      (p st).1 = .raised e ∨ ∃ a next, p st = (.done a, next) ∧ (f a next).1 = .raised e := by
  rw [bind_apply]
  rcases p st with ⟨a | e' | _, next⟩ <;> simp [and_assoc]

theorem bind_eq_done_iff {p : Proc s α} {f : α → Proc s β} {st last : s} {b : β} :
    (p >>= f) st = (.done b, last) ↔
      ∃ a next, p st = (.done a, next) ∧ f a next = (.done b, last) := by
  rw [bind_apply]
  rcases p st with ⟨a | e | _, next⟩
  · constructor
    · exact fun h => ⟨a, next, rfl, h⟩
    · rintro ⟨_, _, h, hf⟩
      cases h
      exact hf
  · simp
  · simp

/-- What follows counts only after what came before it had a result. -/
theorem bind_congr_of_done {p p' : Proc s α} {f f' : α → Proc s β} (hp : p = p')
    (hf : ∀ a st next, p' st = (.done a, next) → f a next = f' a next) :
    p >>= f = p' >>= f' := by
  subst hp
  funext st
  rw [bind_apply, bind_apply]
  rcases h : p st with ⟨a | e | _, next⟩
  · exact hf a st next h
  · rfl
  · rfl

/-- Work that goes on after an error, but not after this one, is broken off by it as it was. -/
theorem attempt_bind_raises_iff {p : Proc s α} {f : Except Raised α → Proc s β} {st : s}
    {e : Raised} (hok : ∀ a next, (f (.ok a) next).1 ≠ .raised e)
    (herror : ∀ cause next, (f (.error cause) next).1 = .raised e ↔ cause = e) :
    ((p.attempt >>= f) st).1 = .raised e ↔ (p st).1 = .raised e := by
  rw [bind_apply, attempt]
  rcases p st with ⟨a | cause | _, next⟩
  · simpa using hok a next
  · simpa using herror cause next
  · simp

/-- The states in which one of so many rounds begins, and what it goes on with. -/
inductive Begins (round : α → Proc s (α ⊕ β)) : Nat → α → s → α → s → Prop
  | first (n : Nat) (a : α) (st : s) : Begins round (n + 1) a st a st
  | later {n : Nat} {a a' b : α} {st next last : s}
    (hround : round a st = (.done (.inl a'), next)) (h : Begins round n a' next b last) :
    Begins round (n + 1) a st b last

theorem rounds_raises_iff {round : α → Proc s (α ⊕ β)} {n : Nat} {a : α} {st : s}
    {e : Raised} :
    (rounds round n a st).1 = .raised e ↔
      ∃ b last, Begins round n a st b last ∧ (round b last).1 = .raised e := by
  induction n generalizing a st with
  | zero =>
    refine iff_of_false (by simp [rounds, giveUp]) ?_
    rintro ⟨b, last, h, -⟩
    cases h
  | succ n ih =>
    rw [rounds, bind_raises_iff]
    constructor
    · rintro (hraised | ⟨c | b, next, hround, hnext⟩)
      · exact ⟨a, st, .first n a st, hraised⟩
      · obtain ⟨b, last, hbegins, hraised⟩ := ih.1 hnext
        exact ⟨b, last, .later hround hbegins, hraised⟩
      · cases hnext
    · rintro ⟨b, last, hbegins, hraised⟩
      cases hbegins with
      | first => exact .inl hraised
      | later hround hbegins => exact .inr ⟨_, _, hround, ih.2 ⟨b, last, hbegins, hraised⟩⟩

end Proc

namespace Remote.Line

variable {τ α : Type} (line : Line τ)

/-- What a look of a wait makes of what it saw. -/
def afterLook (deadline : Float) (message : String) (seen : Bool) : Work τ (Unit ⊕ Unit) := do
  if seen then return .inr ()
  else if (← Proc.read).world.clock > deadline then Proc.raise (.browser .timeout message)
  else
    line.sleep
    return .inl ()

theorem look_eq (deadline : Float) (ready : Work τ Bool) (ignored : List BrowserErrorClass)
    (message : String) :
    line.look deadline ready ignored message () = ready.attempt >>= fun
      | .ok seen => line.afterLook deadline message seen
      | .error e =>
        if isPassing ignored e then line.afterLook deadline message false else Proc.raise e := rfl

/-- What a look for matches makes of those that were found. -/
def afterElements (l : Locator) (visible : Bool) (found : List ElementRef) : Work τ Bool := do
  let found ← match indexOf l with
    | some i => Proc.ofExcept (slice i found)
    | none => pure found
  if visible then line.anyDisplayed found else return !found.isEmpty

theorem present_eq (l : Locator) (visible : Bool) :
    line.present l visible = (line.elements l).attempt >>= fun
      | .ok found => line.afterElements l visible found
      | .error e => if e.cls = .browser .noSuchElement then return false else Proc.raise e := by
  refine bind_congr fun found => ?_
  cases found <;> rfl

/-- A wait that starts in one state takes a look in the other. -/
def Looks (timeout : Value) (ready : Work τ Bool) (message : String)
    (ignored : List BrowserErrorClass) (rig last : Rig (Station τ)) : Prop :=
  ∃ length poll, timeout.toFloat = .ok length ∧
    (Value.ofNumber line.pause).toFloat = .ok poll ∧
    Proc.Begins (line.look (rig.world.clock + length) ready ignored message)
      (line.looks length poll) () rig () last

variable {line}

theorem perform_of_send {c : Command} {rig next : Rig (Station τ)} {o : Outcome c.Reply}
    (h : line.send c rig = (o, next)) :
    line.browser.perform c rig.world.browser = (o, next.world.browser) := by
  rw [send] at h
  cases h
  rfl

theorem guarded_raises_iff {p : Work τ α} {rig : Rig (Station τ)} {e : Raised} :
    (guarded p rig).1 = .raised e ↔
      ∃ cause, (p rig).1 = .raised cause ∧ e = asDriverError cause := by
  rw [guarded, Proc.bind_apply, Proc.attempt]
  rcases p rig with ⟨a | e' | _, next⟩
  · simp
  · simp [Proc.raise, eq_comm]
  · simp

/-- A launch has its own way to tell what went wrong. -/
theorem answer_eq_guarded {k : Call} (hlaunch : ∀ brand headless, k ≠ .launch brand headless) :
    line.answer k = guarded (line.work k) := by
  cases k
  case launch brand headless => exact absurd rfl (hlaunch brand headless)
  all_goals rfl

end Remote.Line

end BrowserFlow
