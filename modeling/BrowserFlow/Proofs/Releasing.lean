import BrowserFlow.Proofs.Opening

/-!
# Browsers that are closed again

A browser that was launched is to be closed once. When a session is started and an error is raised,
the browser has been closed if it ran, unless it was abandoned: the first page was not opened for a
reason that is no ordinary error, or the page was opened and then there were no settings to choose a
sink by. A body that is run on a session has the browser closed after it, once, whichever way it
ends. Nothing is closed that was not launched.
-/
namespace BrowserFlow

/-- The session that was launched in an exchange, if one was. -/
def Exchange.launched? : Exchange → Option Session
  | ⟨.launch .., .done s⟩ => some s
  | _ => none

/-- The session that was asked to be closed in an exchange, whatever came of it. -/
def Exchange.closed? : Exchange → Option Session
  | ⟨.close s, _⟩ => some s
  | _ => none

namespace Session

variable {σ α : Type}

def launched (xs : List Exchange) : List Session := xs.filterMap (·.launched?)

def closed (xs : List Exchange) : List Session := xs.filterMap (·.closed?)

/-- A session was launched and starting it went wrong after that without the browser being
closed. -/
inductive Abandons (settings : Except Raised Settings) (sink : Option Sink) : List Exchange → Prop
  | interrupted {x : Exchange} {s : Session} {url : Value} {e : Raised}
    (he : e.isOrdinary = false) : Abandons settings sink [x, ⟨.goto s url, .raised e⟩]
  | unset {x : Exchange} {s : Session} {url : Value} {e : Raised} (hsink : sink = none)
    (h : settings = .error e) : Abandons settings sink [x, ⟨.goto s url, .done ()⟩]

section Opening

variable {settings : Except Raised Settings} {brand url headless : Value} {sink : Option Sink}
  {tag tag' : Option String} {xs : List Exchange}

/-- Where an error is raised, what was launched was closed again unless it was abandoned. -/
theorem Opening.closed_of_raised {e : Raised}
    (h : Opening settings brand url headless sink tag xs (.raised e) tag') :
    closed xs <+: launched xs ∧ (closed xs = launched xs ↔ ¬ Abandons settings sink xs) := by
  cases h with
  | refused => exact ⟨List.prefix_refl _, iff_of_true rfl fun h => by cases h⟩
  | unlaunched => exact ⟨List.prefix_refl _, iff_of_true rfl fun h => by cases h⟩
  | @interrupted b shown address s e he =>
    exact ⟨List.nil_prefix, iff_of_false (by simp [closed, launched, Exchange.closed?,
      Exchange.launched?]) (not_not_intro (.interrupted he))⟩
  | unopened => exact ⟨List.prefix_refl _, iff_of_true rfl fun h => by cases h⟩
  | unset hsink h =>
    exact ⟨List.nil_prefix, iff_of_false (by simp [closed, launched, Exchange.closed?,
      Exchange.launched?]) (not_not_intro (.unset hsink h))⟩

/-- Where a context is handed out, its session was launched and nothing was closed. -/
theorem Opening.launched_of_done {c : Context}
    (h : Opening settings brand url headless sink tag xs (.done c) tag') :
    launched xs = [c.session] ∧ closed xs = [] := by
  cases h with
  | opened => exact ⟨rfl, rfl⟩

end Opening

variable {brand url headless : Value} {sink : Option Sink} {body : Context → Action σ α}
  {around : Surroundings σ} {m n k : Machine σ}

/-- After a body that has ended, a session is closed. -/
theorem within_closed {c : Context}
    (hcreate : create brand url headless sink around m = (.done c, n))
    {r : Outcome α} (hbody : body c around n = (r, k)) (hr : r ≠ .endless) :
    ∃ reply, Exchanged around k [⟨.close c.session, reply⟩]
      (within brand url headless sink body around m).2 := by
  have hattempt : ∃ x, (body c).attempt around n = (.done x, k) := by
    rw [Action.attempt_run, hbody]
    cases r with
    | endless => exact absurd rfl hr
    | _ => exact ⟨_, rfl⟩
  obtain ⟨x, hx⟩ := hattempt
  obtain ⟨reply, hclosed, -⟩ := close_exchanged c around k
  refine ⟨reply, ?_⟩
  rw [within, Action.bind_done hcreate, Action.bind_done hx, Action.bind_run]
  rcases hclose : close c around k with ⟨_ | e | _, o⟩ <;> rw [hclose] at hclosed
  · cases x <;> exact hclosed
  · exact hclosed
  · exact hclosed

/-- When a body is run on a session of its own, the session is launched once and closed once after
the body, whichever way the body ends; where no context was handed out, what was launched is closed
unless it was abandoned. -/
theorem within_closes (brand url headless : Value) (sink : Option Sink)
    (body : Context → Action σ α) (around : Surroundings σ) (m : Machine σ) :
    ∃ xs, Exchanged around m xs (create brand url headless sink around m).2 ∧
      match create brand url headless sink around m with
      | (.done c, n) => launched xs = [c.session] ∧ closed xs = [] ∧
        match body c around n with
        | (.endless, k) => within brand url headless sink body around m = (.endless, k)
        | (_, k) => ∃ reply, Exchanged around k [⟨.close c.session, reply⟩]
            (within brand url headless sink body around m).2
      | (.raised e, n) => within brand url headless sink body around m = (.raised e, n) ∧
        closed xs <+: launched xs ∧
        (closed xs = launched xs ↔ ¬ Abandons around.settings sink xs)
      | (.endless, n) => within brand url headless sink body around m = (.endless, n) := by
  obtain ⟨xs, hxs, hopening⟩ := create_opens brand url headless sink around m
  refine ⟨xs, hxs, ?_⟩
  rcases hcreate : create brand url headless sink around m with ⟨c | e | _, n⟩ <;>
    rw [hcreate] at hopening
  · obtain ⟨hlaunched, hclosed⟩ := hopening.launched_of_done
    refine ⟨hlaunched, hclosed, ?_⟩
    rcases hbody : body c around n with ⟨a | e | _, k⟩
    · exact within_closed hcreate hbody (by simp)
    · exact within_closed hcreate hbody (by simp)
    · have hattempt : (body c).attempt around n = (.endless, k) := by
        rw [Action.attempt_run, hbody]
      show within brand url headless sink body around m = (.endless, k)
      rw [within, Action.bind_done hcreate, Action.bind_endless hattempt]
  · exact ⟨Action.bind_raised hcreate _, hopening.closed_of_raised⟩
  · exact Action.bind_endless hcreate _

/-- The settings are loaded only when the page is open, and nobody closes the browser if that
fails. -/
theorem within_leaves_browser :
    let trouble : Raised := .validation ["find_timeout: greater_than"]
    let around : Surroundings Unit := ⟨.staged (.done ()) (.done ()), .error trouble, 0⟩
    let session : Session := ⟨"chromium", "s"⟩
    let run := within (.str "chromium") (.str "http://h/") (.bool true) none
      (fun _ => (pure () : Action Unit Unit)) around (Machine.start ())
    run.1 = .raised trouble ∧
      Event.calls run.2.log =
        [.launch (.str "chromium") (.bool true), .goto session (.str "http://h/")] ∧
      around.driver.reply (.launch (.str "chromium") (.bool true)) () = .done session :=
  ⟨rfl, rfl, rfl⟩

end Session

end BrowserFlow
