import BrowserFlow.Proofs.Hearing

/-!
# Exchanges with the driver

A driver answers a call from its world and leaves another world behind, so the calls in the log and
the world that they started from settle how each of them was answered. A call together with its
answer is an exchange. What a run exchanged with the driver is read off the machine: the exchanges
are those of the calls that were added to the log, answered one after the other.
-/
namespace BrowserFlow

variable {σ : Type}

/-- How an ending reaches whoever waited for it. -/
def Outcome.leaving {α : Type} : Outcome α → Outcome α
  | .done a => .done a
  | .raised e => .raised e.leaving
  | .endless => .endless

/-- A call and how it was answered. -/
structure Exchange where
  call : Call
  reply : Outcome call.Reply

namespace Driver

variable (d : Driver σ)

/-- How a call is answered, as it reaches whoever waits for the answer. -/
def reply (k : Call) (world : σ) : Outcome k.Reply := (d.answer k ⟨world, []⟩).1.leaving

def worldAfter (k : Call) (world : σ) : σ := (d.answer k ⟨world, []⟩).2.world

/-- Calls with their answers, when one call is put after the other. -/
def exchanges : List Call → σ → List Exchange
  | [], _ => []
  | k :: rest, world => ⟨k, d.reply k world⟩ :: exchanges rest (d.worldAfter k world)

def worldAfterAll (calls : List Call) (world : σ) : σ :=
  calls.foldl (fun world k => d.worldAfter k world) world

theorem exchanges_append (ks ls : List Call) (world : σ) :
    d.exchanges (ks ++ ls) world =
      d.exchanges ks world ++ d.exchanges ls (d.worldAfterAll ks world) := by
  induction ks generalizing world with
  | nil => rfl
  | cons k rest ih => exact congrArg (_ :: ·) (ih (d.worldAfter k world))

theorem worldAfterAll_append (ks ls : List Call) (world : σ) :
    d.worldAfterAll (ks ++ ls) world = d.worldAfterAll ls (d.worldAfterAll ks world) :=
  List.foldl_append

end Driver

theorem Action.awaited_ending {α : Type} (p : Action σ α) (around : Surroundings σ)
    (m : Machine σ) : (p.awaited around m).1 = (p around m).1.leaving := by
  rw [awaited_run]
  rcases p around m with ⟨a | e | _, n⟩ <;> rfl

theorem Action.call_reply (k : Call) (around : Surroundings σ) (m : Machine σ) :
    (Action.call k around m).1 = around.driver.reply k m.world :=
  awaited_ending _ around m

theorem Action.call_world (k : Call) (around : Surroundings σ) (m : Machine σ) :
    (Action.call k around m).2.world = around.driver.worldAfter k m.world := by
  rw [call_run]
  rfl

theorem Action.call_of_reply {k : Call} {r : Outcome k.Reply} {around : Surroundings σ}
    {m : Machine σ} (h : around.driver.reply k m.world = r) :
    Action.call k around m = (r, (Action.call k around m).2) :=
  Prod.ext ((call_reply k around m).trans h) rfl

/-- Between two machines the driver was called with what the log tells, and answered so. -/
structure Exchanged (around : Surroundings σ) (m : Machine σ) (xs : List Exchange)
    (n : Machine σ) : Prop where
  replay : ∃ es, n.log = m.log ++ es ∧
    xs = around.driver.exchanges (Event.calls es) m.world ∧
    n.world = around.driver.worldAfterAll (Event.calls es) m.world

namespace Exchanged

variable {around : Surroundings σ} {m n o : Machine σ} {xs ys : List Exchange}

/-- Events other than calls are no exchange. -/
theorem aside {es : List Event} (hlog : n.log = m.log ++ es) (hes : Event.calls es = [])
    (hworld : n.world = m.world) : Exchanged around m [] n :=
  ⟨es, hlog, by rw [hes]; rfl, by rw [hes]; exact hworld⟩

/-- What happens to neither the log nor the world is no exchange. -/
theorem still (hlog : n.log = m.log) (hworld : n.world = m.world) : Exchanged around m [] n :=
  aside (hlog.trans (List.append_nil _).symm) rfl hworld

theorem refl (around : Surroundings σ) (m : Machine σ) : Exchanged around m [] m := still rfl rfl

theorem trans (h : Exchanged around m xs n) (h' : Exchanged around n ys o) :
    Exchanged around m (xs ++ ys) o := by
  obtain ⟨es, hlog, rfl, hworld⟩ := h
  obtain ⟨fs, hlog', rfl, hworld'⟩ := h'
  refine ⟨es ++ fs, by rw [hlog', hlog, List.append_assoc], ?_, ?_⟩
  · rw [Event.calls_append, Driver.exchanges_append, hworld]
  · rw [Event.calls_append, Driver.worldAfterAll_append, ← hworld, hworld']

/-- What is no exchange may follow. -/
theorem onward (h : Exchanged around m xs n) (h' : Exchanged around n [] o) :
    Exchanged around m xs o := by
  have hboth := h.trans h'
  rwa [List.append_nil] at hboth

theorem call (around : Surroundings σ) (k : Call) (m : Machine σ) :
    Exchanged around m [⟨k, around.driver.reply k m.world⟩] (Action.call k around m).2 := by
  rw [Action.call_run]
  refine ⟨.call k :: _, rfl, ?_, ?_⟩
  · rw [Event.calls_call, Event.calls_sent]
    rfl
  · rw [Event.calls_call, Event.calls_sent]
    rfl

/-- A call that is seen to have ended in some way was answered so. -/
theorem of_call {k : Call} {r : Outcome k.Reply} (h : Action.call k around m = (r, n)) :
    Exchanged around m [⟨k, r⟩] n := by
  have hr : around.driver.reply k m.world = r := by rw [← Action.call_reply, h]
  have hn := call around k m
  rwa [hr, h] at hn

theorem emit (around : Surroundings σ) {e : Event} (he : ∀ k, e ≠ .call k) (m : Machine σ) :
    Exchanged around m [] { m with log := m.log ++ [e] } := by
  refine aside rfl ?_ rfl
  cases e with
  | call k => exact absurd rfl (he k)
  | _ => rfl

/-- A line for a sink is no exchange. -/
theorem given (around : Surroundings σ) (kind : LineKind) (text : String) (sink : Sink)
    (m : Machine σ) : Exchanged around m [] (sink.given kind text m) := by
  induction sink with
  | recorder => exact emit around (by simp) m
  | logger enabled =>
    simp only [Sink.given]
    split
    · exact emit around (by simp) m
    · exact refl around m
  | holder cell inner ih =>
    simp only [Sink.given]
    split
    · exact still rfl rfl
    · exact ih

/-- What was exchanged is settled by the two machines. -/
theorem unique (h : Exchanged around m xs n) (h' : Exchanged around m ys n) : xs = ys := by
  obtain ⟨es, hlog, rfl, -⟩ := h
  obtain ⟨fs, hlog', rfl, -⟩ := h'
  rw [List.append_cancel_left (hlog.symm.trans hlog')]

end Exchanged

/-- Between two machines the driver's world changed through calls alone. -/
def Conversed (around : Surroundings σ) (m n : Machine σ) : Prop :=
  ∃ xs, Exchanged around m xs n

namespace Conversed

variable {around : Surroundings σ} {m n o : Machine σ}

theorem refl (around : Surroundings σ) (m : Machine σ) : Conversed around m m :=
  ⟨[], .refl around m⟩

theorem trans (h : Conversed around m n) (h' : Conversed around n o) : Conversed around m o := by
  obtain ⟨xs, hxs⟩ := h
  obtain ⟨ys, hys⟩ := h'
  exact ⟨xs ++ ys, hxs.trans hys⟩

end Conversed

/-- The calls in a list of exchanges, put one after the other, are answered as the exchanges
tell. -/
def Driver.Answering (d : Driver σ) (world : σ) (xs : List Exchange) : Prop :=
  d.exchanges (xs.map Exchange.call) world = xs

theorem Driver.calls_exchanges (d : Driver σ) (calls : List Call) (world : σ) :
    (d.exchanges calls world).map Exchange.call = calls := by
  induction calls generalizing world with
  | nil => rfl
  | cons k rest ih => exact congrArg (k :: ·) (ih (d.worldAfter k world))

/-- What was exchanged is what the driver answers. -/
theorem Exchanged.answering {around : Surroundings σ} {m n : Machine σ} {xs : List Exchange}
    (h : Exchanged around m xs n) : around.driver.Answering m.world xs := by
  obtain ⟨es, -, rfl, -⟩ := h
  rw [Driver.Answering, Driver.calls_exchanges]

/-- The world that is left is that after the calls. -/
theorem Exchanged.world {around : Surroundings σ} {m n : Machine σ} {xs : List Exchange}
    (h : Exchanged around m xs n) :
    n.world = around.driver.worldAfterAll (xs.map Exchange.call) m.world := by
  obtain ⟨es, -, rfl, hworld⟩ := h
  rw [hworld, Driver.calls_exchanges]

namespace Driver.Answering

variable {around : Surroundings σ} {k : Call} {r : Outcome k.Reply} {xs : List Exchange}
  {m : Machine σ}

theorem head {d : Driver σ} {world : σ} (h : d.Answering world (⟨k, r⟩ :: xs)) :
    d.reply k world = r ∧ d.Answering (d.worldAfter k world) xs := by
  obtain ⟨hhead, htail⟩ := List.cons.inj h
  exact ⟨eq_of_heq (Exchange.mk.inj hhead).2, htail⟩

/-- The first of the calls, put to the driver, goes as it should, and the others can follow. -/
theorem call_run (h : around.driver.Answering m.world (⟨k, r⟩ :: xs)) :
    ∃ n, Action.call k around m = (r, n) ∧ around.driver.Answering n.world xs := by
  obtain ⟨hreply, hrest⟩ := h.head
  rw [← Action.call_world k around m] at hrest
  exact ⟨_, Action.call_of_reply hreply, hrest⟩

end Driver.Answering

end BrowserFlow
