import BrowserFlow.Step

/-!
# Running actions

What the parts of an action do to a machine, as equations on the ending and the machine that they
leave. The endings of a sequence are those of its parts: an error or an endless loop in the first
part is that of the whole.
-/
namespace BrowserFlow

namespace Action

variable {σ α β : Type} (around : Surroundings σ) (m : Machine σ)

@[simp] theorem pure_run (a : α) : (pure a : Action σ α) around m = (.done a, m) := rfl

theorem bind_run (p : Action σ α) (f : α → Action σ β) :
    (p >>= f) around m = match p around m with
      | (.done a, n) => f a around n
      | (.raised e, n) => (.raised e, n)
      | (.endless, n) => (.endless, n) := by
  change (p around >>= fun a => f a around) m = _
  rw [Proc.bind_apply]
  rcases p around m with ⟨_ | _ | _, n⟩ <;> rfl

variable {around m} in
theorem bind_done {p : Action σ α} {a : α} {n : Machine σ} (h : p around m = (.done a, n))
    (f : α → Action σ β) : (p >>= f) around m = f a around n := by
  rw [bind_run, h]

variable {around m} in
theorem bind_raised {p : Action σ α} {e : Raised} {n : Machine σ}
    (h : p around m = (.raised e, n)) (f : α → Action σ β) :
    (p >>= f) around m = (.raised e, n) := by
  rw [bind_run, h]

variable {around m} in
theorem bind_endless {p : Action σ α} {n : Machine σ} (h : p around m = (.endless, n))
    (f : α → Action σ β) : (p >>= f) around m = (.endless, n) := by
  rw [bind_run, h]

/-- A sequence has a result only through results of both of its parts. -/
theorem bind_eq_done {p : Action σ α} {f : α → Action σ β} {b : β} {m' : Machine σ} :
    (p >>= f) around m = (.done b, m') ↔
      ∃ a n, p around m = (.done a, n) ∧ f a around n = (.done b, m') := by
  rw [bind_run]
  constructor
  · intro h
    rcases hp : p around m with ⟨a | e | _, n⟩
    · rw [hp] at h
      exact ⟨a, n, rfl, h⟩
    · rw [hp] at h; cases h
    · rw [hp] at h; cases h
  · rintro ⟨a, n, hp, hf⟩
    rw [hp]
    exact hf

@[simp] theorem raise_run (e : Raised) : (raise e : Action σ α) around m = (.raised e, m) := rfl

@[simp] theorem ofExcept_ok (a : α) :
    (ofExcept (.ok a) : Action σ α) around m = (.done a, m) := rfl

@[simp] theorem ofExcept_error (e : Raised) :
    (ofExcept (.error e) : Action σ α) around m = (.raised e, m) := rfl

variable {around m} in
theorem ofExcept_eq_done {x : Except Raised α} {a : α} {n : Machine σ} :
    (ofExcept x : Action σ α) around m = (.done a, n) ↔ x = .ok a ∧ n = m := by
  cases x <;> simp [eq_comm]

theorem ofExcept_bind (x : Except Raised α) (f : α → Except Raised β) :
    (ofExcept (x >>= f) : Action σ β) = ofExcept x >>= fun a => ofExcept (f a) := by
  cases x <;> rfl

@[simp] theorem machine_run : (machine : Action σ (Machine σ)) around m = (.done m, m) := rfl

@[simp] theorem change_run (f : Machine σ → Machine σ) :
    change f around m = (.done (), f m) := rfl

@[simp] theorem emit_run (e : Event) :
    emit e around m = (.done (), { m with log := m.log ++ [e] }) := rfl

@[simp] theorem record_run (level : LogLevel) (logger message : String) (extra : Option Value) :
    record level logger message extra around m =
      (.done (),
        { m with log := m.log ++ [.log ⟨level, logger, message, m.tag, extra⟩] }) := rfl

@[simp] theorem newReference_run :
    (newReference : Action σ Nat) around m =
      (.done m.fresh, { m with fresh := m.fresh + 1 }) := rfl

theorem settings_run :
    (settings : Action σ Settings) around m = ofExcept around.settings around m := rfl

/-- The time to wait is the one given or that of the settings, and settling it leaves the machine
alone. -/
theorem timeout_run (given : Value) (fallback : Settings → Float) :
    (timeout given fallback : Action σ Value) around m =
      ofExcept (if given.isNone then around.settings.map fun s => .float (fallback s)
        else .ok given) around m := by
  rw [timeout]
  split
  · rw [bind_run, settings_run]
    cases around.settings <;> rfl
  · rfl

@[simp] theorem cancellation_run (token : Token) :
    (cancellation token : Action σ (Option Value)) around m =
      (.done (m.cancelled.lookup token), m) := rfl

theorem attempt_run (p : Action σ α) :
    p.attempt around m = match p around m with
      | (.done a, n) => (.done (.ok a), n)
      | (.raised e, n) => (.done (.error e), n)
      | (.endless, n) => (.endless, n) := by
  change (p around).attempt m = _
  rw [Proc.attempt]
  rcases p around m with ⟨_ | _ | _, n⟩ <;> rfl

/-- Only an ordinary error is handed back. -/
theorem rescue_run (p : Action σ α) :
    p.rescue around m = match p around m with
      | (.done a, n) => (.done (.ok a), n)
      | (.raised e, n) => if e.isOrdinary then (.done (.error e), n) else (.raised e, n)
      | (.endless, n) => (.endless, n) := by
  rcases h : p around m with ⟨a | e | _, n⟩
  · simp only [rescue, Proc.bind_apply, Proc.attempt, show p around m = _ from h]; rfl
  · simp only [rescue, Proc.bind_apply, Proc.attempt, show p around m = _ from h]
    split <;> rfl
  · simp only [rescue, Proc.bind_apply, Proc.attempt, show p around m = _ from h]

/-- Waiting for a routine changes how it ends and nothing else. -/
theorem awaited_run (p : Action σ α) :
    p.awaited around m = match p around m with
      | (.done a, n) => (.done a, n)
      | (.raised e, n) => (.raised e.leaving, n)
      | (.endless, n) => (.endless, n) := by
  rw [awaited, bind_run, attempt_run]
  rcases p around m with ⟨a | e | _, n⟩ <;> rfl

variable {around m} in
theorem awaited_done {p : Action σ α} {a : α} {n : Machine σ} :
    p.awaited around m = (.done a, n) ↔ p around m = (.done a, n) := by
  rw [awaited_run]
  rcases p around m with ⟨a' | e | _, n'⟩ <;> simp

theorem awaited_machine (p : Action σ α) : (p.awaited around m).2 = (p around m).2 := by
  rw [awaited_run]
  rcases p around m with ⟨a | e | _, n⟩ <;> rfl

variable {around m} in
theorem awaited_raised {p : Action σ α} {e : Raised} (h : (p.awaited around m).1 = .raised e) :
    ∃ e', (p around m).1 = .raised e' ∧ e = e'.leaving := by
  rw [awaited_run] at h
  rcases hp : p around m with ⟨a | e' | _, n⟩ <;> rw [hp] at h
  · cases h
  · cases h; exact ⟨e', rfl, rfl⟩
  · cases h

theorem rounds_succ (k : Nat) (round : α → Action σ (α ⊕ β)) (a : α) :
    rounds (k + 1) round a around m = match round a around m with
      | (.done (.inl b), n) => rounds k round b around n
      | (.done (.inr r), n) => (.done r, n)
      | (.raised e, n) => (.raised e, n)
      | (.endless, n) => (.endless, n) := by
  rw [rounds, Proc.rounds, Proc.bind_apply]
  rcases round a around m with ⟨⟨_ | _⟩ | _ | _, n⟩ <;> rfl

/-- A call leaves an event of its own and those of what the driver sent, whatever comes of it. -/
theorem call_run (c : Call) :
    (call c around m).2 =
      let rig := (around.driver.answer c ⟨m.world, []⟩).2
      { m with world := rig.world, log := m.log ++ .call c :: rig.sent.map (eventOf m.tag) } := by
  exact awaited_machine around m _

end Action

namespace Sink

/-- The machine after a line was given to a sink. -/
def given {σ : Type} (kind : LineKind) (line : String) : Sink → Machine σ → Machine σ
  | recorder, m => { m with log := m.log ++ [.line kind line] }
  | logger enabled, m =>
    if writes enabled kind then
      { m with log := m.log ++ [.log ⟨(mark kind).1, loggerName, line, m.tag,
        some (markData (mark kind).2)⟩] }
    else m
  | holder cell inner, m =>
    if kind = .error then
      { m with held := fun c => if c = cell then m.held c ++ [line] else m.held c }
    else inner.given kind line m

theorem write_run {σ : Type} (kind : LineKind) (line : String) (sink : Sink)
    (around : Surroundings σ)
    (m : Machine σ) : sink.write kind line around m = (.done (), sink.given kind line m) := by
  induction sink with
  | recorder => rfl
  | logger enabled =>
    simp only [write, given]
    split <;> rfl
  | holder cell inner ih =>
    simp only [write, given]
    split
    · rfl
    · exact ih

/-- A line changes no more than the log and the cells of failure lines. -/
theorem given_frame {σ : Type} (kind : LineKind) (line : String) (sink : Sink) (m : Machine σ) :
    ∃ log held, sink.given kind line m = { m with log, held } := by
  induction sink with
  | recorder => exact ⟨_, m.held, rfl⟩
  | logger enabled =>
    simp only [given]
    split
    · exact ⟨_, m.held, rfl⟩
    · exact ⟨m.log, m.held, rfl⟩
  | holder cell inner ih =>
    simp only [given]
    split
    · exact ⟨m.log, _, rfl⟩
    · exact ih

section

variable {σ : Type} (kind : LineKind) (line : String) (sink : Sink) (m : Machine σ)

@[simp] theorem given_stores : (sink.given kind line m).stores = m.stores := by
  obtain ⟨log, held, h⟩ := given_frame kind line sink m
  rw [h]

@[simp] theorem given_world : (sink.given kind line m).world = m.world := by
  obtain ⟨log, held, h⟩ := given_frame kind line sink m
  rw [h]

@[simp] theorem given_active : (sink.given kind line m).active = m.active := by
  obtain ⟨log, held, h⟩ := given_frame kind line sink m
  rw [h]

@[simp] theorem given_cancelled : (sink.given kind line m).cancelled = m.cancelled := by
  obtain ⟨log, held, h⟩ := given_frame kind line sink m
  rw [h]

end

end Sink

/-- A driver that is out of order: it answers every call with an error. -/
def Driver.broken : Driver Unit := ⟨fun _ => Proc.raise (.driver "down"), "Driver", "Locator"⟩

end BrowserFlow
