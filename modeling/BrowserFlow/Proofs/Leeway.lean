import BrowserFlow.Proofs.Execution

/-!
# Leeway

What an action may do, given as how the machine may move and which errors may be raised. A leeway
covers the library when it leaves room for everything the library does on its own account other than
recording a failure: calling the driver, announcing steps, writing records, keeping items. What is
put together from actions that keep to a covering leeway keeps to it as well.
-/
namespace BrowserFlow

structure Leeway (σ : Type) where
  moves : Machine σ → Machine σ → Prop
  errors : Raised → Prop

/-- Every run in these surroundings moves the machine and ends within the leeway. -/
def Action.Keeps {σ α : Type} (around : Surroundings σ) (L : Leeway σ)
    (p : Action σ α) : Prop :=
  ∀ m, L.moves m (p around m).2 ∧ ∀ e, (p around m).1 = .raised e → L.errors e

/-- Whatever a run in these surroundings gives back has a property. -/
def Action.Gives {σ α : Type} (around : Surroundings σ) (P : α → Prop)
    (p : Action σ α) : Prop :=
  ∀ {m a n}, p around m = (.done a, n) → P a

/-- A callback keeps to a leeway whenever it is invoked. -/
def Callback.Keeps {σ α β : Type} (around : Surroundings σ) (L : Leeway σ)
    (f : Callback σ α β) : Prop :=
  ∀ earlier a, (f.body earlier a).Keeps around L

/-- Whatever a callback gives back has a property. -/
def Callback.Gives {σ α β : Type} (around : Surroundings σ) (P : β → Prop)
    (f : Callback σ α β) : Prop :=
  ∀ earlier a, (f.body earlier a).Gives around P

/-- The leeway has room for what the library does on its own account, apart from keeping items: it
may put certain calls to the driver, or all of them. -/
structure Leeway.Covers {σ : Type} (L : Leeway σ) (around : Surroundings σ)
    (asks : Call → Prop := fun _ => True) : Prop where
  refl : ∀ m, L.moves m m
  trans : ∀ {m n o}, L.moves m n → L.moves n o → L.moves m o
  emit : ∀ {e : Event}, e.isAside = true → ∀ m, L.moves m { m with log := m.log ++ [e] }
  fresh : ∀ m, L.moves m { m with fresh := m.fresh + 1 }
  call : ∀ c : Call, asks c → (Action.call c).Keeps around L
  own : ∀ {e : Raised}, e.Recordable → L.errors e
  leaving : ∀ {e : Raised}, L.errors e → L.errors e.leaving
  settings : ∀ {e : Raised}, around.settings = .error e → L.errors e

/-- The leeway has room for keeping items as well, and for changing the active token. -/
structure Leeway.Spans {σ : Type} (L : Leeway σ) (around : Surroundings σ) : Prop
    extends L.Covers around where
  stores : ∀ m stores, L.moves m { m with stores }
  active : ∀ m active, L.moves m { m with active }

/-- The leeway has room for the recording of failures as well. -/
structure Leeway.Tolerates {σ : Type} (L : Leeway σ) (around : Surroundings σ)
    (asks : Call → Prop := fun _ => True) : Prop extends L.Covers around asks where
  failing : ∀ (sink : Sink) text m, L.moves m (sink.given .error text m)

namespace Leeway.Covers

variable {σ : Type} {L : Leeway σ} {around : Surroundings σ} {asks : Call → Prop}

/-- Any line but that of a failure can be given to a sink. -/
theorem given (hL : L.Covers around asks) {kind : LineKind} (h : kind ≠ .error) (text : String)
    (sink : Sink) (m : Machine σ) : L.moves m (sink.given kind text m) := by
  induction sink with
  | recorder => exact hL.emit (by simpa using h) m
  | logger enabled =>
    simp only [Sink.given]
    split
    · refine hL.emit (Event.aside_of_level ?_) m
      cases kind with
      | error => exact absurd rfl h
      | _ => simp [Sink.mark]
    · exact hL.refl m
  | holder cell inner ih => simpa only [Sink.given, if_neg h] using ih

/-- Notes for debugging can be left. -/
theorem noting (hL : L.Covers around asks) {m n : Machine σ} (h : Noted m n) : L.moves m n := by
  obtain ⟨notes, hnotes, rfl⟩ := h
  induction notes generalizing m with
  | nil => simpa using hL.refl m
  | cons e es ih =>
    rw [List.forall_mem_cons] at hnotes
    have hhead := hL.emit (Event.aside_of_note hnotes.1) m
    simpa using hL.trans hhead (ih hnotes.2)

theorem noted (hL : L.Covers around asks) (s : Step σ) (e : Raised) (m : Machine σ) :
    L.moves m (s.noted m e) :=
  hL.emit (Event.aside_of_level (by simp)) m

end Leeway.Covers

namespace Action.Keeps

variable {σ α β : Type} {L : Leeway σ} {around : Surroundings σ} {asks : Call → Prop}

theorem moved {p : Action σ α} (h : p.Keeps around L) {m : Machine σ}
    {r : Outcome α × Machine σ} (hrun : p around m = r) : L.moves m r.2 :=
  hrun ▸ (h m).1

theorem pure (hL : L.Covers around asks) (a : α) : (Pure.pure a : Action σ α).Keeps around L :=
  fun m => ⟨hL.refl m, fun e h => by cases h⟩

theorem bind_gives (hL : L.Covers around asks) {P : α → Prop} {p : Action σ α}
    {f : α → Action σ β} (hp : p.Keeps around L) (hgives : p.Gives around P)
    (hf : ∀ a, P a → (f a).Keeps around L) : (p >>= f).Keeps around L := by
  intro m
  obtain ⟨hmoves, herrors⟩ := hp m
  rw [bind_run]
  rcases h : p around m with ⟨a | e | _, n⟩
  · rw [h] at hmoves
    have ha := hf a (hgives h) n
    exact ⟨hL.trans hmoves ha.1, ha.2⟩
  · rw [h] at hmoves herrors
    exact ⟨hmoves, fun e' he => by cases he; exact herrors e rfl⟩
  · rw [h] at hmoves
    exact ⟨hmoves, fun e' he => by cases he⟩

theorem bind (hL : L.Covers around asks) {p : Action σ α} {f : α → Action σ β}
    (hp : p.Keeps around L) (hf : ∀ a, (f a).Keeps around L) : (p >>= f).Keeps around L :=
  bind_gives hL (P := fun _ => True) hp (fun _ => trivial) fun a _ => hf a

theorem raise (hL : L.Covers around asks) {e : Raised} (he : L.errors e) :
    (Action.raise e : Action σ α).Keeps around L :=
  fun m => ⟨hL.refl m, fun e' h => by cases h; exact he⟩

theorem ofExcept (hL : L.Covers around asks) {x : Except Raised α}
    (hx : ∀ e, x = .error e → L.errors e) : (Action.ofExcept x).Keeps around L := by
  cases x with
  | ok a => exact pure hL a
  | error e => exact raise hL (hx e rfl)

theorem machine (hL : L.Covers around asks) :
    (Action.machine : Action σ (Machine σ)).Keeps around L :=
  fun m => ⟨hL.refl m, fun e h => by cases h⟩

theorem emit (hL : L.Covers around asks) {e : Event} (he : e.isAside = true) :
    (Action.emit e : Action σ Unit).Keeps around L :=
  fun m => ⟨hL.emit he m, fun e h => by cases h⟩

/-- A record under any name but that of the trace. -/
theorem record (hL : L.Covers around asks) {logger : String} (h : logger ≠ Sink.loggerName)
    (level : LogLevel) (message : String) (extra : Option Value) :
    (Action.record level logger message extra : Action σ Unit).Keeps around L :=
  fun m => ⟨hL.emit (Event.aside_of_logger h) m, fun e he => by cases he⟩

theorem write (hL : L.Covers around asks) {kind : LineKind} (h : kind ≠ .error) (text : String)
    (sink : Sink) : (sink.write kind text : Action σ Unit).Keeps around L := by
  intro m
  rw [Sink.write_run]
  exact ⟨hL.given h text sink m, fun e he => by cases he⟩

theorem newReference (hL : L.Covers around asks) :
    (Action.newReference : Action σ Nat).Keeps around L :=
  fun m => ⟨hL.fresh m, fun e h => by cases h⟩

theorem items (hL : L.Covers around asks) (store : Nat) :
    (Action.items store : Action σ ItemStore).Keeps around L :=
  fun m => ⟨hL.refl m, fun e h => by cases h⟩

theorem settings (hL : L.Covers around asks) :
    (Action.settings : Action σ Settings).Keeps around L :=
  show (Action.ofExcept around.settings).Keeps around L from ofExcept hL fun _ he => hL.settings he

theorem patience (hL : L.Covers around asks) : (Action.patience : Action σ Nat).Keeps around L :=
  fun m => ⟨hL.refl m, fun e h => by cases h⟩

theorem rescue {p : Action σ α} (hp : p.Keeps around L) : p.rescue.Keeps around L := by
  intro m
  obtain ⟨hmoves, herrors⟩ := hp m
  rw [rescue_run]
  rcases h : p around m with ⟨a | e | _, n⟩ <;> rw [h] at hmoves herrors
  · exact ⟨hmoves, fun e' he => by cases he⟩
  · by_cases ho : e.isOrdinary
    · simp only [ho, if_true]
      exact ⟨hmoves, fun e' he => by cases he⟩
    · simp only [ho]
      exact ⟨hmoves, fun e' he => by cases he; exact herrors e rfl⟩
  · exact ⟨hmoves, fun e' he => by cases he⟩

theorem call (hL : L.Covers around asks) {c : Call} (hc : asks c) :
    (Action.call c : Action σ c.Reply).Keeps around L := hL.call c hc

end Action.Keeps

namespace Callback

variable {σ α β : Type} {L : Leeway σ} {around : Surroundings σ} {asks : Call → Prop}

theorem Keeps.invoke (hL : L.Covers around asks) {f : Callback σ α β}
    (hf : f.Keeps around L) (a : α) : (f.invoke a).Keeps around L := by
  rw [Callback.invoke]
  split
  · refine (Action.Keeps.machine hL).bind hL fun m => ?_
    exact (Action.Keeps.emit hL rfl).bind hL fun _ => hf _ a
  · exact hf 0 a

theorem invoke_gives {P : β → Prop} {f : Callback σ α β} {a : α}
    (hf : ∀ earlier, (f.body earlier a).Gives around P) : (f.invoke a).Gives around P := by
  rw [Callback.invoke]
  split
  · intro m b n h
    obtain ⟨_, _, -, h⟩ := (Action.bind_eq_done around _).1 h
    obtain ⟨_, _, -, h⟩ := (Action.bind_eq_done around _).1 h
    exact hf _ h
  · exact hf 0

theorem Gives.invoke {P : β → Prop} {f : Callback σ α β} (hf : f.Gives around P) (a : α) :
    (f.invoke a).Gives around P :=
  invoke_gives fun earlier => hf earlier a

end Callback

end BrowserFlow
