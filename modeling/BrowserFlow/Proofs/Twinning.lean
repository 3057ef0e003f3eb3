import BrowserFlow.Proofs.Combining
import BrowserFlow.Proofs.Exchanges

/-!
# Twin runs

Two runs are followed side by side that type different texts of the same length. Their machines are
twins as long as nothing but the driver's world is different, and in their logs nothing but the
texts that were typed and what the driver sent. What an action sees of the driver is how it answers,
so twins stay twins until two calls that are alike are not answered alike. There the runs part, and
nothing is said of what comes after. Actions that keep each other company still do so when they are
put together, and all the work of the library keeps itself company.
-/
namespace BrowserFlow

variable {σ : Type}

/-! ### What may differ -/

/-- Both values have a length, and the same one. -/
def Value.SameLength (u v : Value) : Prop := ∃ n, u.length = .ok n ∧ v.length = .ok n

theorem Value.SameLength.typed {u v : Value} (h : u.SameLength v) : u.typed.SameLength v.typed := by
  obtain ⟨n, hu, hv⟩ := h
  exact ⟨n, by cases u <;> exact hu, by cases v <;> exact hv⟩

/-- Two calls that are the same but for a text that they type. -/
inductive Call.Alike : Call → Call → Prop
  | same (k : Call) : Alike k k
  | fill (l : Locator) {u v : Value} (h : u.SameLength v) : Alike (.fill l u) (.fill l v)
  | selectOption (l : Locator) {u v : Value} (h : u.SameLength v) :
    Alike (.selectOption l u) (.selectOption l v)

/-- The same ending with another result. -/
def Outcome.giving {α β : Type} (b : β) : Outcome α → Outcome β
  | .done _ => .done b
  | .raised e => .raised e
  | .endless => .endless

/-- Two calls that are alike were answered alike. What a select box tells of the options that it has
chosen makes no difference if it was asked for different ones. -/
inductive Exchange.Alike : Exchange → Exchange → Prop
  | same (x : Exchange) : Alike x x
  | fill (l : Locator) {u v : Value} (h : u.SameLength v) (r : Outcome Unit) :
    Alike ⟨.fill l u, r⟩ ⟨.fill l v, r⟩
  | selectOption (l : Locator) {u v : Value} (h : u.SameLength v) (huv : u ≠ v)
    {r r' : Outcome (List Value)} (hr : r.giving () = r'.giving ()) :
    Alike ⟨.selectOption l u, r⟩ ⟨.selectOption l v, r'⟩

/-- The same call was answered alike only if the answer was the same. -/
theorem Exchange.Alike.reply {k : Call} {r r' : Outcome k.Reply}
    (h : Exchange.Alike ⟨k, r⟩ ⟨k, r'⟩) : r = r' := by
  cases h with
  | same => rfl
  | fill => rfl
  | selectOption l h huv => exact absurd rfl huv

/-- Two logs that differ in nothing but the texts that were typed and what the driver sent while it
answered. -/
inductive Retold : List Event → List Event → Prop
  | nil : Retold [] []
  | event {es fs : List Event} (h : Retold es fs) (e : Event) : Retold (es ++ [e]) (fs ++ [e])
  | call {es fs : List Event} (h : Retold es fs) {x y : Call} (hxy : x.Alike y)
    (tag : Option String) (sent sent' : List Signal) :
    Retold (es ++ .call x :: sent.map (Action.eventOf tag))
      (fs ++ .call y :: sent'.map (Action.eventOf tag))

namespace Retold

variable {es fs : List Event}

theorem append (h : Retold es fs) (gs : List Event) : Retold (es ++ gs) (fs ++ gs) := by
  induction gs generalizing es fs with
  | nil => simpa using h
  | cons e gs ih => simpa using ih (h.event e)

theorem refl (es : List Event) : Retold es es := nil.append es

/-- The lines are the same in both logs. -/
theorem linesOf (h : Retold es fs) (kind : LineKind) :
    Event.linesOf kind es = Event.linesOf kind fs := by
  induction h with
  | nil => rfl
  | event _ e ih => rw [Event.linesOf_append, Event.linesOf_append, ih]
  | @call es fs _ x y _ tag sent sent' ih =>
    have hcall : ∀ (k : Call) (gs : List Event),
      Event.linesOf kind (.call k :: gs) = Event.linesOf kind gs := fun _ _ => rfl
    rw [Event.linesOf_append, Event.linesOf_append, ih, hcall, hcall, Event.linesOf_sent,
      Event.linesOf_sent]

/-- So are the counts of invocations. -/
theorem invocations (h : Retold es fs) (id : Nat) :
    Event.invocations id es = Event.invocations id fs := by
  induction h with
  | nil => rfl
  | event _ e ih => rw [Event.invocations_append, Event.invocations_append, ih]
  | @call es fs _ x y _ tag sent sent' ih =>
    have hcall : ∀ (k : Call) (gs : List Event),
      Event.invocations id (.call k :: gs) = Event.invocations id gs := by
      simp [Event.invocations]
    rw [Event.invocations_append, Event.invocations_append, ih, hcall, hcall,
      Event.invocations_sent, Event.invocations_sent]

end Retold

/-- A change that has nothing to do with the driver's world and the log. -/
def Machine.Apart (f : Machine σ → Machine σ) : Prop :=
  ∀ m world log, f { m with world, log } = { f m with world, log }

theorem Machine.Apart.still {f : Machine σ → Machine σ} (hf : Machine.Apart f)
    (m : Machine σ) : (f m).world = m.world ∧ (f m).log = m.log := by
  have hsame : f m = { f m with world := m.world, log := m.log } := hf m m.world m.log
  rw [hsame]
  exact ⟨rfl, rfl⟩

/-- Two machines that differ in nothing but the driver's world, the texts that were typed into it
and what the driver sent. -/
structure Machine.Twins (m n : Machine σ) : Prop where
  same : n = { m with world := n.world, log := n.log }
  told : Retold m.log n.log

namespace Machine.Twins

variable {m n : Machine σ}

theorem refl (m : Machine σ) : m.Twins m := ⟨rfl, .refl m.log⟩

theorem elim (h : m.Twins n) :
    ∃ world log, Retold m.log log ∧ n = { m with world, log } :=
  ⟨n.world, n.log, h.told, h.same⟩

/-- Both have written the same. -/
theorem append (h : m.Twins n) (es : List Event) :
    Twins { m with log := m.log ++ es } { n with log := n.log ++ es } := by
  obtain ⟨world, log, htold, rfl⟩ := h.elim
  exact ⟨rfl, htold.append es⟩

/-- Both have been changed in the same way, in what they have in common. -/
theorem changed (h : m.Twins n) {f : Machine σ → Machine σ} (hf : Machine.Apart f) :
    (f m).Twins (f n) := by
  obtain ⟨world, log, htold, rfl⟩ := h.elim
  rw [hf m world log]
  exact ⟨rfl, (hf.still m).2 ▸ htold⟩

section

variable (h : m.Twins n)

include h

theorem stores : m.stores = n.stores := by rw [h.same]

theorem held : m.held = n.held := by rw [h.same]

theorem cancelled : m.cancelled = n.cancelled := by rw [h.same]

theorem active : m.active = n.active := by rw [h.same]

theorem tag : m.tag = n.tag := by rw [h.same]

theorem fresh : m.fresh = n.fresh := by rw [h.same]

end

/-- The same line was given to the same sink. -/
theorem given (h : m.Twins n) (kind : LineKind) (line : String) (sink : Sink) :
    (sink.given kind line m).Twins (sink.given kind line n) := by
  induction sink with
  | recorder => exact h.append _
  | logger enabled =>
    obtain ⟨world, log, -, rfl⟩ := h.elim
    simp only [Sink.given]
    split
    · exact h.append _
    · exact h
  | holder cell inner ih =>
    obtain ⟨world, log, htold, rfl⟩ := h.elim
    simp only [Sink.given]
    split
    · exact ⟨rfl, htold⟩
    · exact ih

end Machine.Twins

/-! ### Runs that part -/

theorem Conversed.changed {around : Surroundings σ} {f : Machine σ → Machine σ}
    (hf : Machine.Apart f) (m : Machine σ) : Conversed around m (f m) :=
  ⟨[], .still (hf.still m).2 (hf.still m).1⟩

/-- On the way from `m` to `m'` and on the way from `n` to `n'` two runs part: from twins they put
calls to the driver that are alike and are not answered alike. -/
structure Parting (around : Surroundings σ) (m n m' n' k k' : Machine σ) (x y : Call) : Prop where
  before : Conversed around m k
  before' : Conversed around n k'
  twins : k.Twins k'
  alike : x.Alike y
  answers :
    ¬ Exchange.Alike ⟨x, around.driver.reply x k.world⟩ ⟨y, around.driver.reply y k'.world⟩
  after : Conversed around (Action.call x around k).2 m'
  after' : Conversed around (Action.call y around k').2 n'

def Parted (around : Surroundings σ) (m n m' n' : Machine σ) : Prop :=
  ∃ k k' x y, Parting around m n m' n' k k' x y

namespace Parted

variable {around : Surroundings σ} {m n m' n' o o' : Machine σ}

/-- What led to the two runs makes no difference. -/
theorem earlier (h : Parted around m n m' n') (ho : Conversed around o m)
    (ho' : Conversed around o' n) : Parted around o o' m' n' := by
  obtain ⟨k, k', x, y, h⟩ := h
  exact ⟨k, k', x, y, { h with before := ho.trans h.before, before' := ho'.trans h.before' }⟩

/-- Runs that have parted may go on in any way. -/
theorem later (h : Parted around m n m' n') (ho : Conversed around m' o)
    (ho' : Conversed around n' o') : Parted around m n o o' := by
  obtain ⟨k, k', x, y, h⟩ := h
  exact ⟨k, k', x, y, { h with after := h.after.trans ho, after' := h.after'.trans ho' }⟩

end Parted

/-- Two runs ended the same way on machines that are twins, unless they have parted. -/
structure Paired {α : Type} (around : Surroundings σ) (m n : Machine σ)
    (r r' : Outcome α × Machine σ) : Prop where
  left : Conversed around m r.2
  right : Conversed around n r'.2
  ends : Parted around m n r.2 r'.2 ∨ r.1 = r'.1 ∧ r.2.Twins r'.2

/-- Two actions come to the same wherever they are run on twins, unless their runs part. -/
def Action.Alongside {α : Type} (around : Surroundings σ) (p q : Action σ α) : Prop :=
  ∀ ⦃m n : Machine σ⦄, m.Twins n → Paired around m n (p around m) (q around n)

/-- What nothing else comes of. -/
theorem Machine.Twins.still {α : Type} {around : Surroundings σ} {m n : Machine σ}
    (h : m.Twins n) (ending : Outcome α) : Paired around m n (ending, m) (ending, n) :=
  ⟨.refl around m, .refl around n, .inr ⟨rfl, h⟩⟩

namespace Action.Alongside

variable {α β : Type} {around : Surroundings σ} {p q : Action σ α}

theorem pure (a : α) : Alongside around (Pure.pure a : Action σ α) (Pure.pure a) :=
  fun _ _ h => h.still _

theorem raise (e : Raised) : Alongside around (Action.raise e : Action σ α) (Action.raise e) :=
  fun _ _ h => h.still _

theorem ofExcept (x : Except Raised α) :
    Alongside around (Action.ofExcept x : Action σ α) (Action.ofExcept x) := by
  cases x with
  | ok a => exact pure a
  | error e => exact raise e

theorem settings :
    Alongside around (Action.settings : Action σ Settings) Action.settings :=
  fun _ _ h => ofExcept around.settings h

theorem patience : Alongside around (Action.patience : Action σ Nat) Action.patience :=
  fun _ _ h => h.still _

/-- What comes after the first part of a sequence is part of the conversation. -/
theorem conversed_bind {f : α → Action σ β} {m : Machine σ}
    (hf : ∀ {a n}, p around m = (.done a, n) → Conversed around n (f a around n).2) :
    Conversed around (p around m).2 ((p >>= f) around m).2 := by
  rw [bind_run]
  rcases hp : p around m with ⟨a | e | _, n⟩
  · exact hf hp
  · exact .refl around n
  · exact .refl around n

/-- The rest of two sequences keeps company for whatever their first parts can give. -/
theorem bind_gives {P : α → Prop} {f g : α → Action σ β} (h : Alongside around p q)
    (hp : p.Gives around P) (hq : q.Gives around P)
    (hrest : ∀ a, P a → Alongside around (f a) (g a)) :
    Alongside around (p >>= f) (q >>= g) := by
  intro m n hmn
  obtain ⟨hleft, hright, hends⟩ := h hmn
  have honward : Conversed around (p around m).2 ((p >>= f) around m).2 :=
    conversed_bind fun hrun => (hrest _ (hp hrun) (.refl _)).left
  have honward' : Conversed around (q around n).2 ((q >>= g) around n).2 :=
    conversed_bind fun hrun => (hrest _ (hq hrun) (.refl _)).right
  refine ⟨hleft.trans honward, hright.trans honward', ?_⟩
  rcases hends with hparted | ⟨hending, htwins⟩
  · exact .inl (hparted.later honward honward')
  · rw [bind_run, bind_run]
    rcases hrun : p around m with ⟨a | e | _, m'⟩ <;>
      rcases hrun' : q around n with ⟨b | e' | _, n'⟩ <;>
      rw [hrun, hrun'] at hending htwins <;> cases hending
    · rw [hrun] at hleft
      rw [hrun'] at hright
      exact (hrest a (hp hrun) htwins).ends.imp_left fun hparted => hparted.earlier hleft hright
    · exact .inr ⟨rfl, htwins⟩
    · exact .inr ⟨rfl, htwins⟩

theorem bind {f g : α → Action σ β} (h : Alongside around p q)
    (hrest : ∀ a, Alongside around (f a) (g a)) : Alongside around (p >>= f) (q >>= g) :=
  h.bind_gives (P := fun _ => True) (fun _ => trivial) (fun _ => trivial) fun a _ => hrest a

/-- The machine is looked at, of which twins have almost everything in common. -/
theorem machine {f g : Machine σ → Action σ β}
    (h : ∀ {m n : Machine σ}, m.Twins n → Alongside around (f m) (g n)) :
    Alongside around (Action.machine >>= f) (Action.machine >>= g) :=
  fun _ _ hmn => h hmn hmn

theorem emit {e : Event} (he : ∀ k, e ≠ .call k) :
    Alongside around (Action.emit e : Action σ Unit) (Action.emit e) :=
  fun m n h =>
    ⟨⟨[], .emit around he m⟩, ⟨[], .emit around he n⟩, .inr ⟨rfl, h.append [e]⟩⟩

theorem change {f : Machine σ → Machine σ} (hf : Machine.Apart f) :
    Alongside around (Action.change f : Action σ Unit) (Action.change f) :=
  fun m n h => ⟨.changed hf m, .changed hf n, .inr ⟨rfl, h.changed hf⟩⟩

theorem record (level : LogLevel) (logger message : String) (extra : Option Value) :
    Alongside around (Action.record level logger message extra : Action σ Unit)
      (Action.record level logger message extra) :=
  machine fun h => by
    rw [h.tag]
    exact emit (by simp)

theorem write (kind : LineKind) (line : String) (sink : Sink) :
    Alongside around (sink.write kind line : Action σ Unit) (sink.write kind line) := by
  intro m n h
  rw [Sink.write_run, Sink.write_run]
  exact ⟨⟨[], .given around kind line sink m⟩, ⟨[], .given around kind line sink n⟩,
    .inr ⟨rfl, h.given kind line sink⟩⟩

theorem items (store : Nat) :
    Alongside around (Action.items store : Action σ ItemStore) (Action.items store) :=
  machine fun h => by
    rw [h.stores]
    exact pure _

theorem changeItems (store : Nat) (f : ItemStore → ItemStore) :
    Alongside around (Action.changeItems store f : Action σ Unit) (Action.changeItems store f) :=
  change fun _ _ _ => rfl

theorem newReference :
    Alongside around (Action.newReference : Action σ Nat) Action.newReference :=
  machine fun h => by
    rw [h.fresh]
    exact (change fun _ _ _ => rfl).bind fun _ => pure _

theorem attempt (h : Alongside around p q) : Alongside around p.attempt q.attempt := by
  have hmachine : ∀ (p : Action σ α) m, (p.attempt around m).2 = (p around m).2 := by
    intro p m
    rw [attempt_run]
    rcases p around m with ⟨a | e | _, n⟩ <;> rfl
  intro m n hmn
  obtain ⟨hleft, hright, hends⟩ := h hmn
  refine ⟨?_, ?_, ?_⟩
  · rwa [hmachine]
  · rwa [hmachine]
  · rw [hmachine, hmachine]
    refine hends.imp_right fun ⟨hending, htwins⟩ => ⟨?_, htwins⟩
    rw [attempt_run, attempt_run]
    generalize p around m = r, q around n = r' at hending
    rcases r with ⟨a | e | _, m'⟩ <;> rcases r' with ⟨b | e' | _, n'⟩ <;>
      cases hending <;> rfl

theorem awaited (h : Alongside around p q) : Alongside around p.awaited q.awaited := by
  refine h.attempt.bind fun r => ?_
  cases r with
  | ok a => exact pure a
  | error e => exact raise _

theorem rescue (h : Alongside around p q) : Alongside around p.rescue q.rescue := by
  have hrescue : ∀ p : Action σ α, p.rescue = p.attempt >>= fun r => r.casesOn
      (fun e => if e.isOrdinary then Pure.pure (.error e) else Action.raise e)
      fun a => Pure.pure (.ok a) := by
    intro p
    funext around m
    rw [bind_run, attempt_run, rescue_run]
    rcases p around m with ⟨a | e | _, n⟩
    · rfl
    · dsimp only
      split <;> rfl
    · rfl
  rw [hrescue, hrescue]
  refine h.attempt.bind fun r => ?_
  cases r with
  | ok a => exact pure _
  | error e =>
    dsimp only
    split
    · exact pure _
    · exact raise e

theorem ensuring (h : Alongside around p q) {tidy : Machine σ → Machine σ}
    (htidy : Machine.Apart tidy) :
    Alongside around (p.ensuring tidy) (q.ensuring tidy) := by
  intro m n hmn
  obtain ⟨hleft, hright, hends⟩ := h hmn
  refine ⟨hleft.trans (.changed htidy _), hright.trans (.changed htidy _), ?_⟩
  exact hends.imp (fun hparted => hparted.later (.changed htidy _) (.changed htidy _))
    fun ⟨hending, htwins⟩ => ⟨hending, htwins.changed htidy⟩

theorem rounds {γ : Type} {round round' : α → Action σ (α ⊕ γ)}
    (h : ∀ a, Alongside around (round a) (round' a)) (k : Nat) (a : α) :
    Alongside around (Action.rounds k round a) (Action.rounds k round' a) := by
  have hrounds : ∀ (round : α → Action σ (α ⊕ γ)) k a, Action.rounds (k + 1) round a =
      round a >>= fun next => next.elim (Action.rounds k round) Pure.pure := by
    intro round k a
    funext around m
    rw [rounds_succ, bind_run]
    rcases round a around m with ⟨(b | r) | e | _, n⟩ <;> rfl
  induction k generalizing a with
  | zero => exact fun _ _ h => h.still _
  | succ k ih =>
    rw [hrounds, hrounds]
    refine (h a).bind fun next => ?_
    cases next with
    | inl b => exact ih b
    | inr r => exact pure r

end Action.Alongside

/-! ### Calls and the work of the library -/

/-- What an action gives is dropped, and something else is given. -/
theorem Action.giving_run {α β : Type} (p : Action σ α) (b : β) (around : Surroundings σ)
    (m : Machine σ) : (p >>= fun _ => pure b) around m =
      ((p around m).1.giving b, (p around m).2) := by
  rw [bind_run]
  rcases p around m with ⟨a | e | _, n⟩ <;> rfl

/-- Calls that are alike come to the same for whoever looks only at what answers that are alike have
in common, unless they are not answered alike. -/
theorem Machine.Twins.call {α : Type} {around : Surroundings σ} {m n : Machine σ} (h : m.Twins n)
    {x y : Call} (hxy : x.Alike y) {f : Outcome x.Reply → Outcome α}
    {g : Outcome y.Reply → Outcome α}
    (hfg : ∀ {r r'}, Exchange.Alike ⟨x, r⟩ ⟨y, r'⟩ → f r = g r') :
    Paired around m n (f (around.driver.reply x m.world), (Action.call x around m).2)
      (g (around.driver.reply y n.world), (Action.call y around n).2) := by
  refine ⟨⟨_, .call around x m⟩, ⟨_, .call around y n⟩, ?_⟩
  by_cases halike : Exchange.Alike ⟨x, around.driver.reply x m.world⟩
      ⟨y, around.driver.reply y n.world⟩
  · refine .inr ⟨hfg halike, ?_⟩
    rw [Action.call_run, Action.call_run]
    obtain ⟨world, log, htold, rfl⟩ := h.elim
    exact ⟨rfl, htold.call hxy _ _ _⟩
  · exact .inl ⟨m, n, x, y, .refl around m, .refl around n, h, hxy, halike, .refl around _,
      .refl around _⟩

namespace Action.Alongside

variable {around : Surroundings σ}

theorem call (k : Call) : Alongside around (Action.call k : Action σ k.Reply) (Action.call k) := by
  intro m n h
  rw [call_of_reply (k := k) (m := m) rfl, call_of_reply (k := k) (m := n) rfl]
  exact h.call (.same k) (f := id) (g := id) fun halike => halike.reply

/-- Whatever text an element is filled with, it is only seen whether it was filled. -/
theorem fill (l : Locator) {u v : Value} (huv : u.SameLength v) :
    Alongside around (Action.call (.fill l u) : Action σ Unit) (Action.call (.fill l v)) := by
  intro m n h
  rw [call_of_reply (k := .fill l u) (m := m) rfl, call_of_reply (k := .fill l v) (m := n) rfl]
  refine h.call (.fill l huv) (f := id) (g := id) fun halike => ?_
  cases halike <;> rfl

/-- Whatever option is asked for, it is only seen whether the select box could be asked. -/
theorem selectOption (l : Locator) {u v : Value} (huv : u.SameLength v) :
    Alongside around (do let _ ← Action.call (.selectOption l u) : Action σ Unit)
      (do let _ ← Action.call (.selectOption l v)) := by
  intro m n h
  rw [giving_run, giving_run, call_reply, call_reply]
  refine h.call (.selectOption l huv) (f := .giving ()) (g := .giving ()) fun halike => ?_
  cases halike with
  | same => rfl
  | selectOption l h huv hr => exact hr

end Action.Alongside

/-- A leeway that leaves no room for actions of the caller's own. -/
def Leeway.closed : Leeway σ := ⟨fun _ _ => False, fun _ => True⟩

/-- The work of the library keeps itself company. -/
theorem Work.alongside {α : Type} {around : Surroundings σ} {c : Context} {p : Action σ α}
    {P : α → Prop} (h : Work around .closed c p P) : p.Alongside around p := by
  induction h with
  | pure => exact .pure _
  | raise => exact .raise _
  | settings => exact .settings
  | items => exact .items _
  | call k => exact .call k
  | record h level message extra => exact .record level _ message extra
  | inform text => exact .write _ text _
  | guest hp => exact fun m _ _ => (hp m).1.elim
  | bind hp _ ih hf => exact ih.bind_gives hp.gives hp.gives hf
  | @attempt _ _ P _ p f hp _ herror ih hok =>
    have hgives : p.attempt.Gives around fun r => ∀ a, r = .ok a → P a := by
      intro m r n hdone a ha
      rw [Action.attempt_run] at hdone
      rcases hrun : p around m with ⟨b | e | _, o⟩ <;> rw [hrun] at hdone <;> cases hdone
      · cases ha
        exact hp.gives hrun
      · cases ha
    refine ih.attempt.bind_gives hgives hgives fun r hr => ?_
    rcases r with e | a
    · obtain ⟨e', hf, -⟩ := herror e
      rw [hf]
      exact .raise e'
    · exact hok a (hr a rfl)
  | rescue _ ih => exact ih.rescue

end BrowserFlow
