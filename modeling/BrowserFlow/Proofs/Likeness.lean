import BrowserFlow.Proofs.Attempts

/-!
# Running side by side

Two runs are compared step by step. A likeness says what may differ between them: the items that are
stored, what was written down (the log, the cells of failure lines and how many cells were given
out), and the sinks of contexts. Everything else, the driver's world, the tokens and all that a
context holds, is the same. Actions match if, on machines that are alike, they come to the same
ending and leave machines that are alike; what is put together from actions that match matches as
well.
-/
namespace BrowserFlow

/-- What a machine has written down. -/
structure Trace where
  log : List Event
  held : Nat → List String
  fresh : Nat

def Machine.trace {σ : Type} (m : Machine σ) : Trace := ⟨m.log, m.held, m.fresh⟩

/-- What may differ between two runs, and how far. -/
structure Likeness where
  stores : ItemStore → ItemStore → Prop
  traces : Trace → Trace → Prop
  sinks : Sink → Sink → Prop

/-- What two computations have come to: results of which `V` holds, or the same error. -/
inductive ExceptAlike {α β : Type} (V : α → β → Prop) :
    Except Raised α → Except Raised β → Prop
  | ok {a : α} {b : β} (h : V a b) : ExceptAlike V (.ok a) (.ok b)
  | error (e : Raised) : ExceptAlike V (.error e) (.error e)

theorem ExceptAlike.refl {α : Type} (x : Except Raised α) : ExceptAlike Eq x x := by
  cases x with
  | ok a => exact .ok rfl
  | error e => exact .error e

/-- What goes on alike from the same computation stays alike. -/
theorem ExceptAlike.bind_same {α β γ : Type} {V : β → γ → Prop} {x : Except Raised α}
    {f : α → Except Raised β} {g : α → Except Raised γ}
    (h : ∀ a, ExceptAlike V (f a) (g a)) : ExceptAlike V (x >>= f) (x >>= g) := by
  cases x with
  | ok a => exact h a
  | error e => exact .error e

namespace Likeness

variable {σ : Type} (K : Likeness)

structure Machines (m n : Machine σ) : Prop where
  world : m.world = n.world
  stores : ∀ id, K.stores (m.stores id) (n.stores id)
  trace : K.traces m.trace n.trace
  cancelled : m.cancelled = n.cancelled
  active : m.active = n.active
  tag : m.tag = n.tag

structure Contexts (c d : Context) : Prop where
  same : d = { c with sink := d.sink }
  sink : K.sinks c.sink d.sink

inductive Answers : Answer → Answer → Prop
  | context {c d : Context} (h : K.Contexts c d) : Answers (.context c) (.context d)
  | value (v : Value) : Answers (.value v) (.value v)

/-- What a callback is given in the two runs. -/
inductive Given : {α : Type} → α → α → Prop
  | same {α : Type} (a : α) : Given a a
  | context {c d : Context} (h : K.Contexts c d) : Given c d

/-- Two runs ended the same way, with results of which `V` holds, on machines that are alike. -/
inductive Ends {α β : Type} (V : α → β → Prop) :
    Outcome α × Machine σ → Outcome β × Machine σ → Prop
  | done {a : α} {b : β} {m n : Machine σ} (h : V a b) (hm : K.Machines m n) :
    Ends V (.done a, m) (.done b, n)
  | raised (e : Raised) {m n : Machine σ} (hm : K.Machines m n) :
    Ends V (.raised e, m) (.raised e, n)
  | endless {m n : Machine σ} (hm : K.Machines m n) : Ends V (.endless, m) (.endless, n)

/-- What a likeness has to be for the library to run alike: it outlasts whatever the library writes,
in both runs, to the log, to sinks and to stores, and counts of invocations do not tell the two
apart. -/
structure Fits : Prop where
  append : ∀ {t u : Trace} (es : List Event), K.traces t u →
    K.traces { t with log := t.log ++ es } { u with log := u.log ++ es }
  fresh : ∀ {t u : Trace}, K.traces t u →
    K.traces { t with fresh := t.fresh + 1 } { u with fresh := u.fresh + 1 }
  invocations : ∀ {t u : Trace} (id : Nat), K.traces t u →
    Event.invocations id t.log = Event.invocations id u.log
  given : ∀ {σ : Type} {s t : Sink} {m n : Machine σ} (kind : LineKind) (line : String),
    K.sinks s t → K.Machines m n → K.traces (s.given kind line m).trace
      (t.given kind line n).trace
  holding : ∀ {s t : Sink} {u v : Trace}, K.sinks s t → K.traces u v →
    K.sinks (.holder u.fresh s) (.holder v.fresh t)
  concluded : ∀ {σ : Type} {s t : Sink} {a b : Nat} {c d : Context} {m n : Machine σ},
    K.sinks s t → K.sinks (.holder a s) (.holder b t) → c.hasFailure = d.hasFailure →
    K.Machines m n → K.traces (Retry.concluded a s c m).trace (Retry.concluded b t d n).trace
  empty : K.stores .empty .empty
  set : ∀ {a b : ItemStore} (key value : Value), K.stores a b →
    K.stores (a.set key value) (b.set key value)
  remove : ∀ {a b : ItemStore} (key : Value), K.stores a b →
    ExceptAlike K.stores (a.remove key) (b.remove key)

/-- Keeping the text of a value does not tell the two runs apart. -/
theorem Fits.put {K : Likeness} (hK : K.Fits) {a b : ItemStore} (h : K.stores a b)
    (key value : Value) : ExceptAlike K.stores (a.put key value) (b.put key value) :=
  .bind_same fun _ => .bind_same fun _ => .ok (hK.set key _ h)

/-- Reading the key does not tell the two runs apart. -/
def Legible (key : Value) : Prop := ∀ {a b : ItemStore}, K.stores a b → a.get key = b.get key

variable {K}

namespace Contexts

variable {c d : Context}

theorem elim (h : K.Contexts c d) : ∃ t, K.sinks c.sink t ∧ d = { c with sink := t } :=
  ⟨d.sink, h.sink, h.same⟩

theorem failure (h : K.Contexts c d) : c.failure = d.failure := by
  rw [h.same]

theorem hasFailure (h : K.Contexts c d) : c.hasFailure = d.hasFailure := by
  rw [h.same]
  rfl

theorem failed (h : K.Contexts c d) (f : Failure) :
    K.Contexts { c with failure := some f } { d with failure := some f } := by
  obtain ⟨t, ht, rfl⟩ := h.elim
  exact ⟨rfl, ht⟩

theorem holding (hK : K.Fits) (h : K.Contexts c d) {m n : Machine σ} (hm : K.Machines m n) :
    K.Contexts (c.holding m.fresh) (d.holding n.fresh) := by
  obtain ⟨t, ht, rfl⟩ := h.elim
  exact ⟨rfl, hK.holding ht hm.trace⟩

end Contexts

namespace Machines

variable {m n : Machine σ}

theorem emit (hK : K.Fits) (h : K.Machines m n) (es : List Event) :
    K.Machines { m with log := m.log ++ es } { n with log := n.log ++ es } :=
  ⟨h.world, h.stores, hK.append es h.trace, h.cancelled, h.active, h.tag⟩

/-- Events that are tagged with the session in force. -/
theorem emitTagged (hK : K.Fits) (h : K.Machines m n) (es : Option String → List Event) :
    K.Machines { m with log := m.log ++ es m.tag } { n with log := n.log ++ es n.tag } := by
  have hm := h.emit hK (es m.tag)
  refine ⟨hm.world, hm.stores, ?_, hm.cancelled, hm.active, hm.tag⟩
  change K.traces ⟨m.log ++ es m.tag, m.held, m.fresh⟩ ⟨n.log ++ es n.tag, n.held, n.fresh⟩
  rw [← h.tag]
  exact hm.trace

theorem renewed (hK : K.Fits) (h : K.Machines m n) :
    K.Machines { m with fresh := m.fresh + 1 } { n with fresh := n.fresh + 1 } :=
  ⟨h.world, h.stores, hK.fresh h.trace, h.cancelled, h.active, h.tag⟩

theorem given (hK : K.Fits) (h : K.Machines m n) {s t : Sink} (hs : K.sinks s t) (kind : LineKind)
    (line : String) : K.Machines (s.given kind line m) (t.given kind line n) := by
  have htrace := hK.given kind line hs h
  obtain ⟨log, held, hm⟩ := Sink.given_frame kind line s m
  obtain ⟨log', held', hn⟩ := Sink.given_frame kind line t n
  rw [hm, hn] at htrace ⊢
  exact ⟨h.world, h.stores, htrace, h.cancelled, h.active, h.tag⟩

theorem concluded (hK : K.Fits) (h : K.Machines m n) {s t : Sink} (hs : K.sinks s t) {a b : Nat}
    (hholder : K.sinks (.holder a s) (.holder b t)) {c d : Context}
    (hc : c.hasFailure = d.hasFailure) :
    K.Machines (Retry.concluded a s c m) (Retry.concluded b t d n) := by
  have htrace := hK.concluded hs hholder hc h
  obtain ⟨log, held, hm⟩ := Retry.concluded_frame a s c m
  obtain ⟨log', held', hn⟩ := Retry.concluded_frame b t d n
  rw [hm, hn] at htrace ⊢
  exact ⟨h.world, h.stores, htrace, h.cancelled, h.active, h.tag⟩

theorem switched (h : K.Machines m n) (active : Option Token) :
    K.Machines { m with active } { n with active } :=
  ⟨h.world, h.stores, h.trace, h.cancelled, rfl, h.tag⟩

theorem stopReason (h : K.Machines m n) (token : Option Token) :
    Step.stopReason token m = Step.stopReason token n := by
  rw [Step.stopReason, Step.stopReason, h.active, h.cancelled]

end Machines

namespace Ends

variable {α β γ δ : Type} {V : α → β → Prop} {W : γ → δ → Prop}
  {around : Surroundings σ}

theorem machines {r : Outcome α × Machine σ} {r' : Outcome β × Machine σ}
    (h : K.Ends V r r') : K.Machines r.2 r'.2 := by
  cases h <;> assumption

/-- The rest of two actions is compared where their first parts have come to a result. -/
theorem bind {p : Action σ α} {q : Action σ β} {f : α → Action σ γ}
    {g : β → Action σ δ} {m n : Machine σ} (h : K.Ends V (p around m) (q around n))
    (hrest : ∀ {a b m' n'}, p around m = (.done a, m') → q around n = (.done b, n') →
      V a b → K.Machines m' n' → K.Ends W (f a around m') (g b around n')) :
    K.Ends W ((p >>= f) around m) ((q >>= g) around n) := by
  rw [Action.bind_run, Action.bind_run]
  rcases hp : p around m with ⟨a | e | _, m'⟩ <;>
    rcases hq : q around n with ⟨b | e' | _, n'⟩ <;>
    rw [hp, hq] at h <;> cases h
  · exact hrest hp hq ‹_› ‹_›
  · exact .raised e ‹_›
  · exact .endless ‹_›

theorem awaited {p : Action σ α} {q : Action σ β} {m n : Machine σ}
    (h : K.Ends V (p around m) (q around n)) :
    K.Ends V (p.awaited around m) (q.awaited around n) := by
  rw [Action.awaited_run, Action.awaited_run]
  generalize p around m = r, q around n = r' at h
  cases h with
  | done h hm => exact .done h hm
  | raised e hm => exact .raised _ hm
  | endless hm => exact .endless hm

end Ends

end Likeness

/-- Two actions run alike wherever they are run on machines that are alike. -/
def Action.Matches {σ α β : Type} (around : Surroundings σ) (K : Likeness)
    (V : α → β → Prop) (p : Action σ α) (q : Action σ β) : Prop :=
  ∀ ⦃m n : Machine σ⦄, K.Machines m n → K.Ends V (p around m) (q around n)

namespace Action.Matches

variable {σ α β γ δ : Type} {around : Surroundings σ} {K : Likeness} {V : α → β → Prop}
  {W : γ → δ → Prop}

theorem pure {a : α} {b : β} (h : V a b) :
    Matches around K V (Pure.pure a : Action σ α) (Pure.pure b : Action σ β) :=
  fun _ _ hm => .done h hm

/-- The same result on both sides. -/
theorem same (a : α) : Matches around K Eq (Pure.pure a : Action σ α) (Pure.pure a) := .pure rfl

theorem raise (e : Raised) :
    Matches around K V (Action.raise e : Action σ α) (Action.raise e : Action σ β) :=
  fun _ _ hm => .raised e hm

theorem ofExcept {x : Except Raised α} {y : Except Raised β} (h : ExceptAlike V x y) :
    Matches around K V (Action.ofExcept x : Action σ α) (Action.ofExcept y) := by
  cases h with
  | ok h => exact .pure h
  | error e => exact .raise e

/-- A computation that looks at no machine. -/
theorem compute (x : Except Raised α) :
    Matches around K Eq (Action.ofExcept x : Action σ α) (Action.ofExcept x) :=
  .ofExcept (.refl x)

theorem bind {p : Action σ α} {q : Action σ β} {f : α → Action σ γ}
    {g : β → Action σ δ} (h : Matches around K V p q)
    (hrest : ∀ {a b}, V a b → Matches around K W (f a) (g b)) :
    Matches around K W (p >>= f) (q >>= g) :=
  fun _ _ hm => (h hm).bind fun _ _ hV hm' => hrest hV hm'

/-- Where the first parts come to the same result, the rest is compared for that result. -/
theorem bind_same {p q : Action σ α} {f : α → Action σ γ} {g : α → Action σ δ}
    (h : Matches around K Eq p q) (hrest : ∀ a, Matches around K W (f a) (g a)) :
    Matches around K W (p >>= f) (q >>= g) :=
  h.bind fun hab => hab ▸ hrest _

theorem emit (hK : K.Fits) (e : Event) :
    Matches around K Eq (Action.emit e : Action σ Unit) (Action.emit e) :=
  fun _ _ hm => .done rfl (hm.emit hK [e])

theorem record (hK : K.Fits) (level : LogLevel) (logger message : String) (extra : Option Value) :
    Matches around K Eq (Action.record level logger message extra : Action σ Unit)
      (Action.record level logger message extra) := by
  intro m n hm
  rw [Action.record_run, Action.record_run]
  exact .done rfl (hm.emitTagged hK fun tag => [.log ⟨level, logger, message, tag, extra⟩])

theorem write (hK : K.Fits) {s t : Sink} (hs : K.sinks s t) (kind : LineKind) (line : String) :
    Matches around K Eq (s.write kind line : Action σ Unit) (t.write kind line) := by
  intro m n hm
  rw [Sink.write_run, Sink.write_run]
  exact .done rfl (hm.given hK hs kind line)

theorem items (id : Nat) :
    Matches around K K.stores (Action.items id : Action σ ItemStore) (Action.items id) :=
  fun _ _ hm => .done (hm.stores id) hm

theorem changeItems (id : Nat) {f g : ItemStore → ItemStore}
    (h : ∀ {a b}, K.stores a b → K.stores (f a) (g b)) :
    Matches around K Eq (Action.changeItems id f : Action σ Unit) (Action.changeItems id g) := by
  intro m n hm
  refine .done rfl ⟨hm.world, fun i => ?_, hm.trace, hm.cancelled, hm.active, hm.tag⟩
  dsimp only
  split
  · exact h (hm.stores i)
  · exact hm.stores i

theorem settings : Matches around K Eq (Action.settings : Action σ Settings) Action.settings := by
  intro m n hm
  have hload : Matches around K Eq (Action.ofExcept around.settings : Action σ Settings)
    (Action.ofExcept around.settings) := .compute _
  exact hload hm

theorem patience : Matches around K Eq (Action.patience : Action σ Nat) Action.patience :=
  fun _ _ hm => .done rfl hm

theorem timeout (given : Value) (fallback : Settings → Float) :
    Matches around K Eq (Action.timeout given fallback : Action σ Value)
      (Action.timeout given fallback) := by
  rw [Action.timeout]
  split
  · exact settings.bind_same fun s => .same _
  · exact .same given

theorem attempt {p q : Action σ α} (h : Matches around K Eq p q) :
    Matches around K Eq p.attempt q.attempt := by
  intro m n hm
  rw [Action.attempt_run, Action.attempt_run]
  have hends := h hm
  generalize p around m = r, q around n = r' at hends
  cases hends with
  | done hab hm' => exact .done (congrArg Except.ok hab) hm'
  | raised e hm' => exact .done rfl hm'
  | endless hm' => exact .endless hm'

theorem rescue {p q : Action σ α} (h : Matches around K Eq p q) :
    Matches around K Eq p.rescue q.rescue := by
  intro m n hm
  rw [Action.rescue_run, Action.rescue_run]
  have hends := h hm
  generalize p around m = r, q around n = r' at hends
  cases hends with
  | done hab hm' => exact .done (congrArg Except.ok hab) hm'
  | raised e hm' =>
    dsimp only
    split
    · exact .done rfl hm'
    · exact .raised e hm'
  | endless hm' => exact .endless hm'

theorem awaited {p : Action σ α} {q : Action σ β} (h : Matches around K V p q) :
    Matches around K V p.awaited q.awaited :=
  fun _ _ hm => (h hm).awaited

/-- The driver answers the same in the same world. -/
theorem call (hK : K.Fits) (c : Call) :
    Matches around K Eq (Action.call c : Action σ c.Reply) (Action.call c) := by
  refine awaited fun m n hm => ?_
  have hanswered : ∀ r r' : Outcome c.Reply × Rig σ, r = r' → K.Ends Eq
      (r.1, { m with
        world := r.2.world, log := m.log ++ .call c :: r.2.sent.map (Action.eventOf m.tag) })
      (r'.1, { n with
        world := r'.2.world,
        log := n.log ++ .call c :: r'.2.sent.map (Action.eventOf n.tag) }) := by
    rintro ⟨ending, rig⟩ _ rfl
    have hm' := hm.emitTagged hK fun tag => .call c :: rig.sent.map (Action.eventOf tag)
    have hafter : K.Machines
        { m with
          world := rig.world, log := m.log ++ .call c :: rig.sent.map (Action.eventOf m.tag) }
        { n with
          world := rig.world, log := n.log ++ .call c :: rig.sent.map (Action.eventOf n.tag) } :=
      ⟨rfl, hm'.stores, hm'.trace, hm'.cancelled, hm'.active, hm'.tag⟩
    rcases ending with a | e | _
    · exact .done rfl hafter
    · exact .raised e hafter
    · exact .endless hafter
  exact hanswered _ _ (by rw [hm.world])

end Action.Matches

/-- What two rounds have come to: what both carry on with, or what both end with. -/
inductive RoundAlike {α β γ δ : Type} (R : α → β → Prop) (V : γ → δ → Prop) :
    α ⊕ γ → β ⊕ δ → Prop
  | onward {a : α} {b : β} (h : R a b) : RoundAlike R V (.inl a) (.inl b)
  | ended {c : γ} {d : δ} (h : V c d) : RoundAlike R V (.inr c) (.inr d)

theorem Action.Matches.rounds {σ α β γ δ : Type} {around : Surroundings σ} {K : Likeness}
    {R : α → β → Prop} {V : γ → δ → Prop} {round : α → Action σ (α ⊕ γ)}
    {round' : β → Action σ (β ⊕ δ)}
    (hround : ∀ {a b}, R a b → (round a).Matches around K (RoundAlike R V) (round' b)) (k : Nat)
    {a : α} {b : β} (hab : R a b) :
    (Action.rounds k round a).Matches around K V (Action.rounds k round' b) := by
  induction k generalizing a b with
  | zero => exact fun _ _ hm => .endless hm
  | succ k ih =>
    intro m n hm
    rw [Action.rounds_succ, Action.rounds_succ]
    have hends := hround hab hm
    generalize round a around m = r, round' b around n = r' at hends
    cases hends with
    | done h hm' =>
      cases h with
      | onward h => exact ih h hm'
      | ended h => exact .done h hm'
    | raised e hm' => exact .raised e hm'
    | endless hm' => exact .endless hm'

/-- A callback that runs alike on what it is given in the two runs. -/
def Callback.Matches {σ α β : Type} (around : Surroundings σ) (K : Likeness)
    (f : Callback σ α β) : Prop :=
  ∀ ⦃a b : α⦄, K.Given a b → (f.invoke a).Matches around K Eq (f.invoke b)

namespace Likeness

/-- Nothing differs but stores and logs. -/
def ofLogs (stores : ItemStore → ItemStore → Prop) (logs : List Event → List Event → Prop) :
    Likeness where
  stores
  traces := fun t u => logs t.log u.log ∧ t.held = u.held ∧ t.fresh = u.fresh
  sinks := Eq

variable {σ : Type} {stores : ItemStore → ItemStore → Prop}
  {logs : List Event → List Event → Prop}

/-- Contexts are the same then. -/
theorem Contexts.eq {c d : Context} (h : (ofLogs stores logs).Contexts c d) : c = d := by
  have hsink : c.sink = d.sink := h.sink
  rw [h.same, ← hsink]

theorem Contexts.refl (c : Context) : (ofLogs stores logs).Contexts c c := ⟨rfl, rfl⟩

theorem ofLogs_given
    (happend : ∀ {es fs : List Event} (gs : List Event),
      logs es fs → logs (es ++ gs) (fs ++ gs))
    (sink : Sink) (kind : LineKind) (line : String) {m n : Machine σ}
    (hm : (ofLogs stores logs).Machines m n) :
    (ofLogs stores logs).traces (sink.given kind line m).trace (sink.given kind line n).trace := by
  obtain ⟨hlogs, hheld, hfresh⟩ := hm.trace
  induction sink with
  | recorder => exact ⟨happend _ hlogs, hheld, hfresh⟩
  | logger enabled =>
    simp only [Sink.given, hm.tag]
    split
    · exact ⟨happend _ hlogs, hheld, hfresh⟩
    · exact hm.trace
  | holder cell inner ih =>
    simp only [Sink.given]
    split
    · refine ⟨hlogs, ?_, hfresh⟩
      change (fun c => if c = cell then m.held c ++ [line] else m.held c) =
        fun c => if c = cell then n.held c ++ [line] else n.held c
      rw [show m.held = n.held from hheld]
    · exact ih

theorem ofLogs_fits
    (happend : ∀ {es fs : List Event} (gs : List Event),
      logs es fs → logs (es ++ gs) (fs ++ gs))
    (hinvocations : ∀ {es fs : List Event} (id : Nat), logs es fs →
      Event.invocations id es = Event.invocations id fs) (hempty : stores .empty .empty)
    (hset : ∀ {a b : ItemStore} (key value : Value), stores a b →
      stores (a.set key value) (b.set key value))
    (hremove : ∀ {a b : ItemStore} (key : Value), stores a b →
      ExceptAlike stores (a.remove key) (b.remove key)) : (ofLogs stores logs).Fits where
  append := fun es h => ⟨happend es h.1, h.2⟩
  fresh := fun h => ⟨h.1, h.2.1, congrArg (· + 1) h.2.2⟩
  invocations := fun id h => hinvocations id h.1
  given := by
    rintro σ s _ m n kind line rfl hm
    exact ofLogs_given happend s kind line hm
  holding := by
    rintro s _ u v rfl h
    exact congrArg (Sink.holder · s) h.2.2
  concluded := by
    rintro σ s _ a b c d m n rfl hholder hfailure hm
    obtain rfl : a = b := by injection hholder
    have hheld : m.held = n.held := hm.trace.2.1
    rw [Retry.concluded, Retry.concluded, ← hfailure, ← hheld]
    split
    · cases (m.held a).getLast? with
      | none => exact hm.trace
      | some line => exact ofLogs_given happend s .error line hm
    · exact hm.trace
  empty := hempty
  set := hset
  remove := hremove

end Likeness

end BrowserFlow
