import BrowserFlow.Proofs.Running

/-!
# What sinks have heard

The failure lines that were given to a sink are read off the machine: a recorder has them among the
lines of the log, a logger among its records, a holder in its cell. Two machines are compared by
what was heard in between: nothing, or one line at one outlet, or nothing of any kind but notes for
debugging.
-/
namespace BrowserFlow

/-- Where the failure lines that a sink is given end up. -/
inductive Outlet
  | lines | records | cell (n : Nat)
deriving DecidableEq

def Sink.outlet : Sink → Outlet
  | recorder => .lines
  | logger _ => .records
  | holder cell _ => .cell cell

namespace Event

/-- The message of a record that tells of a failure. -/
def failureRecord? : Event → Option String
  | log r => if r.logger = Sink.loggerName ∧ r.level = .error then some r.message else none
  | _ => none

/-- The event tells a reader of the log of a failure. -/
def tellsFailure : Event → Bool
  | line kind _ => kind = .error
  | e => e.failureRecord?.isSome

/-- The event is neither a call on the driver nor one that tells of a failure. -/
def isAside : Event → Bool
  | call _ => false
  | e => !e.tellsFailure

/-- A note for debugging that a chain leaves. -/
def IsNote (e : Event) : Prop := ∃ r, e = log r ∧ r.logger = "uiflow.chain" ∧ r.level = .debug

theorem linesOf_append (kind : LineKind) (es fs : List Event) :
    linesOf kind (es ++ fs) = linesOf kind es ++ linesOf kind fs := List.filterMap_append

theorem calls_append (es fs : List Event) : calls (es ++ fs) = calls es ++ calls fs :=
  List.filterMap_append

theorem invocations_append (id : Nat) (es fs : List Event) :
    invocations id (es ++ fs) = invocations id es + invocations id fs :=
  List.countP_append

theorem calls_call (c : Call) (es : List Event) : calls (.call c :: es) = c :: calls es := rfl

/-- What a driver does on its own account is no call. -/
theorem calls_sent (tag : Option String) (sent : List Signal) :
    calls (sent.map (Action.eventOf tag)) = [] := by
  refine List.filterMap_eq_nil_iff.2 fun e he => ?_
  obtain ⟨signal, -, rfl⟩ := List.mem_map.1 he
  cases signal <;> rfl

/-- Nor is it a line for a sink. -/
theorem linesOf_sent (kind : LineKind) (tag : Option String) (sent : List Signal) :
    linesOf kind (sent.map (Action.eventOf tag)) = [] := by
  refine List.filterMap_eq_nil_iff.2 fun e he => ?_
  obtain ⟨signal, -, rfl⟩ := List.mem_map.1 he
  cases signal <;> rfl

/-- Nor does it invoke a callback. -/
theorem invocations_sent (id : Nat) (tag : Option String) (sent : List Signal) :
    invocations id (sent.map (Action.eventOf tag)) = 0 := by
  refine List.countP_eq_zero.2 fun e he => ?_
  obtain ⟨signal, -, rfl⟩ := List.mem_map.1 he
  cases signal <;> simp [Action.eventOf]

theorem linesOf_of_silent {e : Event} (h : e.tellsFailure = false) : linesOf .error [e] = [] := by
  cases e with
  | line kind text =>
    have hk : kind ≠ .error := by simpa [tellsFailure] using h
    simp [linesOf, hk]
  | _ => rfl

theorem failureRecord?_of_silent {e : Event} (h : e.tellsFailure = false) :
    e.failureRecord? = none := by
  cases e with
  | log r => simpa [tellsFailure] using h
  | _ => rfl

theorem silent_of_aside {e : Event} (h : e.isAside = true) : e.tellsFailure = false := by
  cases e with
  | call c => cases h
  | _ => simpa only [isAside, Bool.not_eq_true'] using h

theorem ne_call_of_aside {e : Event} (h : e.isAside = true) (c : Call) : e ≠ call c := by
  rintro rfl
  cases h

@[simp] theorem tellsFailure_line (kind : LineKind) (text : String) :
    (line kind text).tellsFailure = decide (kind = .error) := rfl

@[simp] theorem isAside_line (kind : LineKind) (text : String) :
    (line kind text).isAside = decide (kind ≠ .error) := by
  simp [isAside]

theorem silent_of_logger {r : LogRecord} (h : r.logger ≠ Sink.loggerName) :
    (log r).tellsFailure = false := by
  simp [tellsFailure, failureRecord?, h]

theorem aside_of_logger {r : LogRecord} (h : r.logger ≠ Sink.loggerName) :
    (log r).isAside = true := by
  simp [isAside, silent_of_logger h]

theorem aside_of_level {r : LogRecord} (h : r.level ≠ .error) : (log r).isAside = true := by
  simp [isAside, tellsFailure, failureRecord?, h]

theorem aside_of_note {e : Event} (h : e.IsNote) : e.isAside = true := by
  obtain ⟨r, rfl, -, hr⟩ := h
  exact aside_of_level (by simp [hr])

theorem silent_of_note {e : Event} (h : e.IsNote) : e.tellsFailure = false :=
  silent_of_aside (aside_of_note h)

end Event

namespace Machine

variable {σ : Type}

/-- The failure lines that have ended up at an outlet. -/
def heard (m : Machine σ) : Outlet → List String
  | .lines => Event.linesOf .error m.log
  | .records => m.log.filterMap (·.failureRecord?)
  | .cell n => m.held n

/-- The outlet is there: a cell has been given out before. -/
def Knows (m : Machine σ) : Outlet → Prop
  | .cell n => n < m.fresh
  | _ => True

/-- Events that tell of no failure are not heard. -/
theorem heard_append {es : List Event} (h : ∀ e ∈ es, e.tellsFailure = false) (m : Machine σ)
    (o : Outlet) : { m with log := m.log ++ es }.heard o = m.heard o := by
  cases o with
  | lines =>
    have hes : Event.linesOf .error es = [] := by
      induction es with
      | nil => rfl
      | cons e es ih =>
        rw [List.forall_mem_cons] at h
        rw [← List.singleton_append, Event.linesOf_append, Event.linesOf_of_silent h.1, ih h.2]
        rfl
    change Event.linesOf .error (m.log ++ es) = Event.linesOf .error m.log
    rw [Event.linesOf_append, hes, List.append_nil]
  | records =>
    have hes : es.filterMap (·.failureRecord?) = [] :=
      List.filterMap_eq_nil_iff.2 fun e he => Event.failureRecord?_of_silent (h e he)
    change (m.log ++ es).filterMap (·.failureRecord?) = m.log.filterMap (·.failureRecord?)
    rw [List.filterMap_append, hes, List.append_nil]
  | cell n => rfl

/-- A failure line is heard at the outlet of the sink that it is given to, and nowhere else. -/
theorem heard_given (sink : Sink) (text : String) (m : Machine σ) (o : Outlet) :
    (sink.given .error text m).heard o = m.heard o ++ if o = sink.outlet then [text] else [] := by
  cases sink with
  | recorder =>
    cases o with
    | lines => simp [Sink.given, heard, Sink.outlet, Event.linesOf]
    | records => simp [Sink.given, heard, Sink.outlet, Event.failureRecord?]
    | cell n => simp [Sink.given, heard, Sink.outlet]
  | logger enabled =>
    have hwrites : Sink.writes enabled .error = true := by cases enabled <;> rfl
    cases o with
    | lines => simp [Sink.given, hwrites, heard, Sink.outlet, Event.linesOf]
    | records => simp [Sink.given, hwrites, heard, Sink.outlet, Event.failureRecord?, Sink.mark]
    | cell n => simp [Sink.given, hwrites, heard, Sink.outlet]
  | holder cell inner =>
    cases o with
    | lines => simp [Sink.given, heard, Sink.outlet]
    | records => simp [Sink.given, heard, Sink.outlet]
    | cell n =>
      by_cases h : n = cell
      · simp [Sink.given, heard, Sink.outlet, h]
      · simp [Sink.given, heard, Sink.outlet, h]

end Machine

variable {σ : Type} {m n o : Machine σ}

/-- Nothing was undone in between. -/
structure Grows (m m' : Machine σ) : Prop where
  fresh : m.fresh ≤ m'.fresh
  log : m.log <+: m'.log

/-- Nothing was undone, and no sink heard of a failure. -/
structure Quiet (m m' : Machine σ) : Prop extends Grows m m' where
  heard : ∀ o, m.Knows o → m'.heard o = m.heard o

/-- Nothing was undone, and one failure line was heard, at one outlet. -/
structure Told (outlet : Outlet) (text : String) (m m' : Machine σ) : Prop extends Grows m m' where
  heard : ∀ o, m.Knows o → m'.heard o = m.heard o ++ if o = outlet then [text] else []

/-- Nothing happened but notes for debugging. -/
def Noted (m m' : Machine σ) : Prop :=
  ∃ notes, (∀ e ∈ notes, Event.IsNote e) ∧ m' = { m with log := m.log ++ notes }

/-- Nothing happened but notes for debugging and a change of the active token. -/
def Hush (m m' : Machine σ) : Prop :=
  ∃ notes active, (∀ e ∈ notes, Event.IsNote e) ∧
    m' = { m with log := m.log ++ notes, active }

namespace Grows

theorem refl (m : Machine σ) : Grows m m := ⟨Nat.le_refl _, List.prefix_refl _⟩

theorem trans (h : Grows m n) (h' : Grows n o) : Grows m o :=
  ⟨Nat.le_trans h.fresh h'.fresh, h.log.trans h'.log⟩

theorem append (m : Machine σ) (es : List Event) : Grows m { m with log := m.log ++ es } :=
  ⟨Nat.le_refl _, List.prefix_append _ _⟩

/-- What was there stays there. -/
theorem knows (h : Grows m n) {o : Outlet} (ho : m.Knows o) : n.Knows o := by
  cases o with
  | cell k => exact Nat.lt_of_lt_of_le ho h.fresh
  | _ => trivial

theorem given (kind : LineKind) (text : String) (sink : Sink) (m : Machine σ) :
    Grows m (sink.given kind text m) := by
  induction sink with
  | recorder => exact append m _
  | logger enabled =>
    simp only [Sink.given]
    split
    · exact append m _
    · exact refl m
  | holder cell inner ih =>
    simp only [Sink.given]
    split
    · exact ⟨Nat.le_refl _, List.prefix_refl _⟩
    · exact ih

end Grows

namespace Quiet

theorem refl (m : Machine σ) : Quiet m m := ⟨Grows.refl m, fun _ _ => rfl⟩

theorem trans (h : Quiet m n) (h' : Quiet n o) : Quiet m o :=
  ⟨h.toGrows.trans h'.toGrows,
    fun outlet ho => (h'.heard outlet (h.knows ho)).trans (h.heard outlet ho)⟩

theorem append {es : List Event} (h : ∀ e ∈ es, e.tellsFailure = false) (m : Machine σ) :
    Quiet m { m with log := m.log ++ es } :=
  ⟨Grows.append m es, fun outlet _ => Machine.heard_append h m outlet⟩

theorem told (h : Quiet m n) {outlet : Outlet} {text : String} (h' : Told outlet text n o) :
    Told outlet text m o :=
  ⟨h.toGrows.trans h'.toGrows, fun out ho => by rw [h'.heard out (h.knows ho), h.heard out ho]⟩

end Quiet

namespace Told

theorem quiet {outlet : Outlet} {text : String} (h : Told outlet text m n) (h' : Quiet n o) :
    Told outlet text m o :=
  ⟨h.toGrows.trans h'.toGrows, fun out ho => by rw [h'.heard out (h.knows ho), h.heard out ho]⟩

theorem given (sink : Sink) (text : String) (m : Machine σ) :
    Told sink.outlet text m (sink.given .error text m) :=
  ⟨Grows.given .error text sink m, fun out _ => Machine.heard_given sink text m out⟩

end Told

namespace Noted

theorem refl (m : Machine σ) : Noted m m := ⟨[], by simp, by simp⟩

theorem trans (h : Noted m n) (h' : Noted n o) : Noted m o := by
  obtain ⟨notes, hnotes, rfl⟩ := h
  obtain ⟨notes', hnotes', rfl⟩ := h'
  exact ⟨notes ++ notes', List.forall_mem_append.2 ⟨hnotes, hnotes'⟩, by simp⟩

theorem hush (h : Noted m n) : Hush m n := by
  obtain ⟨notes, hnotes, rfl⟩ := h
  exact ⟨notes, m.active, hnotes, rfl⟩

end Noted

namespace Hush

theorem refl (m : Machine σ) : Hush m m := ⟨[], m.active, by simp, by simp⟩

theorem trans (h : Hush m n) (h' : Hush n o) : Hush m o := by
  obtain ⟨notes, active, hnotes, rfl⟩ := h
  obtain ⟨notes', active', hnotes', rfl⟩ := h'
  refine ⟨notes ++ notes', active', ?_, by simp⟩
  intro e he
  rcases List.mem_append.mp he with he | he
  · exact hnotes e he
  · exact hnotes' e he

theorem quiet (h : Hush m n) : Quiet m n := by
  obtain ⟨notes, active, hnotes, rfl⟩ := h
  have hq := Quiet.append (fun e he => Event.silent_of_note (hnotes e he)) m
  exact ⟨⟨hq.fresh, hq.log⟩, fun out ho => hq.heard out ho⟩

end Hush

end BrowserFlow
