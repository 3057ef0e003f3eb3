import BrowserFlow.Proofs.Composing
import BrowserFlow.Proofs.Pairing

/-!
# Nesting chains

A chain that is one step of another comes to the same as its steps in its place. The nested chain is
announced by a line of its own, if it is come to, and its steps find the token of the outer chain as
the active one instead of being given it; nothing else sets the two runs apart but notes for
debugging. The runs are compared where nothing is cancelled and where an ordinary error that a body
raises has a text: an error without one is raised again where its failure should be built, which a
nested chain catches as an error of its own.
-/
namespace BrowserFlow

variable {σ : Type}

/-! ### Announcements and notes -/

namespace Event

instance : DecidablePred IsNote
  | .log r => decidable_of_iff (r.logger = "uiflow.chain" ∧ r.level = .debug) <| by
    simp [IsNote]
  | .line .. | .call _ | .command _ | .pause _ | .invoked .. | .note _ | .got _ | .entered =>
    isFalse (by simp [IsNote])

/-- The event tells that a step is about to run. -/
def IsAnnouncement : Event → Prop
  | line kind _ => kind = .step
  | log r => r.logger = Sink.loggerName
  | _ => False

theorem calls_of_announcements {es : List Event} (h : ∀ e ∈ es, e.IsAnnouncement) :
    calls es = [] := by
  refine List.filterMap_eq_nil_iff.2 fun e he => ?_
  have := h e he
  cases e <;> simp_all [IsAnnouncement]

/-- Events without the notes of chains. -/
def unnoted (es : List Event) : List Event := es.filter (¬ ·.IsNote)

theorem unnoted_append (es fs : List Event) : unnoted (es ++ fs) = unnoted es ++ unnoted fs :=
  List.filter_append ..

theorem unnoted_of_notes {es : List Event} (h : ∀ e ∈ es, e.IsNote) : unnoted es = [] :=
  List.filter_eq_nil_iff.2 (by simpa using h)

/-- Neither a call nor a line is a note. -/
theorem calls_unnoted (es : List Event) : calls (unnoted es) = calls es := by
  rw [calls, unnoted, List.filterMap_filter]
  congr 1
  funext e
  cases e <;> simp [IsNote]

theorem linesOf_unnoted (kind : LineKind) (es : List Event) :
    linesOf kind (unnoted es) = linesOf kind es := by
  rw [linesOf, unnoted, List.filterMap_filter, linesOf]
  congr 1
  funext e
  cases e <;> simp [IsNote]

end Event

/-- The machine without the notes of chains. -/
def Machine.unnoted (m : Machine σ) : Machine σ := { m with log := Event.unnoted m.log }

theorem Noted.unnoted_eq {m n : Machine σ} (h : Noted m n) : n.unnoted = m.unnoted := by
  obtain ⟨notes, hnotes, rfl⟩ := h
  simp [Machine.unnoted, Event.unnoted_append, Event.unnoted_of_notes hnotes]

theorem Alike.unnoted_eq {r r' : Outcome Context × Machine σ} (h : Alike r r') :
    r.2.unnoted = r'.2.unnoted := by
  rcases h.machine with heq | ⟨-, o, ho, ho'⟩
  · rw [heq]
  · rw [ho.unnoted_eq, ho'.unnoted_eq]

/-! ### Events that one run has more -/

/-- Two runs came to the same, but for events that the second one has more, and for notes. -/
structure Inserted (extra : List Event) (r r' : Outcome Context × Machine σ) : Prop where
  ending : r'.1 = r.1
  machine : ∃ before after, r.2.unnoted.log = before ++ after ∧
    r'.2.unnoted = { r.2.unnoted with log := before ++ extra ++ after }

namespace Inserted

variable {extra : List Event} {r r' : Outcome Context × Machine σ}

theorem congr {q q' : Outcome Context × Machine σ} (h : Inserted extra q q') (hq : Alike r q)
    (hq' : Alike r' q') : Inserted extra r r' := by
  obtain ⟨hending, before, after, hlog, hmachine⟩ := h
  refine ⟨by rw [hq'.ending, hending, hq.ending], before, after, ?_, ?_⟩
  · rw [hq.unnoted_eq, hlog]
  · rw [hq'.unnoted_eq, hmachine, hq.unnoted_eq]

theorem leaving (h : Inserted extra r r') (token : Option Token) (m : Machine σ) :
    Inserted extra (r.1, Chain.leaving token m r.2) (r'.1, Chain.leaving token m r'.2) := by
  obtain ⟨hending, before, after, hlog, hmachine⟩ := h
  refine ⟨hending, before, after, ?_⟩
  cases token with
  | none => exact ⟨hlog, hmachine⟩
  | some given =>
    exact ⟨hlog, congrArg (fun n : Machine σ => { n with active := m.active }) hmachine⟩

theorem logs (h : Inserted extra r r') :
    ∃ before after, Event.unnoted r.2.log = before ++ after ∧
      Event.unnoted r'.2.log = before ++ extra ++ after := by
  obtain ⟨-, before, after, hlog, hmachine⟩ := h
  exact ⟨before, after, hlog, congrArg Machine.log hmachine⟩

/-- No call is among the events that announce steps. -/
theorem calls (h : Inserted extra r r') (hextra : ∀ e ∈ extra, e.IsAnnouncement) :
    Event.calls r'.2.log = Event.calls r.2.log := by
  obtain ⟨before, after, hlog, hlog'⟩ := h.logs
  rw [← Event.calls_unnoted r'.2.log, ← Event.calls_unnoted r.2.log, hlog, hlog']
  simp [Event.calls_append, Event.calls_of_announcements hextra]

/-- Lines are inserted where the events that tell of them are. -/
theorem lines (h : Inserted extra r r') (kind : LineKind) :
    ∃ before after, Event.linesOf kind r.2.log = before ++ after ∧
      Event.linesOf kind r'.2.log = before ++ Event.linesOf kind extra ++ after := by
  obtain ⟨before, after, hlog, hlog'⟩ := h.logs
  refine ⟨Event.linesOf kind before, Event.linesOf kind after, ?_⟩
  rw [← Event.linesOf_unnoted kind r'.2.log, ← Event.linesOf_unnoted kind r.2.log, hlog, hlog']
  exact ⟨Event.linesOf_append .., by rw [Event.linesOf_append, Event.linesOf_append]⟩

end Inserted

/-! ### Calm runs -/

@[simp] theorem Step.settled_cancelled (s : Step σ) (c : Context) (n : Machine σ)
    (ending : Outcome Answer) :
    (s.settled c n ending).cancelled = n.cancelled := by
  rcases ending with ⟨d | v⟩ | e | _
  · rfl
  · simp [settled]
  · simp only [settled]
    split
    · split
      · simp [noted]
      · rfl
    · rfl
  · rfl

namespace Chain

variable {around : Surroundings σ} {token : Option Token}

end Chain

end BrowserFlow
