import BrowserFlow.Proofs.Retrying

/-!
# What follows an attempt

A retry tells of each attempt that raised, by a warning with the number of the attempt, and it waits
after an attempt that may be followed by another one, if that is a matter of its policy. Nothing
else happens between one attempt and the next. It can cope with an attempt that answers or raises an
ordinary error with a text, as long as the delay that is due can be worked out. A retry that copes
with all of its attempts makes as many as there may be, or as many as it takes for one to succeed;
any other ends with the attempt that it cannot cope with.
-/
namespace BrowserFlow

namespace Event

/-- The lengths of the delays among events. -/
def pauses (events : List Event) : List Float :=
  events.filterMap fun
    | pause duration => some duration
    | _ => none

theorem pauses_append (events more : List Event) :
    pauses (events ++ more) = pauses events ++ pauses more :=
  List.filterMap_append

end Event

section Telling

variable {σ : Type}

/-- Nothing is waited for while a line is given to a sink. -/
@[simp] theorem Sink.pauses_given (kind : LineKind) (line : String) (sink : Sink) (m : Machine σ) :
    Event.pauses (sink.given kind line m).log = Event.pauses m.log := by
  induction sink with
  | recorder => exact (Event.pauses_append ..).trans (List.append_nil _)
  | logger enabled =>
    rw [given]
    split
    · exact (Event.pauses_append ..).trans (List.append_nil _)
    · rfl
  | holder cell inner ih =>
    rw [given]
    split
    · rfl
    · exact ih

/-- Nothing is waited for after the body of a step. -/
theorem Step.pauses_settled (s : Step σ) (c : Context) (n : Machine σ) (o : Outcome Answer) :
    Event.pauses (s.settled c n o).log = Event.pauses n.log := by
  have hnoted : ∀ e, Event.pauses (s.noted n e).log = Event.pauses n.log := fun e =>
    (Event.pauses_append ..).trans (List.append_nil _)
  rcases o with ⟨d | v⟩ | e | _
  · rfl
  · exact Sink.pauses_given ..
  · rw [settled]
    split
    · split
      · rw [Sink.pauses_given, hnoted]
      · exact hnoted e
    · rfl
  · rfl

theorem Retry.pauses_concluded (cell : Nat) (sink : Sink) (last : Context) (m : Machine σ) :
    Event.pauses (concluded cell sink last m).log = Event.pauses m.log := by
  rw [concluded]
  split
  · split
    · exact Sink.pauses_given ..
    · rfl
  · rfl

end Telling

namespace Retry

variable {σ β : Type}

def succeeded : Outcome (β × Bool) → Bool
  | .done (_, ok) => ok
  | _ => false

theorem succeeded_iff {o : Outcome (β × Bool)} :
    succeeded o = true ↔ ∃ b, o = .done (b, true) := by
  rcases o with ⟨b, _ | _⟩ | e | _ <;> simp [succeeded]

/-- What an attempt leaves as the result so far. -/
def kept (last : β) : Outcome (β × Bool) → β
  | .done (r, _) => r
  | _ => last

namespace Plan

variable (p : Plan) (k : Nat)

/-- Is there a delay after the k-th attempt? There is none after the last and none after one that
succeeded, and after one that only missed it depends on the policy. -/
def due : Outcome (β × Bool) → Bool
  | .done (_, ok) => !ok && k < p.attempts && p.policy = .always
  | .raised _ => k < p.attempts
  | .endless => false

/-- The warning after the k-th attempt, if that raised. -/
def warned (tag : Option String) : Outcome (β × Bool) → List Event
  | .raised e => [.log ⟨.warning, loggerName, "RETRY [" ++ toString k ++ "/" ++
      toString p.attempts ++ "] " ++ e.cls.name ++ ": " ++ e.text, tag, none⟩]
  | _ => []

/-- The delay after the k-th attempt, if there is one. -/
def waited (o : Outcome (β × Bool)) : List Event :=
  if p.due k o then ((delay p.unitMs k).toOption.map Event.pause).toList else []

/-- The machine after what follows the k-th attempt, from how that ended and what it left. -/
def after (o : Outcome (β × Bool)) (n : Machine σ) : Machine σ :=
  { n with log := n.log ++ (p.warned k n.tag o ++ p.waited k o) }

theorem pauses_warned (tag : Option String) (o : Outcome (β × Bool)) :
    Event.pauses (p.warned k tag o) = [] := by
  cases o <;> rfl

/-- Nothing but the delay is waited for. -/
theorem pauses_after (o : Outcome (β × Bool)) (n : Machine σ) :
    Event.pauses (p.after k o n).log = Event.pauses n.log ++ Event.pauses (p.waited k o) := by
  simp only [after, Event.pauses_append, pauses_warned, List.nil_append]

variable {k} in
theorem waited_of_not_due {o : Outcome (β × Bool)} (h : p.due k o = false) :
    p.waited k o = [] := by
  rw [waited, h]
  rfl

theorem waited_of_last (o : Outcome (β × Bool)) : p.waited p.attempts o = [] := by
  refine waited_of_not_due p ?_
  rcases o with ⟨b, ok⟩ | e | _ <;> simp [due]

/-- A retry can cope with how its k-th attempt ended. -/
structure Copes (o : Outcome (β × Bool)) : Prop where
  ends : o ≠ .endless
  caught : ∀ e, o = .raised e → e.isOrdinary = true ∧ ∃ text, e.readText = .ok text
  waits : p.due k o = true → ∃ duration, delay p.unitMs k = .ok duration

variable {p k} in
theorem Copes.pauses_waited {o : Outcome (β × Bool)} (h : p.Copes k o) (hdue : p.due k o = true) :
    ∃ duration, delay p.unitMs k = .ok duration ∧ Event.pauses (p.waited k o) = [duration] := by
  obtain ⟨duration, hduration⟩ := h.waits hdue
  refine ⟨duration, hduration, ?_⟩
  rw [waited, if_pos hdue, hduration]
  rfl

variable {p k} in
theorem copes_of_succeeded {o : Outcome (β × Bool)} (ho : succeeded o = true) : p.Copes k o := by
  obtain ⟨b, rfl⟩ := succeeded_iff.1 ho
  exact ⟨by simp, by simp, by simp [due]⟩

variable {p k} in
theorem after_of_succeeded {o : Outcome (β × Bool)} {n : Machine σ} (ho : succeeded o = true) :
    p.after k o n = n := by
  obtain ⟨b, rfl⟩ := succeeded_iff.1 ho
  simp [after, warned, waited, due]

end Plan

theorem readText_ok {e : Raised} {text : String} (h : e.readText = .ok text) : text = e.text := by
  rw [Raised.readText, Value.readText] at h
  split at h <;> cases h
  rfl

section Attempt

variable (p : Plan) (attempt : Action σ (β × Bool)) (around : Surroundings σ) {k r : Nat}
  (last : β) {m n : Machine σ} {o : Outcome (β × Bool)}

/-- What waits after an attempt, if there is a delay. -/
def pauseAfter (p : Plan) (k : Nat) (o : Outcome (β × Bool)) : Action σ Unit :=
  if p.due k o then pause p k else pure ()

theorem pauseAfter_of_waits
    (h : p.due k o = true → ∃ duration, delay p.unitMs k = .ok duration) :
    (pauseAfter p k o : Action σ Unit) around n =
      (.done (), { n with log := n.log ++ p.waited k o }) := by
  rw [pauseAfter, Plan.waited]
  split
  · obtain ⟨duration, hduration⟩ := h ‹_›
    rw [pause, hduration, Action.bind_done (Action.ofExcept_ok around n duration), Action.emit_run]
    rfl
  · simp

/-- A delay that cannot be worked out is an error, and nothing is waited for. -/
theorem pauseAfter_of_not_waits
    (h : ¬ (p.due k o = true → ∃ duration, delay p.unitMs k = .ok duration)) :
    ∃ e, (pauseAfter p k o : Action σ Unit) around n = (.raised e, n) := by
  obtain ⟨hdue, hdelay⟩ := Classical.not_imp.1 h
  rw [pauseAfter, if_pos hdue, pause]
  cases hd : delay p.unitMs k with
  | ok duration => exact absurd ⟨duration, hd⟩ hdelay
  | error e => exact ⟨e, Action.bind_raised (Action.ofExcept_error around n e) _⟩

theorem afterMiss_eq (hk : k + r = p.attempts) (b : β) :
    (afterMiss p r : Action σ Unit) = pauseAfter p k (.done (b, false)) := by
  obtain rfl : k = p.attempts - r := by omega
  have hlast : p.attempts - r < p.attempts ↔ r ≠ 0 := by omega
  simp [afterMiss, pauseAfter, Plan.due, hlast]

theorem afterError_eq (hk : k + r = p.attempts) (e : Raised) :
    (afterError p r e : Action σ Unit) = (do
      Action.record .warning loggerName (← Action.ofExcept (warning p k e))
      pauseAfter p k (.raised e : Outcome (β × Bool))) := by
  obtain rfl : k = p.attempts - r := by omega
  have hlast : p.attempts - r < p.attempts ↔ r ≠ 0 := by omega
  simp [afterError, pauseAfter, Plan.due, hlast]

variable {p attempt around}

theorem afterMiss_of_copes (hk : k + r = p.attempts) {b : β} (h : p.Copes k (.done (b, false))) :
    afterMiss p r around n = (.done (), p.after k (.done (b, false)) n) := by
  rw [afterMiss_eq p hk b, pauseAfter_of_waits p around h.waits]
  rfl

theorem afterMiss_of_not_copes (hk : k + r = p.attempts) {b : β}
    (h : ¬ p.Copes k (.done (b, false))) : ∃ e, afterMiss p r around n = (.raised e, n) := by
  rw [afterMiss_eq p hk b]
  exact pauseAfter_of_not_waits p around fun hwaits => h ⟨by simp, by simp, hwaits⟩

theorem afterError_of_copes (hk : k + r = p.attempts) {e : Raised}
    (h : p.Copes k (.raised e : Outcome (β × Bool))) :
    afterError p r e around n = (.done (), p.after k (.raised e : Outcome (β × Bool)) n) := by
  obtain ⟨-, text, htext⟩ := h.caught e rfl
  obtain rfl := readText_ok htext
  have hwarning : warning p k e = .ok ("RETRY [" ++ toString k ++ "/" ++ toString p.attempts ++
      "] " ++ e.cls.name ++ ": " ++ e.text) := by
    rw [warning, htext]
    rfl
  rw [afterError_eq (β := β) p hk e, hwarning, Action.bind_done (Action.ofExcept_ok ..),
    Action.bind_done (Action.record_run ..), pauseAfter_of_waits p around h.waits,
    List.append_assoc]
  rfl

/-- Either the error has no text for the warning, or the warning is written and the delay cannot be
worked out. -/
theorem afterError_of_not_copes (hk : k + r = p.attempts) {e : Raised} (ho : e.isOrdinary = true)
    (h : ¬ p.Copes k (.raised e : Outcome (β × Bool))) :
    ∃ e' n', afterError p r e around n = (.raised e', n') ∧
      Event.pauses n'.log = Event.pauses n.log := by
  rw [afterError_eq (β := β) p hk e, warning]
  rcases htext : e.readText with e' | text
  · exact ⟨e', n, rfl, rfl⟩
  · have hwaits : ¬ (p.due k (.raised e : Outcome (β × Bool)) = true →
        ∃ duration, delay p.unitMs k = .ok duration) := by
      refine fun hwaits => h ⟨by simp, fun e' he => ?_, hwaits⟩
      cases he
      exact ⟨ho, text, htext⟩
    obtain ⟨e', he'⟩ := pauseAfter_of_not_waits p around hwaits
    refine ⟨e', _, he', ?_⟩
    rw [Event.pauses_append]
    exact List.append_nil _

/-- After an attempt that did not succeed, and that the retry can cope with, there is another one if
there may be. -/
theorem loop_onward (hk : k + r = p.attempts) (ha : attempt around m = (o, n))
    (ho : succeeded o = false) (h : p.Copes k o) :
    loop p attempt (r + 1) last around m = loop p attempt r (kept last o) around (p.after k o n) ∧
      begun p attempt around (r + 1) m = m :: begun p attempt around r (p.after k o n) := by
  rw [loop_succ, begun, ha]
  rcases o with ⟨b, _ | _⟩ | e | _
  · have hafter : afterMiss p r around n = _ := afterMiss_of_copes hk h
    simp only [hafter, and_true]
    exact Action.bind_done hafter _
  · cases ho
  · have hafter : afterError p r e around n = _ := afterError_of_copes hk h
    simp only [(h.caught e rfl).1, if_true, hafter, and_true]
    exact Action.bind_done hafter _
  · exact absurd rfl h.ends

/-- An attempt that the retry cannot cope with is the last one, and no result comes of it. -/
theorem loop_breaks (hk : k + r = p.attempts) (ha : attempt around m = (o, n))
    (h : ¬ p.Copes k o) :
    (∀ b, (loop p attempt (r + 1) last around m).1 ≠ .done b) ∧
      begun p attempt around (r + 1) m = [m] ∧
      Event.pauses (loop p attempt (r + 1) last around m).2.log = Event.pauses n.log := by
  rw [loop_succ, begun, ha]
  rcases o with ⟨b, _ | _⟩ | e | _
  · obtain ⟨e, hafter⟩ : ∃ e, afterMiss p r around n = (.raised e, n) :=
      afterMiss_of_not_copes hk h
    simp only [hafter]
    rw [Action.bind_raised hafter]
    exact ⟨by simp, trivial, rfl⟩
  · exact absurd (Plan.copes_of_succeeded rfl) h
  · by_cases ho : e.isOrdinary = true
    · obtain ⟨e', n', hafter, hpauses⟩ :
          ∃ e' n', afterError p r e around n = (.raised e', n') ∧
            Event.pauses n'.log = Event.pauses n.log :=
        afterError_of_not_copes hk ho h
      simp only [ho, if_true, hafter]
      rw [Action.bind_raised hafter]
      exact ⟨by simp, trivial, hpauses⟩
    · simp only [ho]
      exact ⟨by simp, rfl, rfl⟩
  · exact ⟨by simp, rfl, rfl⟩

theorem loop_succeeds (ha : attempt around m = (o, n)) (ho : succeeded o = true) :
    loop p attempt (r + 1) last around m = (.done (kept last o, true), n) ∧
      begun p attempt around (r + 1) m = [m] := by
  obtain ⟨b, rfl⟩ := succeeded_iff.1 ho
  rw [loop_succ, begun, ha]
  exact ⟨rfl, rfl⟩

end Attempt

section Course

variable {p : Plan} {attempt : Action σ (β × Bool)} {around : Surroundings σ}

/-- How a retry goes on after so many attempts, from what they have come to: on which machines it
begins attempts, and what comes of it. -/
inductive Tries (p : Plan) (attempt : Action σ (β × Bool)) (around : Surroundings σ) :
    Nat → β → Machine σ → List (Machine σ) → Outcome (β × Bool) × Machine σ → Prop
  | spent {k : Nat} {last : β} {m : Machine σ} (hk : k = p.attempts) :
    Tries p attempt around k last m [] (.done (last, false), m)
  | succeeds {k : Nat} {last : β} {m n : Machine σ} {o : Outcome (β × Bool)}
    (hk : k < p.attempts) (ha : attempt around m = (o, n)) (ho : succeeded o = true) :
    Tries p attempt around k last m [m] (.done (kept last o, true), n)
  | onward {k : Nat} {last : β} {m n : Machine σ} {o : Outcome (β × Bool)}
    {rest : List (Machine σ)} {r : Outcome (β × Bool) × Machine σ} (hk : k < p.attempts)
    (ha : attempt around m = (o, n)) (ho : succeeded o = false) (hcopes : p.Copes (k + 1) o)
    (hrest : Tries p attempt around (k + 1) (kept last o) (p.after (k + 1) o n) rest r) :
    Tries p attempt around k last m (m :: rest) r
  | breaks {k : Nat} {last : β} {m n : Machine σ} {o : Outcome (β × Bool)}
    {r : Outcome (β × Bool) × Machine σ} (hk : k < p.attempts) (ha : attempt around m = (o, n))
    (hcopes : ¬ p.Copes (k + 1) o) (hr : ∀ b, r.1 ≠ .done b)
    (hpauses : Event.pauses r.2.log = Event.pauses n.log) :
    Tries p attempt around k last m [m] r

theorem tries_loop {k j : Nat} {last : β} {m : Machine σ} (hk : k + j = p.attempts) :
    Tries p attempt around k last m (begun p attempt around j m)
      (loop p attempt j last around m) := by
  induction j generalizing k last m with
  | zero => exact .spent hk
  | succ j ih =>
    have hnext : k + 1 + j = p.attempts := by omega
    have hroom : k < p.attempts := by omega
    rcases ha : attempt around m with ⟨o, n⟩
    by_cases ho : succeeded o = true
    · obtain ⟨hloop, hbegun⟩ := loop_succeeds (p := p) (r := j) last ha ho
      rw [hloop, hbegun]
      exact .succeeds hroom ha ho
    rw [Bool.not_eq_true] at ho
    by_cases hcopes : p.Copes (k + 1) o
    · obtain ⟨hloop, hbegun⟩ := loop_onward last hnext ha ho hcopes
      rw [hloop, hbegun]
      exact .onward hroom ha ho hcopes (ih hnext)
    · obtain ⟨hr, hbegun, hpauses⟩ := loop_breaks last hnext ha hcopes
      rw [hbegun]
      exact .breaks hroom ha hcopes hr hpauses

variable {k : Nat} {last : β} {m : Machine σ} {xs : List (Machine σ)}
  {r : Outcome (β × Bool) × Machine σ}

theorem only_attempt {i : Nat} {x : Machine σ} (hx : [m][i]? = some x) : i = 0 ∧ m = x := by
  rwa [List.getElem?_singleton, Option.ite_none_right_eq_some, Option.some.injEq] at hx

theorem Tries.first (h : Tries p attempt around k last m xs r) : (xs ++ [r.2]).head? = some m := by
  cases h with
  | spent => rfl
  | succeeds => rfl
  | onward => rfl
  | breaks => rfl

/-- An attempt is followed by another one exactly if it was not the last that there may be, did not
succeed, and the retry can cope with it. -/
theorem Tries.more_iff (h : Tries p attempt around k last m xs r) {i : Nat} {x : Machine σ}
    (hx : xs[i]? = some x) :
    (∃ y, xs[i + 1]? = some y) ↔ k + i + 1 < p.attempts ∧
      succeeded (attempt around x).1 = false ∧ p.Copes (k + i + 1) (attempt around x).1 := by
  induction h generalizing i with
  | spent => simp at hx
  | succeeds _ ha ho =>
    obtain ⟨rfl, rfl⟩ := only_attempt hx
    simp [ha, ho]
  | @onward k _ _ _ _ _ _ _ ha ho hcopes hrest ih =>
    cases i with
    | zero =>
      cases hx
      rw [ha]
      have hmore : k + 1 < p.attempts → k + 0 + 1 < p.attempts ∧ succeeded _ = false ∧
          p.Copes (k + 0 + 1) _ := fun hk => ⟨hk, ho, hcopes⟩
      cases hrest with
      | spent hk => simp [hk]
      | succeeds hk => exact iff_of_true ⟨_, rfl⟩ (hmore hk)
      | onward hk => exact iff_of_true ⟨_, rfl⟩ (hmore hk)
      | breaks hk => exact iff_of_true ⟨_, rfl⟩ (hmore hk)
    | succ i =>
      rw [Nat.add_right_comm k (i + 1) 1]
      exact ih hx
  | breaks _ ha hcopes =>
    obtain ⟨rfl, rfl⟩ := only_attempt hx
    simp [ha, hcopes]

/-- After an attempt that the retry can cope with no more than the warning and the delay is left
behind, on which the next one or the result follows. -/
theorem Tries.next (h : Tries p attempt around k last m xs r) {i : Nat} {x : Machine σ}
    (hx : xs[i]? = some x) (hcopes : p.Copes (k + i + 1) (attempt around x).1) :
    (xs ++ [r.2])[i + 1]? =
      some (p.after (k + i + 1) (attempt around x).1 (attempt around x).2) := by
  induction h generalizing i with
  | spent => simp at hx
  | succeeds _ ha ho =>
    obtain ⟨rfl, rfl⟩ := only_attempt hx
    rw [ha, Plan.after_of_succeeded ho]
    rfl
  | @onward k _ _ _ _ _ _ _ ha _ _ hrest ih =>
    cases i with
    | zero =>
      cases hx
      rw [ha, List.cons_append, List.getElem?_cons_succ, ← List.head?_eq_getElem?]
      exact hrest.first
    | succ i =>
      rw [Nat.add_right_comm k (i + 1) 1] at hcopes ⊢
      exact ih hx hcopes
  | breaks _ ha hbroken =>
    obtain ⟨rfl, rfl⟩ := only_attempt hx
    rw [ha] at hcopes
    exact absurd hcopes hbroken

/-- A result comes of the attempts exactly when the retry can cope with each of them. -/
theorem Tries.gives_iff (h : Tries p attempt around k last m xs r) :
    (∃ b, r.1 = .done b) ↔
      ∀ i x, xs[i]? = some x → p.Copes (k + i + 1) (attempt around x).1 := by
  induction h with
  | spent => simp
  | succeeds _ ha ho =>
    refine iff_of_true ⟨_, rfl⟩ fun i x hx => ?_
    obtain ⟨rfl, rfl⟩ := only_attempt hx
    rw [ha]
    exact Plan.copes_of_succeeded ho
  | @onward k _ _ _ _ _ _ _ ha _ hcopes _ ih =>
    rw [ih]
    constructor
    · intro hall i x hx
      cases i with
      | zero =>
        cases hx
        rwa [ha]
      | succ i =>
        rw [Nat.add_right_comm k (i + 1) 1]
        exact hall i x hx
    · intro hall i x hx
      rw [Nat.add_right_comm k 1 i]
      exact hall (i + 1) x hx
  | breaks _ ha hbroken hr =>
    refine iff_of_false (fun ⟨b, hb⟩ => hr b hb) fun hall => hbroken ?_
    have hfirst := hall 0 _ rfl
    rwa [ha] at hfirst

/-- A retry that comes to a result makes as many attempts as there may be, or as many as it takes
for one to succeed, and the result tells whether one did. -/
theorem Tries.given (h : Tries p attempt around k last m xs r) {b : β} {ok : Bool}
    (hr : r.1 = .done (b, ok)) :
    xs.length =
        min (p.attempts - k) (xs.findIdx (fun x => succeeded (attempt around x).1) + 1) ∧
      ok = xs.any fun x => succeeded (attempt around x).1 := by
  induction h with
  | spent hk =>
    cases hr
    simp [hk]
  | succeeds hk ha ho =>
    cases hr
    simp only [List.length_singleton, List.findIdx_cons, List.any_cons, ha, ho, cond_true,
      Bool.true_or]
    exact ⟨by omega, trivial⟩
  | onward hk ha ho _ _ ih =>
    obtain ⟨hlength, hok⟩ := ih hr
    simp only [List.length_cons, List.findIdx_cons, List.any_cons, ha, ho, cond_false,
      Bool.false_or]
    exact ⟨by omega, hok⟩
  | breaks _ _ _ hbroken => exact absurd hr (hbroken _)

/-- After the last attempt nothing is waited for. -/
theorem Tries.pauses_eq (h : Tries p attempt around k last m xs r) {x : Machine σ}
    (hx : xs.getLast? = some x) :
    Event.pauses r.2.log = Event.pauses (attempt around x).2.log := by
  induction h with
  | spent => simp at hx
  | succeeds _ ha =>
    cases hx
    rw [List.getLast_singleton, ha]
  | onward _ ha ho _ hrest ih =>
    cases hrest with
    | spent hlast =>
      cases hx
      rw [List.getLast_singleton, ha, Plan.pauses_after, hlast, Plan.waited_of_last]
      exact List.append_nil _
    | succeeds => exact ih hx
    | onward => exact ih hx
    | breaks => exact ih hx
  | breaks _ ha _ _ hpauses =>
    cases hx
    rw [hpauses, List.getLast_singleton, ha]

end Course

end Retry

end BrowserFlow
