import BrowserFlow.Proofs.Work
import BrowserFlow.Steps.Retry

/-!
# Attempts

How a retry goes through its attempts: which attempts are begun, and what comes of them all. An
attempt that raises leaves the result of those before it, so that attempts that all raise leave what
the retry was started with.
-/
namespace BrowserFlow

/-- The context with its failure lines held back. -/
def Context.holding (c : Context) (cell : Nat) : Context := { c with sink := .holder cell c.sink }

namespace Retry

variable {σ β : Type}

/-- What follows an attempt that only missed, with so many attempts to go. -/
def afterMiss (p : Plan) (remaining : Nat) : Action σ Unit :=
  if remaining ≠ 0 ∧ p.policy = .always then pause p (p.attempts - remaining) else pure ()

/-- What follows an attempt that raised an ordinary error. -/
def afterError (p : Plan) (remaining : Nat) (e : Raised) : Action σ Unit := do
  Action.record .warning loggerName (← Action.ofExcept (warning p (p.attempts - remaining) e))
  if remaining ≠ 0 then pause p (p.attempts - remaining)

/-- The machines on which attempts are begun, in their order. -/
def begun (p : Plan) (attempt : Action σ (β × Bool)) (around : Surroundings σ) :
    Nat → Machine σ → List (Machine σ)
  | 0, _ => []
  | remaining + 1, m => m ::
    match attempt around m with
    | (.done (_, false), n) =>
      match afterMiss p remaining around n with
      | (.done _, o) => begun p attempt around remaining o
      | _ => []
    | (.raised e, n) =>
      if e.isOrdinary then
        match afterError p remaining e around n with
        | (.done _, o) => begun p attempt around remaining o
        | _ => []
      else []
    | _ => []

variable (p : Plan) (attempt : Action σ (β × Bool)) (around : Surroundings σ)

theorem loop_succ (remaining : Nat) (last : β) (m : Machine σ) :
    loop p attempt (remaining + 1) last around m = match attempt around m with
      | (.done (r, true), n) => (.done (r, true), n)
      | (.done (r, false), n) =>
        (afterMiss p remaining >>= fun _ => loop p attempt remaining r) around n
      | (.raised e, n) =>
        if e.isOrdinary then
          (afterError p remaining e >>= fun _ => loop p attempt remaining last) around n
        else (.raised e, n)
      | (.endless, n) => (.endless, n) := by
  rw [loop, Action.bind_run, Action.rescue_run]
  rcases attempt around m with ⟨⟨r, _ | _⟩ | e | _, n⟩
  · dsimp only [afterMiss]
    split <;> rfl
  · rfl
  · by_cases he : e.isOrdinary
    · simp only [he, if_true, afterError, bind_assoc]
      by_cases hlast : remaining = 0
      · simp only [hlast, ne_eq, not_true_eq_false, if_false, pure_bind]
      · simp only [hlast, ne_eq, not_false_eq_true, if_true]
    · simp only [he]
      rfl
  · rfl

/-- What a finished loop has come to: the result of the attempt that succeeded, or, after all the
attempts there were, the result of one that missed or, if all of them raised, of what there was
before. -/
theorem loop_done {k : Nat} {last r : β} {ok : Bool} {m n : Machine σ}
    (h : loop p attempt k last around m = (.done (r, ok), n)) :
    (ok = true ∧ ∃ x, (begun p attempt around k m).getLast? = some x ∧
      (attempt around x).1 = .done (r, true)) ∨
    (ok = false ∧ ∃ x ∈ begun p attempt around k m,
      (attempt around x).1 = .done (r, false)) ∨
    (ok = false ∧ r = last ∧ (begun p attempt around k m).length = k ∧
      ∀ x ∈ begun p attempt around k m, ∃ e, (attempt around x).1 = .raised e ∧
        e.isOrdinary = true) := by
  -- A later attempt replaces the result of an earlier one, so what there was before is general.
  induction k generalizing last m with
  | zero =>
    cases h
    exact .inr (.inr ⟨rfl, rfl, rfl, by simp [begun]⟩)
  | succ k ih =>
    rw [loop_succ] at h
    rw [begun]
    rcases ha : attempt around m with ⟨⟨r', _ | _⟩ | e | _, m'⟩ <;> rw [ha] at h
    · obtain ⟨_, o, hmiss, hloop⟩ := (Action.bind_eq_done around m').1 h
      simp only [hmiss]
      rcases ih hloop with ⟨hok, x, hx, hdone⟩ | ⟨hok, x, hx, hdone⟩ | ⟨hok, hr, -, -⟩
      · exact .inl ⟨hok, x, by simp [List.getLast?_cons, hx], hdone⟩
      · exact .inr (.inl ⟨hok, x, List.mem_cons_of_mem m hx, hdone⟩)
      · exact .inr (.inl ⟨hok, m, List.mem_cons_self, by rw [ha, hr]⟩)
    · cases h
      exact .inl ⟨rfl, m, rfl, by rw [ha]⟩
    · by_cases he : e.isOrdinary
      · simp only [he, if_true] at h ⊢
        obtain ⟨_, o, herror, hloop⟩ := (Action.bind_eq_done around m').1 h
        simp only [herror]
        rcases ih hloop with
          ⟨hok, x, hx, hdone⟩ | ⟨hok, x, hx, hdone⟩ | ⟨hok, hr, hlength, hall⟩
        · exact .inl ⟨hok, x, by simp [List.getLast?_cons, hx], hdone⟩
        · exact .inr (.inl ⟨hok, x, List.mem_cons_of_mem m hx, hdone⟩)
        · refine .inr (.inr ⟨hok, hr, by simp [hlength], ?_⟩)
          rw [List.forall_mem_cons]
          exact ⟨⟨e, by rw [ha], he⟩, hall⟩
      · simp only [he] at h
        cases h
    · cases h

/-- An attempt on one machine that did not succeed is followed by another one on the other, with so
many to go. -/
def Onward (remaining : Nat) (m o : Machine σ) : Prop :=
  (∃ r n, attempt around m = (.done (r, false), n) ∧
    afterMiss p remaining around n = (.done (), o)) ∨
  ∃ e n, attempt around m = (.raised e, n) ∧ e.isOrdinary = true ∧
    afterError p remaining e around n = (.done (), o)

/-- After an attempt there is another one, with which the loop goes on, or none. -/
theorem begun_succ (k : Nat) (last : β) (m : Machine σ) :
    begun p attempt around (k + 1) m = [m] ∨ ∃ r o, Onward p attempt around k m o ∧
      begun p attempt around (k + 1) m = m :: begun p attempt around k o ∧
      loop p attempt (k + 1) last around m = loop p attempt k r around o := by
  rw [begun, loop_succ]
  rcases ha : attempt around m with ⟨⟨r, _ | _⟩ | e | _, n⟩
  · rcases hafter : afterMiss p k around n with ⟨_ | e | _, o⟩
    · refine .inr ⟨r, o, .inl ⟨r, n, ha, hafter⟩, by simp only [hafter], ?_⟩
      dsimp only
      rw [Action.bind_done hafter]
    · exact .inl (by simp only [hafter])
    · exact .inl (by simp only [hafter])
  · exact .inl rfl
  · by_cases he : e.isOrdinary
    · simp only [he, if_true]
      rcases hafter : afterError p k e around n with ⟨_ | e' | _, o⟩
      · exact .inr ⟨last, o, .inr ⟨e, n, ha, he, hafter⟩, rfl, Action.bind_done hafter _⟩
      · exact .inl rfl
      · exact .inl rfl
    · exact .inl (by simp only [he]; rfl)
  · exact .inl rfl

/-- The loop ends with the result of the last attempt that there may be, if that missed. -/
theorem loop_of_last_miss {k : Nat} (last : β) {r : β} {m n x : Machine σ}
    (hx : (begun p attempt around (k + 1) m)[k]? = some x)
    (hmiss : attempt around x = (.done (r, false), n)) :
    ∃ o, loop p attempt (k + 1) last around m = (.done (r, false), o) := by
  induction k generalizing last m with
  | zero =>
    rw [begun] at hx
    cases hx
    rw [loop_succ, hmiss]
    exact ⟨n, rfl⟩
  | succ k ih =>
    obtain hlast | ⟨r', o, -, hbegun, hloop⟩ := begun_succ p attempt around (k + 1) last m
    · simp [hlast] at hx
    · rw [hbegun, List.getElem?_cons_succ] at hx
      rw [hloop]
      exact ih r' hx

/-- What a retry of a step does once it has a cell for the failure lines. -/
def inCell (body : Step σ) (attempts backoff baseDelayMs : Value) (c : Context) (cell : Nat) :
    Action σ Context := do
  let plan ← plan attempts backoff baseDelayMs
  let last ← run plan (Retry.attempt body (c.holding cell)) (c.holding cell)
  conclude cell c.sink last.1

theorem attempt_run (body : Step σ) (c : Context) (around : Surroundings σ) (m : Machine σ) :
    Retry.attempt body c around m = match body.execute c none around m with
      | (.done d, n) => (.done (d, !d.hasFailure), n)
      | (.raised e, n) => (.raised e, n)
      | (.endless, n) => (.endless, n) := by
  rw [Retry.attempt, Action.bind_run]
  rcases body.execute c none around m with ⟨d | e | _, n⟩ <;> rfl

/-- The machine after the last line that was held back was given to the sink, if there was a
failure. -/
def concluded (cell : Nat) (sink : Sink) (last : Context) (m : Machine σ) : Machine σ :=
  if last.hasFailure then
    match (m.held cell).getLast? with
    | some line => sink.given .error line m
    | none => m
  else m

/-- No more than the log and the cells of failure lines is changed by it. -/
theorem concluded_frame (cell : Nat) (sink : Sink) (last : Context) (m : Machine σ) :
    ∃ log held, concluded cell sink last m = { m with log, held } := by
  rw [concluded]
  split
  · split
    · exact Sink.given_frame .error _ sink m
    · exact ⟨m.log, m.held, rfl⟩
  · exact ⟨m.log, m.held, rfl⟩

theorem conclude_run (cell : Nat) (sink : Sink) (last : Context) (around : Surroundings σ)
    (m : Machine σ) :
    conclude cell sink last around m = (.done { last with sink }, concluded cell sink last m) := by
  rw [conclude, concluded]
  split
  · rw [Action.bind_done (Action.machine_run ..)]
    cases (m.held cell).getLast? with
    | none => rfl
    | some line => exact Action.bind_done (Sink.write_run .error line sink around m) _
  · rfl

theorem retrying_body (body : Step σ) (attempts backoff baseDelayMs : Value) (c : Context)
    (around : Surroundings σ) (m : Machine σ) :
    (body.retrying attempts backoff baseDelayMs).body c around m =
      (inCell body attempts backoff baseDelayMs c m.fresh >>= fun d =>
        pure (Answer.context d)) around
        { m with fresh := m.fresh + 1 } := rfl

section Keeping

variable {L : Leeway σ} {around : Surroundings σ}

theorem keeps_pause (hL : L.Covers around) (p : Plan) (k : Nat) :
    (pause p k : Action σ Unit).Keeps around L := by
  rw [pause]
  exact (Action.Keeps.compute hL (recordableIn_delay _ _)).bind hL fun _ => .emit hL rfl

theorem keeps_afterMiss (hL : L.Covers around) (p : Plan) (remaining : Nat) :
    (afterMiss p remaining : Action σ Unit).Keeps around L := by
  rw [afterMiss]
  split
  · exact keeps_pause hL p _
  · exact .pure hL ()

theorem keeps_afterError (hL : L.Covers around) (p : Plan) (remaining : Nat) (e : Raised) :
    (afterError p remaining e : Action σ Unit).Keeps around L := by
  rw [afterError]
  refine (Action.Keeps.compute hL (recordableIn_warning _ _ _)).bind hL fun line => ?_
  refine (Action.Keeps.record hL (by decide) _ _ _).bind hL fun _ => ?_
  split
  · exact keeps_pause hL p _
  · exact .pure hL ()

theorem keeps_plan (hL : L.Covers around) (attempts backoff baseDelayMs : Value) :
    (plan attempts backoff baseDelayMs : Action σ Plan).Keeps around L := by
  rw [plan]
  refine (Action.Keeps.settings hL).bind hL fun s => ?_
  refine (Action.Keeps.compute hL (recordableIn_readPolicy backoff s)).bind hL fun policy => ?_
  exact (Action.Keeps.compute hL attempts.recordableIn_toWhole).bind hL fun n => .pure hL _

theorem keeps_loop (hL : L.Covers around) (p : Plan) {attempt : Action σ (β × Bool)}
    (hattempt : attempt.Keeps around L) (k : Nat) (last : β) :
    (loop p attempt k last).Keeps around L := by
  induction k generalizing last with
  | zero => exact .pure hL _
  | succ k ih =>
    intro m
    obtain ⟨hmoves, herrors⟩ := hattempt m
    have hafter : ∀ {p' : Action σ Unit} {rest : Action σ (β × Bool)} {n : Machine σ},
        L.moves m n → p'.Keeps around L → rest.Keeps around L →
        L.moves m ((p' >>= fun _ => rest) around n).2 ∧
          ∀ e, ((p' >>= fun _ => rest) around n).1 = .raised e → L.errors e := by
      intro p' rest n hn hp' hrest
      obtain ⟨hmoves', herrors'⟩ := (hp'.bind hL fun _ => hrest) n
      exact ⟨hL.trans hn hmoves', herrors'⟩
    rw [loop_succ]
    rcases h : attempt around m with ⟨⟨r, _ | _⟩ | e | _, n⟩ <;> rw [h] at hmoves herrors
    · exact hafter hmoves (keeps_afterMiss hL p k) (ih r)
    · exact ⟨hmoves, fun e he => by cases he⟩
    · dsimp only
      split
      · exact hafter hmoves (keeps_afterError hL p k e) (ih last)
      · exact ⟨hmoves, herrors⟩
    · exact ⟨hmoves, fun e he => by cases he⟩

/-- Attempts that keep to the leeway are begun within it. -/
theorem begun_moves (hL : L.Covers around) {p : Plan} {attempt : Action σ (β × Bool)}
    (hattempt : attempt.Keeps around L) (last : β) {k : Nat} {m x : Machine σ}
    (hx : x ∈ begun p attempt around k m) : L.moves m x := by
  induction k generalizing m with
  | zero => simp [begun] at hx
  | succ k ih =>
    have hmoves := (hattempt m).1
    obtain hlast | ⟨-, o, honward, hbegun, -⟩ := begun_succ p attempt around k last m
    · rw [hlast, List.mem_singleton] at hx
      exact hx ▸ hL.refl m
    · rw [hbegun, List.mem_cons] at hx
      rcases hx with rfl | hx
      · exact hL.refl x
      · refine hL.trans (hL.trans hmoves ?_) (ih hx)
        rcases honward with ⟨r, n, ha, hafter⟩ | ⟨e, n, ha, -, hafter⟩
        · simpa [ha, hafter] using (keeps_afterMiss hL p k n).1
        · simpa [ha, hafter] using (keeps_afterError hL p k e n).1

end Keeping

end Retry

end BrowserFlow
