import BrowserFlow.Proofs.Acting
import BrowserFlow.Proofs.Attempts
import BrowserFlow.Proofs.Flow

/-!
# Visits

Which steps a run comes to, at every depth, and with which context and on which machine it finds
them. A visit is a step that is about to be executed, on a context without a failure; whether it is
started is another matter. A failure that comes of a visit comes back from the run, unless the visit
was made in an attempt after which there might be another.
-/
namespace BrowserFlow

variable {σ : Type} {M : Manners σ} {picks : Callback σ (List Locator) (Option Focus) → Prop}

/-- A step that is about to be executed, by its flow. -/
structure Visit {σ : Type} (M : Manners σ)
    (picks : Callback σ (List Locator) (Option Focus) → Prop := M.callback) where
  flow : Flow M picks
  token : Option Token
  context : Context
  machine : Machine σ

namespace Visit

/-- What comes of executing the step. -/
def ended (around : Surroundings σ) (v : Visit M picks) : Outcome Context × Machine σ :=
  v.flow.toStep.execute v.context v.token around v.machine

/-- The machine on which the body of the step starts, if the step is started. -/
def begins (v : Visit M picks) : Option (Machine σ) :=
  v.flow.toStep.startOn v.context v.token v.machine

end Visit

/-- The visits of a list of steps that are run one after the other. -/
inductive Leads (around : Surroundings σ) (token : Option Token) :
    List (Flow M picks) → Context → Machine σ → Visit M picks → Prop
  | here {flow : Flow M picks} {rest : List (Flow M picks)} {c : Context} {m : Machine σ}
    (hc : c.failure = none) : Leads around token (flow :: rest) c m ⟨flow, token, c, m⟩
  | onward {flow : Flow M picks} {rest : List (Flow M picks)} {c d : Context} {m n : Machine σ}
    {v : Visit M picks} (hfirst : flow.toStep.execute c token around m = (.done d, n))
    (hrest : Leads around token rest d n v) : Leads around token (flow :: rest) c m v

/-- Rounds that carry on from one state and machine to another, with so many rounds left. -/
inductive Carried {α β : Type} (around : Surroundings σ) (round : α → Action σ (α ⊕ β)) :
    Nat → α → Machine σ → Nat → α → Machine σ → Prop
  | refl {k : Nat} {a : α} {m : Machine σ} : Carried around round k a m k a m
  | onward {k j : Nat} {a b r : α} {m n o : Machine σ}
    (hround : round a around m = (.done (.inl b), n))
    (hrest : Carried around round k b n j r o) : Carried around round (k + 1) a m j r o

/-- The body of a step executes another step before anything else. -/
inductive Step.Finds : Step σ → Step σ → Prop
  | click {selector index timeout : Value} (h : selector.isNone = false) :
    Finds (.click selector index timeout) (.find selector index)
  | doubleClick {selector : Value} (h : selector.isNone = false) :
    Finds (.doubleClick selector) (.find selector)
  | setText {text selector : Value} {s : Step σ} (h : selector.isNone = false)
    (hs : Step.setText text selector = .ok s) : Finds s (.find selector)
  | selectComboText {value selector : Value} (h : selector.isNone = false) :
    Finds (.selectComboText value selector) (.find selector)
  | followLink {selector title timeout : Value} (h : selector.isNone = false)
    (htitle : title.isNone = false) : Finds (.followLink selector title timeout) (.click selector)

/-- The visits that the body of a step makes itself when it is run on a context. The mark is false
for an attempt of a retry that is not the last that may be made. -/
inductive Flow.Runs (around : Surroundings σ) :
    Flow M picks → Context → Machine σ → Bool → Visit M picks → Prop
  | plain {s inner : Step σ} {h : Plain M picks s} {hinner : Plain M picks inner} {c : Context}
    {m : Machine σ} (hfinds : s.Finds inner) :
    Runs around (.plain s h) c m true ⟨.plain inner hinner, none, c, m⟩
  | chain {flows : List (Flow M picks)} {name : Option String} {c : Context} {m : Machine σ}
    {v : Visit M picks} (h : Leads around none flows c m v) :
    Runs around (.chain flows name) c m true v
  | whenTrue {predicate : Callback σ Context Bool} {flow : Flow M picks}
    {otherwise : Option (Flow M picks)} {hpredicate : ∀ f ∈ some predicate, M.callback f}
    {c : Context} {m n : Machine σ} (h : predicate.invoke c around m = (.done true, n)) :
    Runs around (.when (some predicate) (some flow) otherwise hpredicate) c m true
      ⟨flow, none, c, n⟩
  | whenFalse {predicate : Callback σ Context Bool} {flow otherwise : Flow M picks}
    {hpredicate : ∀ f ∈ some predicate, M.callback f} {c : Context} {m n : Machine σ}
    (h : predicate.invoke c around m = (.done false, n)) :
    Runs around (.when (some predicate) (some flow) (some otherwise) hpredicate) c m true
      ⟨otherwise, none, c, n⟩
  | repeatWhile {predicate : Callback σ Context Bool} {flow : Flow M picks} {most : Value}
    {hpredicate : ∀ f ∈ some predicate, M.callback f} {c : Context} {m n o : Machine σ}
    {state : Step.LoopState} {k j : Nat}
    (hrounds : (Step.loopRounds most : Action σ Nat) around m = (.done k, m))
    (hcarried : Carried around (Step.loopRound predicate flow.toStep most) k ⟨c, 0⟩ m (j + 1)
      state n)
    (h : predicate.invoke state.context around n = (.done true, o))
    (hmost : Step.isExhausted most state.iterations = .ok false) :
    Runs around (.repeatWhile (some predicate) (some flow) most hpredicate) c m true
      ⟨flow, none, state.context, o⟩
  | use {β : Type} {action : Callback σ Context β} {flow : Flow M picks}
    {haction : ∀ f ∈ some action, M.callback f} {c : Context} {m : Machine σ} :
    Runs around (.use (some action) (some flow) haction) c m true ⟨flow, none, c, m⟩
  | useElement {β : Type} {action : Callback σ Focus β} {flow : Flow M picks}
    {haction : ∀ f ∈ some action, M.callback f} {c : Context} {m : Machine σ} :
    Runs around (.useElement (some action) (some flow) haction) c m true ⟨flow, none, c, m⟩
  | ifExistsTrue {selector timeout : Value} {shown : String} {flow : Flow M picks}
    {onFalse : Option (Flow M picks)} {c : Context} {m n : Machine σ}
    (hselector : Query.requireSelector selector "if_exists" = .ok shown)
    (h : c.exists shown timeout around m = (.done true, n)) :
    Runs around (.ifExists selector timeout (some flow) onFalse) c m true ⟨flow, none, c, n⟩
  | ifExistsFalse {selector timeout : Value} {shown : String} {flow : Flow M picks}
    {onTrue : Option (Flow M picks)} {c : Context} {m n : Machine σ}
    (hselector : Query.requireSelector selector "if_exists" = .ok shown)
    (h : c.exists shown timeout around m = (.done false, n)) :
    Runs around (.ifExists selector timeout onTrue (some flow)) c m true ⟨flow, none, c, n⟩
  | retrying {flow : Flow M picks} {attempts backoff baseDelayMs : Value} {c : Context}
    {m n x : Machine σ} {p : Retry.Plan} {k : Nat}
    (hplan : Retry.plan attempts backoff baseDelayMs around { m with fresh := m.fresh + 1 } =
      (.done p, n))
    (hx : (Retry.begun p (Retry.attempt flow.toStep (c.holding m.fresh)) around p.attempts
      n)[k]? = some x) :
    Runs around (.retrying flow attempts backoff baseDelayMs) c m (decide (k + 1 = p.attempts))
      ⟨flow, none, c.holding m.fresh, x⟩

/-- The visits that a visit leads to, itself among them; the mark is false for those that are made
in an attempt of a retry that is not the last that may be made. -/
inductive Visit.Reaches (around : Surroundings σ) :
    Visit M picks → Bool → Visit M picks → Prop
  | self (v : Visit M picks) : Reaches around v true v
  | inside {v w x : Visit M picks} {n : Machine σ} {last last' : Bool}
    (hbegins : v.begins = some n) (hruns : v.flow.Runs around v.context n last w)
    (hrest : Reaches around w last' x) : Reaches around v (last && last') x

/-- The visits of a run of a chain. -/
def Chain.Visits (around : Surroundings σ) (flows : List (Flow M picks)) (c : Context)
    (token : Option Token) (m : Machine σ) (last : Bool) (v : Visit M picks) : Prop :=
  ∃ w, Leads around token flows c (entered token m) w ∧ w.Reaches around last v

theorem Leads.token_eq {around : Surroundings σ} {token : Option Token}
    {flows : List (Flow M picks)} {c : Context} {m : Machine σ} {v : Visit M picks}
    (h : Leads around token flows c m v) : v.token = token := by
  induction h with
  | here => rfl
  | onward _ _ ih => exact ih

/-- Inside a step no token is handed on; there the active one counts. -/
theorem Flow.Runs.token_eq {around : Surroundings σ} {flow : Flow M picks} {c : Context}
    {m : Machine σ} {last : Bool} {v : Visit M picks} (h : flow.Runs around c m last v) :
    v.token = none := by
  cases h with
  | chain h => exact h.token_eq
  | _ => rfl

theorem Chain.Visits.token_eq {around : Surroundings σ} {flows : List (Flow M picks)} {c : Context}
    {token : Option Token} {m : Machine σ} {last : Bool} {v : Visit M picks}
    (h : Chain.Visits around flows c token m last v) : v.token = token ∨ v.token = none := by
  obtain ⟨w, hleads, hreaches⟩ := h
  rw [← hleads.token_eq]
  clear hleads
  induction hreaches with
  | self => exact .inl rfl
  | inside _ hruns _ ih => exact .inr (ih.elim (·.trans hruns.token_eq) id)

/-- The run comes back with a context that has this failure. -/
def FailsWith (f : Failure) (r : Outcome Context × Machine σ) : Prop :=
  ∃ d n, r = (.done d, n) ∧ d.failure = some f

variable {around : Surroundings σ} {f : Failure}

theorem FailsWith.of_failure {r : Outcome Context × Machine σ}
    (h : (r.1.result?.bind fun d => d.failure) = some f) : FailsWith f r := by
  rcases r with ⟨d | e | _, n⟩
  · exact ⟨d, n, rfl, h⟩
  · cases h
  · cases h

theorem Step.execute_failsWith {name : String} {args : List (String × Value)}
    {body : Context → Action σ Context} {c : Context} {token : Option Token} {m n : Machine σ}
    (hbegins : (ofBody name args body).startOn c token m = some n)
    (h : FailsWith f (body c around n)) :
    FailsWith f ((ofBody name args body).execute c token around m) := by
  obtain ⟨d, o, hbody, hd⟩ := h
  have hcall : (ofBody name args body).call c around n = (.done (.context d), o) := by
    rw [call_done, ofBody_run, hbody]
  rw [(execute_of_started _ token around m hbegins).2, hcall]
  exact ⟨d, o, rfl, hd⟩

theorem FailsWith.bind_done {α : Type} {p : Action σ α} {g : α → Action σ Context} {a : α}
    {m n : Machine σ} (hp : p around m = (.done a, n)) (h : FailsWith f (g a around n)) :
    FailsWith f ((p >>= g) around m) := by
  rwa [Action.bind_done hp]

/-- A context that has failed is handed on. -/
theorem FailsWith.unlessFailed {p : Action σ Context} {g : Context → Action σ Context}
    {m : Machine σ} (h : FailsWith f (p around m)) :
    FailsWith f ((p >>= fun d => if d.hasFailure then pure d else g d) around m) := by
  obtain ⟨d, n, hp, hd⟩ := h
  refine .bind_done hp ⟨d, n, ?_, hd⟩
  rw [if_pos (Context.hasFailure_of_ne (by simp [hd]))]
  rfl

theorem Leads.unfailed {token : Option Token} {flows : List (Flow M picks)} {c : Context}
    {m : Machine σ} {v : Visit M picks} (h : Leads around token flows c m v) :
    c.failure = none := by
  induction h with
  | here hc => exact hc
  | @onward flow _ c _ m _ _ hfirst _ ih =>
    by_cases hc : c.failure = none
    · exact hc
    · rw [flow.toStep.execute_of_failed token around m hc] at hfirst
      cases hfirst
      exact ih

theorem Leads.visit_unfailed {token : Option Token} {flows : List (Flow M picks)} {c : Context}
    {m : Machine σ} {v : Visit M picks} (h : Leads around token flows c m v) :
    v.context.failure = none := by
  induction h with
  | here hc => exact hc
  | onward _ _ ih => exact ih

/-- What comes after a failure in a list of steps is skipped. -/
theorem Leads.relay {token : Option Token} {flows : List (Flow M picks)} {c : Context}
    {m : Machine σ} {v : Visit M picks} (h : Leads around token flows c m v)
    (hv : FailsWith f (v.ended around)) :
    FailsWith f (Chain.runSteps token (Flow.toSteps flows) c around m) := by
  induction h with
  | here hc =>
    obtain ⟨d, n, hended, hd⟩ := hv
    obtain ⟨o, ho, -⟩ := Chain.runSteps_skips around token
      (by simp [hd] : d.failure ≠ none) (Flow.toSteps _) n
    exact ⟨d, o, by rw [Flow.toSteps, Chain.runSteps_cons hended hc, ho], hd⟩
  | onward hfirst hrest ih =>
    rw [Flow.toSteps, Chain.runSteps_cons hfirst (Leads.onward hfirst hrest).unfailed]
    exact ih hv

/-- What each round that carries on preserves holds of what is carried. -/
theorem Carried.invariant {α β : Type} {round : α → Action σ (α ⊕ β)}
    {I : α → Machine σ → Prop}
    (hround : ∀ {a b m n}, I a m → round a around m = (.done (.inl b), n) → I b n) {k j : Nat}
    {a b : α} {m n : Machine σ} (h : Carried around round k a m j b n) (ha : I a m) : I b n := by
  induction h with
  | refl => exact ha
  | onward hfirst _ ih => exact ih (hround ha hfirst)

theorem Carried.rounds {α β : Type} {round : α → Action σ (α ⊕ β)} {k j : Nat} {a b : α}
    {m n : Machine σ} (h : Carried around round k a m j b n) :
    Action.rounds k round a around m = Action.rounds j round b around n := by
  induction h with
  | refl => rfl
  | onward hround _ ih => rw [Action.rounds_succ, hround]; exact ih

/-- What rounds come to is what the last one of them came to. -/
theorem Carried.of_rounds {α β : Type} {round : α → Action σ (α ⊕ β)} {k : Nat}
    {a : α} {r : β} {m n : Machine σ} (h : Action.rounds k round a around m = (.done r, n)) :
    ∃ j b o, Carried around round k a m (j + 1) b o ∧
      round b around o = (.done (.inr r), n) := by
  induction k generalizing a m with
  | zero => cases h
  | succ k ih =>
    rw [Action.rounds_succ] at h
    rcases hround : round a around m with ⟨⟨b | r'⟩ | e | _, o⟩ <;> rw [hround] at h
    · obtain ⟨j, b', o', hcarried, hlast⟩ := ih h
      exact ⟨j, b', o', .onward hround hcarried, hlast⟩
    · cases h
      exact ⟨k, a, m, .refl, hround⟩
    · cases h
    · cases h

/-- A loop that runs its body once more ends with the failure of that. -/
theorem Step.loopRound_failed {predicate : Callback σ Context Bool} {body : Step σ} {most : Value}
    {state : LoopState} {d : Context} {m n o : Machine σ}
    (h : predicate.invoke state.context around m = (.done true, n))
    (hmost : isExhausted most state.iterations = .ok false)
    (hbody : body.execute state.context none around n = (.done d, o)) (hd : d.failure ≠ none) :
    loopRound predicate body most state around m = (.done (.inr d), o) := by
  rw [loopRound, Action.bind_done h, hmost]
  simp only [if_true]
  rw [Action.bind_done (Action.ofExcept_ok around n false), if_neg (by simp), loopRound.go,
    Action.bind_done hbody, if_pos (Context.hasFailure_of_ne hd)]
  rfl

/-- A loop carries on with what its body gave, unless that has failed. -/
theorem Step.loopRound_onward {predicate : Callback σ Context Bool} {body : Step σ} {most : Value}
    {state next : LoopState} {m o : Machine σ}
    (h : loopRound predicate body most state around m = (.done (.inl next), o)) :
    ∃ n, predicate.invoke state.context around m = (.done true, n) ∧
      isExhausted most state.iterations = .ok false ∧
      body.execute state.context none around n = (.done next.context, o) ∧
      next.context.failure = none := by
  obtain ⟨holds, n, hpredicate, h⟩ := (Action.bind_eq_done around m).1 h
  cases holds with
  | false => cases h
  | true =>
    obtain ⟨exhausted, p, hasked, h⟩ := (Action.bind_eq_done around n).1 h
    obtain ⟨hmost, rfl⟩ := Action.ofExcept_eq_done.1 hasked
    cases exhausted with
    | true =>
      obtain ⟨d, p, -, h⟩ := (Action.bind_eq_done around _).1 h
      cases h
    | false =>
      obtain ⟨d, p, hbody, h⟩ := (Action.bind_eq_done around _).1 h
      by_cases hd : d.hasFailure
      · rw [if_pos hd] at h
        cases h
      · rw [if_neg hd] at h
        cases h
        exact ⟨_, hpredicate, hmost, hbody, by simpa [Context.hasFailure] using hd⟩

/-- A step goes on from what it has found only if that has not failed. -/
theorem Step.Finds.relay {s inner : Step σ} (h : s.Finds inner) {c : Context}
    {token : Option Token} {m n : Machine σ} (hbegins : s.startOn c token m = some n)
    (hinner : FailsWith f (inner.execute c none around n)) :
    FailsWith f (s.execute c token around m) := by
  have hacting : ∀ {selector index : Value} {act : Context → Action σ Context},
      selector.isNone = false → inner = .find selector index →
      FailsWith f (Interact.afterFinding selector index c act around n) := by
    rintro selector index act hselector rfl
    simp only [Interact.afterFinding, hselector]
    exact hinner.unlessFailed
  cases h with
  | click h => exact execute_failsWith hbegins (hacting h rfl)
  | doubleClick h => exact execute_failsWith hbegins (hacting h rfl)
  | setText h hs =>
    obtain ⟨chars, rfl⟩ := Step.setText_ok hs
    exact execute_failsWith hbegins (hacting h rfl)
  | selectComboText h => exact execute_failsWith hbegins (hacting h rfl)
  | followLink h htitle =>
    refine execute_failsWith hbegins ?_
    simp only [requireValue, h, htitle]
    exact hinner.unlessFailed

/-- A body that is run on a context without a failure makes its visits on such contexts. -/
theorem Flow.Runs.visit_unfailed {flow : Flow M picks} {c : Context} {m : Machine σ} {last : Bool}
    {v : Visit M picks} (h : flow.Runs around c m last v) (hc : c.failure = none) :
    v.context.failure = none := by
  cases h with
  | chain h => exact h.visit_unfailed
  | repeatWhile _ hcarried _ _ =>
    refine hcarried.invariant (I := fun state _ => state.context.failure = none) ?_ hc
    intro _ _ _ _ _ hround
    obtain ⟨_, _, _, _, hnext⟩ := Step.loopRound_onward hround
    exact hnext
  | _ => exact hc

theorem Visit.Reaches.visit_unfailed {v w : Visit M picks} {last : Bool}
    (h : v.Reaches around last w) (hv : v.context.failure = none) : w.context.failure = none := by
  induction h with
  | self => exact hv
  | inside _ hruns _ ih => exact ih (hruns.visit_unfailed hv)

theorem Chain.Visits.visit_unfailed {flows : List (Flow M picks)} {c : Context}
    {token : Option Token} {m : Machine σ} {last : Bool} {v : Visit M picks}
    (h : Chain.Visits around flows c token m last v) : v.context.failure = none := by
  obtain ⟨w, hleads, hreaches⟩ := h
  exact hreaches.visit_unfailed hleads.visit_unfailed

/-- A failure that comes of a visit that a body makes comes back from the step, unless there might
be another attempt. -/
theorem Flow.Runs.relay {flow : Flow M picks} {c : Context} {token : Option Token}
    {m n : Machine σ} {v : Visit M picks} (h : flow.Runs around c n true v)
    (hbegins : flow.toStep.startOn c token m = some n) (hv : FailsWith f (v.ended around)) :
    FailsWith f (flow.toStep.execute c token around m) := by
  generalize hlast : true = last at h
  cases h with
  | plain hfinds => exact hfinds.relay hbegins hv
  | chain h =>
    refine Step.execute_failsWith hbegins ?_
    rw [Chain.run_run]
    exact h.relay hv
  | whenTrue h =>
    exact Step.execute_failsWith hbegins (.bind_done rfl (.bind_done rfl (.bind_done h hv)))
  | whenFalse h =>
    exact Step.execute_failsWith hbegins (.bind_done rfl (.bind_done rfl (.bind_done h hv)))
  | repeatWhile hrounds hcarried h hmost =>
    refine Step.execute_failsWith hbegins
      (.bind_done rfl (.bind_done rfl (.bind_done hrounds ?_)))
    obtain ⟨d, o, hended, hd⟩ := hv
    rw [hcarried.rounds, Action.rounds_succ, Step.loopRound_failed h hmost hended (by simp [hd])]
    exact ⟨d, o, rfl, hd⟩
  | use => exact Step.execute_failsWith hbegins hv.unlessFailed
  | useElement => exact Step.execute_failsWith hbegins hv.unlessFailed
  | ifExistsTrue hselector h =>
    refine Step.execute_failsWith hbegins ?_
    rw [hselector]
    exact .bind_done rfl (.bind_done h hv)
  | ifExistsFalse hselector h =>
    refine Step.execute_failsWith hbegins ?_
    rw [hselector]
    exact .bind_done rfl (.bind_done h hv)
  | @retrying flow _ _ _ c _ _ x p k hplan hx =>
    obtain ⟨d, o, hended, hd⟩ := hv
    have hk : p.attempts = k + 1 := (of_decide_eq_true hlast.symm).symm
    have hmiss :
        Retry.attempt flow.toStep (c.holding n.fresh) around x = (.done (d, false), o) := by
      rw [Retry.attempt_run, show flow.toStep.execute _ none around x = _ from hended]
      simp [Context.hasFailure, hd]
    rw [hk] at hx
    obtain ⟨o', hloop⟩ := Retry.loop_of_last_miss p _ around (c.holding n.fresh) hx hmiss
    refine Step.execute_failsWith hbegins (.bind_done (Action.newReference_run ..) ?_)
    refine .bind_done hplan ?_
    rw [Retry.run, hk]
    refine .bind_done hloop ?_
    rw [Retry.conclude_run]
    exact ⟨_, _, rfl, hd⟩

/-- A failure that comes of a visit comes back from the visit that led to it. -/
theorem Visit.Reaches.relay {v w : Visit M picks} (h : v.Reaches around true w)
    (hw : FailsWith f (w.ended around)) : FailsWith f (v.ended around) := by
  generalize hlast : true = last at h
  induction h with
  | self => exact hw
  | @inside _ _ _ _ last last' hbegins hruns _ ih =>
    obtain ⟨rfl, rfl⟩ : last = true ∧ last' = true := by simpa using hlast.symm
    exact hruns.relay hbegins (ih hw rfl)

/-- And it comes back from a chain. -/
theorem Chain.Visits.relay {flows : List (Flow M picks)} {c : Context} {token : Option Token}
    {m : Machine σ} {v : Visit M picks} (h : Chain.Visits around flows c token m true v)
    (hv : FailsWith f (v.ended around)) :
    FailsWith f (Chain.run ⟨Flow.toSteps flows⟩ c token around m) := by
  obtain ⟨w, hleads, hreaches⟩ := h
  obtain ⟨d, n, hrun, hd⟩ := hleads.relay (hreaches.relay hv)
  rw [run_run, hrun]
  exact ⟨d, _, rfl, hd⟩

end BrowserFlow
