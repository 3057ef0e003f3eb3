import BrowserFlow.Proofs.Matching
import BrowserFlow.Steps.Branch

/-!
# Trees that match

Combinators hand on that steps run alike. Where a combinator runs the steps inside it on machines
that depend on the run, they only have to run alike where the two runs come to them: in a list after
what ran before, in a branch after the probe, in a retry at each attempt. From this a tree matches
itself if its callbacks and the caller's own steps do.
-/
namespace BrowserFlow

variable {σ : Type} {around : Surroundings σ} {K : Likeness}

/-- What is asked of the leaves of a tree so that it runs alike in two runs. -/
def Manners.matching (around : Surroundings σ) (K : Likeness) : Manners σ where
  callback := fun f => f.Matches around K
  message := fun f => f.Matches around K
  step := fun s => s.Matches around K s

/-! ### Steps with callbacks -/

namespace Context

theorem matches_withFailure (hK : K.Fits) {c d : Context} (hc : K.Contexts c d)
    (payload step : Value) :
    (c.withFailure payload step : Action σ Context).Matches around K K.Contexts
      (d.withFailure payload step) := by
  refine .ite (by rw [hc.hasFailure]) (fun _ => .pure hc) fun _ => ?_
  refine (Action.Matches.compute _).bind_same fun f => ?_
  exact (Action.Matches.write hK hc.sink _ _).bind_same fun _ => .pure (hc.failed f)

theorem matches_fail (hK : K.Fits) {c d : Context} (hc : K.Contexts c d) (kind : FailureKind)
    (message : String) (step : Option String) :
    (c.fail kind message step : Action σ Context).Matches around K K.Contexts
      (d.fail kind message step) :=
  matches_withFailure hK hc _ _

theorem matches_handOver (hK : K.Fits) {c d : Context} (hc : K.Contexts c d) {α β : Type}
    {action : Callback σ α β} (haction : action.Matches around K) {a b : α} (hab : K.Given a b)
    (step : String) :
    (c.handOver action a step).Matches around K K.Contexts (d.handOver action b step) := by
  refine (Action.Matches.rescue (haction hab)).bind_same fun ended => ?_
  cases ended with
  | ok _ => exact .pure hc
  | error e => exact matches_withFailure hK hc _ _

end Context

namespace Step

theorem matches_require {α : Type} {V : Context → Context → Prop} {argument : Option α}
    {label what : String} {f g : α → Action σ Context}
    (h : ∀ a ∈ argument, (f a).Matches around K V (g a)) :
    (require argument label what >>= f).Matches around K V (require argument label what >>= g) := by
  cases argument with
  | none => exact fun _ _ hm => .raised _ hm
  | some a => simpa [require] using h a rfl

theorem matches_collectionFilter {pick : Option (Callback σ (List Locator) (Option Focus))}
    {name : Option String} (hpick : ∀ f ∈ pick, f.Matches around K) :
    (collectionFilter pick name).Matches around K (collectionFilter pick name) := by
  refine matches_ofBody fun c d _ hc => ?_
  obtain ⟨t, ht, rfl⟩ := hc.elim
  cases pick with
  | none => exact .raise _
  | some pick =>
    refine (Action.Matches.compute (Filter.requireCollection c _)).bind_same fun ls => ?_
    refine Action.Matches.bind_same (hpick pick rfl (.same ls)) fun picked => ?_
    cases picked with
    | none => exact .raise _
    | some f => exact .pure ⟨rfl, ht⟩

theorem matches_assertion {predicate : Option (Callback σ Context Bool)} {message : Message σ}
    (hpredicate : ∀ f ∈ predicate, f.Matches around K)
    (hmessage : ∀ f, message = .computed f → f.Matches around K) :
    (assertion predicate message).Matches around K (assertion predicate message) := by
  refine matches_ofBody fun c d _ hc => matches_require fun f hf => ?_
  refine Action.Matches.bind_same (hpredicate f hf (.context hc)) fun holds => ?_
  refine .ite Iff.rfl (fun _ => .pure hc) fun _ => ?_
  cases message with
  | fixed s => exact .raise _
  | computed f =>
    exact Action.Matches.bind_same (hmessage f rfl (.context hc)) fun text => .raise _

theorem matches_createFailure (hK : K.Fits) {problem : Problem σ}
    (hproblem : ∀ f, problem = .computed f → f.Matches around K) :
    (createFailure problem).Matches around K (createFailure problem) := by
  refine matches_ofBody fun c d _ hc => ?_
  have hpayload : (problem.payload c).Matches around K Eq (problem.payload d) := by
    cases problem with
    | fixed v => exact .same v
    | computed f => exact hproblem f rfl (.context hc)
  refine hpayload.bind_same fun payload => (Action.Matches.compute _).bind_same fun f => ?_
  exact Context.matches_withFailure hK hc _ _

theorem Agrees.executeOption {step step' : Option (Step σ)}
    (h : Option.Rel (Agrees around K) step step') {c d : Context} (hc : K.Contexts c d) :
    (executeOption step c).Matches around K K.Contexts (executeOption step' d) := by
  cases h with
  | none => exact .pure hc
  | some h => exact h hc

end Step

/-! ### Chains -/

namespace Chain

/-- After a first step that runs alike the rest of two lists has to run alike where it is run. -/
theorem runSteps_cons_ends (hK : K.Fits) {s s' : Step σ} {rest rest' : List (Step σ)}
    (hlength : rest.length = rest'.length) {token token' : Option Token} {c d : Context}
    {m n : Machine σ} (hc : K.Contexts c d) (hm : K.Machines m n)
    (hfirst : K.Ends K.Contexts (s.execute c token around m) (s'.execute d token' around n))
    (hrest : c.failure = none → ∀ ⦃c' d' m' n'⦄,
      s.execute c token around m = (.done c', m') →
      s'.execute d token' around n = (.done d', n') → K.Contexts c' d' → K.Machines m' n' →
      K.Ends K.Contexts (runSteps token rest c' around m') (runSteps token' rest' d' around n')) :
    K.Ends K.Contexts (runSteps token (s :: rest) c around m)
      (runSteps token' (s' :: rest') d around n) := by
  by_cases hfailure : c.failure = none
  · have hc' : c.hasFailure = false := Context.hasFailure_of_none hfailure
    have hd' : d.hasFailure = false := hc.hasFailure ▸ hc'
    simp only [runSteps, hc', hd', Bool.false_eq_true, if_false]
    exact hfirst.bind fun {_ _ _ _} h => hrest hfailure h
  · have hc' : c.hasFailure = true := Context.hasFailure_of_ne hfailure
    have hd' : d.hasFailure = true := hc.hasFailure ▸ hc'
    simp only [runSteps, hc', hd', if_true, hlength]
    exact (Action.Matches.record hK _ _ _ _).bind_same (fun _ => .pure hc) hm

theorem matches_runSteps (hK : K.Fits) {steps : List (Step σ)}
    (hsteps : ∀ s ∈ steps, s.Agrees around K s) {c d : Context} (hc : K.Contexts c d) :
    (runSteps none steps c).Matches around K K.Contexts (runSteps none steps d) := by
  induction steps generalizing c d with
  | nil => exact .pure hc
  | cons s rest ih =>
    rw [List.forall_mem_cons] at hsteps
    exact fun m n hm =>
      runSteps_cons_ends hK rfl hc hm (hsteps.1 hc hm) fun _ _ _ _ _ _ _ hc' hm' =>
      ih hsteps.2 hc' hm'

/-- Chains run alike if their steps do, with a token that becomes the active one and is put back. -/
theorem run_ends {steps steps' : List (Step σ)} {token : Option Token} {c d : Context}
    {m n : Machine σ} (hm : K.Machines m n)
    (h : K.Machines (entered token m) (entered token n) →
      K.Ends K.Contexts (runSteps token steps c around (entered token m))
        (runSteps token steps' d around (entered token n))) :
    K.Ends K.Contexts (run ⟨steps⟩ c token around m) (run ⟨steps'⟩ d token around n) := by
  rw [run_run, run_run]
  cases token with
  | none => exact h hm
  | some given =>
    have hends := h (hm.switched (some given))
    have hleft : ∀ {m' n' : Machine σ}, K.Machines m' n' →
        K.Machines (leaving (some given) m m') (leaving (some given) n n') := by
      intro m' n' h'
      rw [leaving, leaving, hm.active]
      exact h'.switched n.active
    dsimp only
    generalize runSteps (some given) steps c around _ = r at hends ⊢
    generalize runSteps (some given) steps' d around _ = r' at hends ⊢
    cases hends with
    | done h hm' => exact .done h (hleft hm')
    | raised e hm' => exact .raised e (hleft hm')
    | endless hm' => exact .endless (hleft hm')

end Chain

/-! ### Branches and loops -/

namespace Step

theorem matches_when {predicate : Option (Callback σ Context Bool)}
    {step otherwise : Option (Step σ)} (hpredicate : ∀ f ∈ predicate, f.Matches around K)
    (hstep : ∀ s ∈ step, s.Agrees around K s)
    (hotherwise : ∀ s ∈ otherwise, s.Agrees around K s) :
    (when predicate step otherwise).Matches around K (when predicate step otherwise) := by
  refine matches_ofBody fun c d _ hc => matches_require fun f hf => matches_require fun s hs => ?_
  refine Action.Matches.bind_same (hpredicate f hf (.context hc)) fun holds => ?_
  refine .ite Iff.rfl (fun _ => hstep s hs hc) fun _ => Agrees.executeOption ?_ hc
  cases otherwise with
  | none => exact .none
  | some s => exact .some (hotherwise s rfl)

/-- What two loops carry: contexts that are alike, after as many iterations. -/
structure LoopAlike (K : Likeness) (state state' : LoopState) : Prop where
  context : K.Contexts state.context state'.context
  iterations : state.iterations = state'.iterations

theorem matches_loopRound (hK : K.Fits) {predicate : Callback σ Context Bool} {body : Step σ}
    {most : Value} (hpredicate : predicate.Matches around K) (hbody : body.Agrees around K body)
    {state state' : LoopState} (h : LoopAlike K state state') :
    (loopRound predicate body most state).Matches around K (RoundAlike (LoopAlike K) K.Contexts)
      (loopRound predicate body most state') := by
  rw [loopRound, loopRound, ← h.iterations]
  refine Action.Matches.bind_same (hpredicate (.context h.context)) fun holds => ?_
  refine .ite Iff.rfl (fun _ => ?_) fun _ => .pure (.ended h.context)
  refine (Action.Matches.compute _).bind_same fun exhausted =>
    .ite Iff.rfl (fun _ => ?_) fun _ => ?_
  · exact (Context.matches_fail hK h.context _ _ _).bind fun hd => .pure (.ended hd)
  · refine (hbody h.context).bind fun {c d} hc => ?_
    refine .ite (by rw [hc.hasFailure]) (fun _ => .pure (.ended hc)) fun _ =>
      .pure (.onward ⟨hc, ?_⟩)
    rw [h.iterations]

theorem matches_repeatWhile (hK : K.Fits) {predicate : Option (Callback σ Context Bool)}
    {step : Option (Step σ)} {most : Value} (hpredicate : ∀ f ∈ predicate, f.Matches around K)
    (hstep : ∀ s ∈ step, s.Agrees around K s) :
    (repeatWhile predicate step most).Matches around K (repeatWhile predicate step most) := by
  refine matches_ofBody fun c d _ hc => matches_require fun f hf => matches_require fun s hs => ?_
  have hrounds : (loopRounds most : Action σ Nat).Matches around K Eq (loopRounds most) := by
    rw [loopRounds]
    split
    · exact .same _
    · exact .same _
    · exact .patience
  refine hrounds.bind_same fun k => ?_
  exact Action.Matches.rounds (fun h => matches_loopRound hK (hpredicate f hf) (hstep s hs) h) k
    ⟨hc, rfl⟩

theorem matches_use (hK : K.Fits) {β : Type} {action : Option (Callback σ Context β)}
    {step : Option (Step σ)} (haction : ∀ f ∈ action, f.Matches around K)
    (hstep : ∀ s ∈ step, s.Agrees around K s) :
    (use action step).Matches around K (use action step) := by
  refine matches_ofBody fun c d _ hc => ?_
  cases action with
  | none => exact Context.matches_fail hK hc _ _ _
  | some action =>
    refine Action.Matches.unlessFailed (Agrees.executeOption ?_ hc) fun c' d' _ hc' => ?_
    · cases step with
      | none => exact .none
      | some s => exact .some (hstep s rfl)
    · exact Context.matches_handOver hK hc' (haction action rfl) (.context hc') "use"

theorem matches_useElement (hK : K.Fits) {β : Type} {action : Option (Callback σ Focus β)}
    {step : Option (Step σ)} (haction : ∀ f ∈ action, f.Matches around K)
    (hstep : ∀ s ∈ step, s.Agrees around K s) :
    (useElement action step).Matches around K (useElement action step) := by
  refine matches_ofBody fun c d _ hc => ?_
  cases action with
  | none => exact Context.matches_fail hK hc _ _ _
  | some action =>
    refine Action.Matches.unlessFailed (Agrees.executeOption ?_ hc) fun c' d' _ hc' => ?_
    · cases step with
      | none => exact .none
      | some s => exact .some (hstep s rfl)
    · have hfocus : d'.focus = c'.focus := by rw [hc'.same]
      rw [hfocus]
      cases c'.focus with
      | none => exact .pure hc'
      | some f => exact Context.matches_handOver hK hc' (haction action rfl) (.same f) "use_element"

end Step

/-! ### Probing and retrying -/

theorem Probe.matches_run (hK : K.Fits) {c d : Context} (hc : K.Contexts c d)
    (label selector shown : String) (timeout : Value) :
    (Probe.run label c selector shown timeout : Action σ Bool).Matches around K Eq
      (Probe.run label d selector shown timeout) := by
  obtain ⟨t, ht, rfl⟩ := hc.elim
  refine (Action.Matches.timeout _ _).bind_same fun wait => ?_
  refine .bind_same (.rescue (.call hK (.waitFor _ wait (.bool true)))) fun waited => ?_
  have hmiss : (do
      c.sink.write .info (miss label shown)
      return false : Action σ Bool).Matches around K Eq do
      t.write .info (miss label shown)
      return false :=
    (Action.Matches.write hK ht _ _).bind_same fun _ => .same false
  cases waited with
  | ok _ => exact .same true
  | error e =>
    refine .ite Iff.rfl (fun _ => ?_) fun _ => hmiss
    refine (Action.Matches.compute _).bind_same fun text => ?_
    exact (Action.Matches.record hK _ _ _ _).bind_same fun _ => hmiss

namespace Step

/-- The two branches have to run alike where the probe leads to them in both runs. -/
theorem ifExists_ends (hK : K.Fits) {selector timeout : Value}
    {onTrue onTrue' onFalse onFalse' : Option (Step σ)} {c d : Context} {m n : Machine σ}
    (hc : K.Contexts c d) (hm : K.Machines m n)
    (hbranch : ∀ {shown found m' n'}, Query.requireSelector selector "if_exists" = .ok shown →
      c.exists shown timeout around m = (.done found, m') →
      d.exists shown timeout around n = (.done found, n') → K.Machines m' n' →
      K.Ends K.Contexts
        ((if found then executeOption onTrue c else executeOption onFalse c) around m')
        ((if found then executeOption onTrue' d else executeOption onFalse' d) around n')) :
    K.Ends K.Answers ((ifExists selector onTrue onFalse timeout).body c around m)
      ((ifExists selector onTrue' onFalse' timeout).body d around n) := by
  refine Likeness.Ends.bind (V := K.Contexts) ?_ fun _ _ hd hm' => .done (.context hd) hm'
  dsimp only
  rcases hselector : Query.requireSelector selector "if_exists" with e | shown
  · exact .raised e hm
  · refine (Probe.matches_run hK hc "exists" shown shown timeout hm).bind
      fun hfound hfound' heq hm' => ?_
    subst heq
    exact hbranch hselector hfound hfound' hm'

end Step

namespace Retry

theorem matches_plan (attempts backoff baseDelayMs : Value) :
    (plan attempts backoff baseDelayMs : Action σ Plan).Matches around K Eq
      (plan attempts backoff baseDelayMs) := by
  rw [plan]
  refine Action.Matches.settings.bind_same fun s =>
    (Action.Matches.compute _).bind_same fun policy => ?_
  exact (Action.Matches.compute _).bind_same fun n => .same _

theorem matches_pause (hK : K.Fits) (p : Plan) (k : Nat) :
    (pause p k : Action σ Unit).Matches around K Eq (pause p k) :=
  (Action.Matches.compute _).bind_same fun _ => .emit hK _

theorem matches_afterMiss (hK : K.Fits) (p : Plan) (remaining : Nat) :
    (afterMiss p remaining : Action σ Unit).Matches around K Eq (afterMiss p remaining) :=
  .ite Iff.rfl (fun _ => matches_pause hK p _) fun _ => .same ()

theorem matches_afterError (hK : K.Fits) (p : Plan) (remaining : Nat) (e : Raised) :
    (afterError p remaining e : Action σ Unit).Matches around K Eq (afterError p remaining e) := by
  refine (Action.Matches.compute _).bind_same fun line => ?_
  refine (Action.Matches.record hK _ _ _ _).bind_same fun _ => ?_
  exact .ite Iff.rfl (fun _ => matches_pause hK p _) fun _ => .same ()

/-- What two attempts have come to: results that are alike, both a success or neither. -/
structure TriedAlike (K : Likeness) (r r' : Context × Bool) : Prop where
  context : K.Contexts r.1 r'.1
  success : r.2 = r'.2

variable {p : Plan} {tried tried' : Action σ (Context × Bool)}

/-- The attempts have to run alike where they are begun. -/
theorem loop_ends (hK : K.Fits) {k : Nat} {last last' : Context} {m n : Machine σ}
    (hm : K.Machines m n) (hlast : K.Contexts last last')
    (htried : ∀ x ∈ begun p tried around k m, ∀ y ∈ begun p tried' around k n,
      K.Machines x y → K.Ends (TriedAlike K) (tried around x) (tried' around y)) :
    K.Ends (TriedAlike K) (loop p tried k last around m) (loop p tried' k last' around n) := by
  induction k generalizing last last' m n with
  | zero => exact .done ⟨hlast, rfl⟩ hm
  | succ k ih =>
    have hfirst := htried m List.mem_cons_self n List.mem_cons_self hm
    -- What is begun later is begun after what follows the first attempt.
    simp only [begun] at htried
    rw [loop_succ, loop_succ]
    generalize tried around m = r, tried' around n = r' at hfirst htried
    cases hfirst with
    | @done a b m' n' hab hm' =>
      obtain ⟨c, ok⟩ := a
      obtain ⟨d, ok'⟩ := b
      obtain ⟨hcd, hok⟩ := hab
      dsimp only at hcd hok
      subst hok
      cases ok with
      | true => exact .done ⟨hcd, rfl⟩ hm'
      | false =>
        refine (matches_afterMiss hK p k hm').bind fun hafter hafter' _ ho => ?_
        refine ih ho hcd fun x hx y hy => htried x ?_ y ?_
        · simp only [hafter]
          exact List.mem_cons_of_mem m hx
        · simp only [hafter']
          exact List.mem_cons_of_mem n hy
    | @raised e m' n' hm' =>
      by_cases he : e.isOrdinary
      · simp only [he, if_true] at htried ⊢
        refine (matches_afterError hK p k e hm').bind fun hafter hafter' _ ho => ?_
        refine ih ho hlast fun x hx y hy => htried x ?_ y ?_
        · simp only [hafter]
          exact List.mem_cons_of_mem m hx
        · simp only [hafter']
          exact List.mem_cons_of_mem n hy
      · simp only [he]
        exact .raised e hm'
    | endless hm' => exact .endless hm'

theorem attempt_ends {body body' : Step σ} {c d : Context} {m n : Machine σ}
    (h : K.Ends K.Contexts (body.execute c none around m) (body'.execute d none around n)) :
    K.Ends (TriedAlike K) (Retry.attempt body c around m) (Retry.attempt body' d around n) :=
  h.bind fun _ _ hc hm => .done ⟨hc, by rw [hc.hasFailure]⟩ hm

/-- Two retries run alike if the steps that they retry do at each attempt. -/
theorem inCell_ends (hK : K.Fits) {body body' : Step σ} {attempts backoff baseDelayMs : Value}
    {c d : Context} {a b : Nat} {m n : Machine σ} (hc : K.Contexts c d)
    (hcell : K.Contexts (c.holding a) (d.holding b)) (hm : K.Machines m n)
    (hbody : ∀ {p : Plan} {m' n' : Machine σ},
      (plan attempts backoff baseDelayMs : Action σ Plan) around m = (.done p, m') →
      (plan attempts backoff baseDelayMs : Action σ Plan) around n = (.done p, n') →
      ∀ x ∈ begun p (Retry.attempt body (c.holding a)) around p.attempts m',
        ∀ y ∈ begun p (Retry.attempt body' (d.holding b)) around p.attempts n',
          K.Machines x y →
          K.Ends K.Contexts (body.execute (c.holding a) none around x)
            (body'.execute (d.holding b) none around y)) :
    K.Ends K.Contexts (inCell body attempts backoff baseDelayMs c a around m)
      (inCell body' attempts backoff baseDelayMs d b around n) := by
  refine (matches_plan _ _ _ hm).bind fun hplan hplan' heq hm' => ?_
  subst heq
  refine (loop_ends hK hm' hcell fun x hx y hy hxy =>
    attempt_ends (hbody hplan hplan' x hx y hy hxy)).bind fun _ _ hlast ho => ?_
  rw [conclude_run, conclude_run]
  refine .done ?_ (ho.concluded hK hc.sink hcell.sink hlast.context.hasFailure)
  obtain ⟨t, -, heq⟩ := hlast.context.elim
  rw [heq]
  exact ⟨rfl, hc.sink⟩

end Retry

theorem Step.retrying_ends (hK : K.Fits) {body body' : Step σ}
    {attempts backoff baseDelayMs : Value} {c d : Context} {m n : Machine σ} (hc : K.Contexts c d)
    (hm : K.Machines m n)
    (hbody : ∀ {p : Retry.Plan} {m' n' : Machine σ},
      (Retry.plan attempts backoff baseDelayMs : Action σ Retry.Plan) around
        { m with fresh := m.fresh + 1 } = (.done p, m') →
      (Retry.plan attempts backoff baseDelayMs : Action σ Retry.Plan) around
        { n with fresh := n.fresh + 1 } = (.done p, n') →
      ∀ x ∈ Retry.begun p (Retry.attempt body (c.holding m.fresh)) around p.attempts m',
        ∀ y ∈ Retry.begun p (Retry.attempt body' (d.holding n.fresh)) around p.attempts n',
          K.Machines x y →
          K.Ends K.Contexts (body.execute (c.holding m.fresh) none around x)
            (body'.execute (d.holding n.fresh) none around y)) :
    K.Ends K.Answers ((body.retrying attempts backoff baseDelayMs).body c around m)
      ((body'.retrying attempts backoff baseDelayMs).body d around n) := by
  rw [Retry.retrying_body, Retry.retrying_body]
  exact (Retry.inCell_ends hK hc (hc.holding hK hm) (hm.renewed hK) hbody).bind
    fun _ _ hd ho => .done (.context hd) ho

/-! ### Trees -/

/-- A tree matches itself if its callbacks and the caller's own steps do, and no item that it reads
tells the two runs apart. -/
theorem Tree.matches (hK : K.Fits) (hlegible : ∀ key, K.Legible key) {retries : Bool}
    {s : Step σ} (h : Tree (.matching around K) retries s) : s.Matches around K s := by
  induction h with
  | own h => exact h
  | atomic h => exact h.matches hK fun key _ => hlegible key
  | collectionFilter hpick => exact Step.matches_collectionFilter hpick
  | assertion hpredicate hmessage => exact Step.matches_assertion hpredicate hmessage
  | createFailure hproblem => exact Step.matches_createFailure hK hproblem
  | chain _ ih =>
    exact Step.matches_ofBody fun c d _ hc =>
      Chain.matches_runSteps hK (fun s hs => (ih s hs).agrees hK) hc
  | when hpredicate _ _ hstep hotherwise =>
    exact Step.matches_when hpredicate (fun s hs => (hstep s hs).agrees hK)
      fun s hs => (hotherwise s hs).agrees hK
  | repeatWhile hpredicate _ hstep =>
    exact Step.matches_repeatWhile hK hpredicate fun s hs => (hstep s hs).agrees hK
  | use haction _ hstep => exact Step.matches_use hK haction fun s hs => (hstep s hs).agrees hK
  | useElement haction _ hstep =>
    exact Step.matches_useElement hK haction fun s hs => (hstep s hs).agrees hK
  | @ifExists _ _ onTrue onFalse _ _ htrue hfalse =>
    refine ⟨rfl, rfl, fun c d _ hc m n hm => Step.ifExists_ends hK hc hm fun _ _ _ hm' => ?_⟩
    refine Action.Matches.ite Iff.rfl (fun _ => Step.Agrees.executeOption ?_ hc)
      (fun _ => Step.Agrees.executeOption ?_ hc) hm'
    · cases onTrue with
      | none => exact .none
      | some s => exact .some ((htrue s rfl).agrees hK)
    · cases onFalse with
      | none => exact .none
      | some s => exact .some ((hfalse s rfl).agrees hK)
  | retrying _ _ ih =>
    refine ⟨rfl, rfl, fun c d _ hc m n hm =>
      Step.retrying_ends hK hc hm fun _ _ x _ y _ hxy => ?_⟩
    exact ih.agrees hK (hc.holding hK hm) hxy

end BrowserFlow
