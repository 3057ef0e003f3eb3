import BrowserFlow.Proofs.Composing
import BrowserFlow.Proofs.Faults
import BrowserFlow.Proofs.Finding
import BrowserFlow.Steps.Probe

/-!
# Probing without failing

A probe puts one call to the driver and tells by a boolean whether that went well. A miss is one
line of information for the sink, a hit none. An error that is not of the driver's own family is
written to the log first, with its text; an error that has no text cannot be written there, and that
is the one way in which a probe raises. A branch on a probe that has no step to run hands the
context on as it got it, so a chain does with such a step in it what it does without, unless the
probe raises.
-/
namespace BrowserFlow

variable {σ : Type} {around : Surroundings σ}

/-- An error that a probe can tell of: one of the driver's own, or one that has a text. -/
def Raised.Tellable (e : Raised) : Prop := e.cls.isDriver = true ∨ ∃ text, e.readText = .ok text

namespace Outcome

/-- It ended with a result or with an ordinary error. -/
def Ordinary {α : Type} : Outcome α → Prop
  | .done _ => True
  | .raised e => e.isOrdinary = true
  | .endless => False

/-- What is there for a probe whose wait ended so. -/
def branch {α β : Type} (onHit onMiss : β) : Outcome α → β
  | .done _ => onHit
  | _ => onMiss

end Outcome

/-- The time that a probe waits. -/
def Settings.probeWait (s : Settings) (given : Value) : Value :=
  if given.isNone then .float s.existsTimeout else given

namespace Sink

/-- The sink that the lines of steps and probes reach in the end. -/
def bottom : Sink → Sink
  | holder _ inner => inner.bottom
  | sink => sink

theorem given_bottom {kind : LineKind} (hkind : kind ≠ .error) (line : String) (sink : Sink)
    (m : Machine σ) : sink.given kind line m = sink.bottom.given kind line m := by
  induction sink with
  | holder cell inner ih => rw [given, if_neg hkind, ih, bottom]
  | _ => rfl

end Sink

namespace Probe

/-- What a probe looks for, as it is shown. -/
structure Target where
  strategy : Strategy
  shown : String

namespace Target

def label (p : Target) : String :=
  match p.strategy with
  | .style => "exists"
  | .path => "exists_xpath"

def selector (p : Target) : String :=
  match p.strategy with
  | .style => p.shown
  | .path => Selector.ofPath p.shown

/-- The probe for a target. -/
def probe (p : Target) (c : Context) (timeout : Value) : Action σ Bool :=
  match p.strategy with
  | .style => c.exists p.shown timeout
  | .path => c.existsPath p.shown timeout

/-- The one call that a probe puts to the driver. -/
def call (p : Target) (c : Context) (wait : Value) : Call :=
  .waitFor (c.locate p.selector) wait (.bool true)

def line (p : Target) : String := p.label ++ " [" ++ p.shown ++ "] not found"

theorem probe_eq (p : Target) (c : Context) (timeout : Value) :
    (p.probe c timeout : Action σ Bool) = run p.label c p.selector p.shown timeout := by
  rcases p with ⟨_ | _, shown⟩ <;> rfl

end Target

/-- Between two machines there is nothing but a call, with what the driver sends, and remarks of the
probes in the log. -/
def Waited (around : Surroundings σ) (k : Call) (m n : Machine σ) : Prop :=
  ∃ (sent : List Signal) (remarks : List Event),
    n = { m with
      world := around.driver.worldAfter k m.world
      log := m.log ++ .call k :: sent.map (Action.eventOf m.tag) ++ remarks } ∧
    ∀ e ∈ remarks, ∃ r, e = .log r ∧ r.logger = loggerName ∧ r.level = .warning

namespace Waited

variable {k : Call} {m n : Machine σ}

theorem call (around : Surroundings σ) (k : Call) (m : Machine σ) :
    Waited around k m (Action.call k around m).2 := by
  refine ⟨(around.driver.answer k ⟨m.world, []⟩).2.sent, [], ?_, by simp⟩
  rw [Action.call_run, List.append_nil]
  rfl

theorem remark (h : Waited around k m n) (message : String) (extra : Option Value) :
    Waited around k m { n with
      log := n.log ++ [.log ⟨.warning, loggerName, message, n.tag, extra⟩] } := by
  obtain ⟨sent, remarks, rfl, hremarks⟩ := h
  refine ⟨sent, remarks ++ [.log ⟨.warning, loggerName, message, m.tag, extra⟩],
    by simp, ?_⟩
  intro e he
  rcases List.mem_append.1 he with he | he
  · exact hremarks e he
  · exact ⟨_, List.mem_singleton.1 he, rfl, rfl⟩

/-- No line was written in between. -/
theorem lines (h : Waited around k m n) :
    ∃ es, n.log = m.log ++ es ∧ ∀ kind, Event.linesOf kind es = [] := by
  obtain ⟨sent, remarks, rfl, hremarks⟩ := h
  refine ⟨.call k :: sent.map (Action.eventOf m.tag) ++ remarks, by simp, fun kind => ?_⟩
  have hrest : Event.linesOf kind remarks = [] := by
    refine List.filterMap_eq_nil_iff.2 fun e he => ?_
    obtain ⟨r, rfl, -⟩ := hremarks e he
    rfl
  have hcall : Event.linesOf kind [.call k] = [] := rfl
  rw [← List.singleton_append, Event.linesOf_append, Event.linesOf_append, hcall,
    Event.linesOf_sent, hrest]
  rfl

/-- What a line of information for a sink that records shows of itself. -/
theorem lines_given (h : Waited around k m n) {sink : Sink} (hsink : sink.bottom = .recorder)
    (line : String) :
    ∃ es, (sink.given .info line n).log = m.log ++ es ∧
      ∀ kind, Event.linesOf kind es = if kind = .info then [line] else [] := by
  obtain ⟨es, hlog, hlines⟩ := h.lines
  refine ⟨es ++ [.line .info line], ?_, fun kind => ?_⟩
  · rw [Sink.given_bottom (by decide), hsink, Sink.given, hlog, List.append_assoc]
  · rw [Event.linesOf_append, hlines kind, List.nil_append]
    cases kind <;> rfl

end Waited

section

variable {s : Settings} {p : Target} {c : Context} {given : Value} {m : Machine σ} {e : Raised}

theorem timeout_run (hsettings : around.settings = .ok s) (given : Value) (m : Machine σ) :
    (Action.timeout given Settings.existsTimeout : Action σ Value) around m =
      (.done (s.probeWait given), m) := by
  rw [Action.timeout_run, Settings.probeWait, hsettings]
  by_cases hgiven : given.isNone <;> simp [hgiven, Except.map]

/-- What a probe does after a wait that raised an ordinary error. -/
def Target.missing (p : Target) (c : Context) (e : Raised) : Action σ Bool := do
  if !e.cls.isDriver then
    Action.record .warning loggerName (← Action.ofExcept (trouble p.label p.shown e))
  c.sink.write .info p.line
  return false

/-- What a probe does after its wait. -/
def Target.conclude (p : Target) (c : Context) (ended : Except Raised Unit) : Action σ Bool :=
  match ended with
  | .ok _ => pure true
  | .error e => p.missing c e

theorem probe_run (hsettings : around.settings = .ok s) {x : Except Raised Unit} {n : Machine σ}
    (hwait : Action.rescue (Action.call (p.call c (s.probeWait given))) around m = (.done x, n)) :
    p.probe c given around m = p.conclude c x around n := by
  rw [Target.probe_eq, run, Action.bind_done (timeout_run hsettings given m)]
  refine (Action.bind_done hwait _).trans ?_
  cases x <;> rfl

theorem probe_of_raised (hsettings : around.settings = .ok s)
    (hreply : around.driver.reply (p.call c (s.probeWait given)) m.world = .raised e)
    (he : e.isOrdinary = true) :
    p.probe c given around m =
      p.missing c e around (Action.call (p.call c (s.probeWait given)) around m).2 := by
  have hrescued : Action.rescue (Action.call (p.call c (s.probeWait given))) around m =
      (.done (.error e), (Action.call (p.call c (s.probeWait given)) around m).2) := by
    rw [Action.rescue_run, Action.call_of_reply hreply]
    simp only [he, if_true]
  exact probe_run hsettings hrescued

theorem probe_of_hit (hsettings : around.settings = .ok s)
    (hreply : around.driver.reply (p.call c (s.probeWait given)) m.world = .done ()) :
    p.probe c given around m =
      (.done true, (Action.call (p.call c (s.probeWait given)) around m).2) := by
  have hrescued : Action.rescue (Action.call (p.call c (s.probeWait given))) around m =
      (.done (.ok ()), (Action.call (p.call c (s.probeWait given)) around m).2) := by
    rw [Action.rescue_run, Action.call_of_reply hreply]
  exact probe_run hsettings hrescued

/-- An error that can be told of is a miss, after a remark on it if it is not the driver's own. -/
theorem probe_of_miss (hsettings : around.settings = .ok s)
    (hreply : around.driver.reply (p.call c (s.probeWait given)) m.world = .raised e)
    (he : e.isOrdinary = true) (htellable : e.Tellable) :
    ∃ o, Waited around (p.call c (s.probeWait given)) m o ∧
      p.probe c given around m = (.done false, c.sink.given .info p.line o) := by
  have hwaited := Waited.call around (p.call c (s.probeWait given)) m
  rw [probe_of_raised hsettings hreply he, Target.missing]
  by_cases hdriver : e.cls.isDriver = true
  · refine ⟨_, hwaited, ?_⟩
    simp only [hdriver, Bool.not_true, Bool.false_eq_true, if_false]
    exact Action.bind_done (Sink.write_run ..) _
  · obtain ⟨text, htext⟩ := htellable.resolve_left hdriver
    have htrouble : ∃ warning, trouble p.label p.shown e = .ok warning := by
      rw [trouble, htext]
      exact ⟨_, rfl⟩
    obtain ⟨warning, htrouble⟩ := htrouble
    refine ⟨_, hwaited.remark warning none, ?_⟩
    simp only [hdriver, Bool.not_false, if_true, htrouble]
    rw [Action.bind_done (Action.ofExcept_ok ..), Action.bind_done (Action.record_run ..)]
    exact Action.bind_done (Sink.write_run ..) _

/-- An error without a text cannot be told of. -/
theorem probe_of_mute (hsettings : around.settings = .ok s)
    (hreply : around.driver.reply (p.call c (s.probeWait given)) m.world = .raised e)
    (he : e.isOrdinary = true) (hmute : ¬ e.Tellable) :
    ∃ message, p.probe c given around m =
      (.raised (.typeError message), (Action.call (p.call c (s.probeWait given)) around m).2) := by
  obtain ⟨hdriver, htext⟩ := not_or.1 hmute
  rcases hread : e.readText with e' | text
  · obtain ⟨message, rfl⟩ := Raised.readText_error hread
    have htrouble : trouble p.label p.shown e = .error (.typeError message) := by
      rw [trouble, hread]
      rfl
    refine ⟨message, ?_⟩
    rw [probe_of_raised hsettings hreply he, Target.missing]
    simp only [hdriver, Bool.not_false, if_true, htrouble]
    rfl
  · exact absurd ⟨text, hread⟩ htext

variable (p c given m) in
/-- What comes of a probe that waits so long on a machine. -/
structure Comes (around : Surroundings σ) (wait : Value) : Prop where
  ends : (p.probe c given around m).1 ≠ .endless
  returns_iff : (∃ hit n, p.probe c given around m = (.done hit, n)) ↔
    ∀ e, around.driver.reply (p.call c wait) m.world = .raised e → e.Tellable
  /-- It tells how the wait went, and gives the sink a line for a miss and nothing else. -/
  returned : ∀ hit n, p.probe c given around m = (.done hit, n) →
    (hit = true ↔ around.driver.reply (p.call c wait) m.world = .done ()) ∧
    (∃ o, Waited around (p.call c wait) m o ∧
      n = if hit then o else c.sink.given .info p.line o) ∧
    (c.sink.bottom = .recorder → ∃ es, n.log = m.log ++ es ∧
      ∀ kind, Event.linesOf kind es = if hit = false ∧ kind = .info then [p.line] else [])
  /-- What it raises tells of an error that has no text. -/
  raised : ∀ e n, p.probe c given around m = (.raised e, n) →
    (∃ message, e = .typeError message) ∧ Waited around (p.call c wait) m n

theorem comes (hsettings : around.settings = .ok s)
    (hends : (around.driver.reply (p.call c (s.probeWait given)) m.world).Ordinary) :
    Comes p c given m around (s.probeWait given) := by
  have hwaited := Waited.call around (p.call c (s.probeWait given)) m
  rcases hreply : around.driver.reply (p.call c (s.probeWait given)) m.world with u | e | _
  · have hhit : around.driver.reply (p.call c (s.probeWait given)) m.world = .done () := hreply
    have hrun := probe_of_hit hsettings hhit
    constructor
    · simp [hrun]
    · simp [hrun, hreply]
    · rintro hit n h
      cases hrun.symm.trans h
      obtain ⟨es, hlog, hlines⟩ := hwaited.lines
      exact ⟨by simp [hhit], ⟨_, hwaited, rfl⟩, fun _ => ⟨es, hlog, by simp [hlines]⟩⟩
    · rintro e n h
      cases hrun.symm.trans h
  · rw [hreply] at hends
    by_cases htellable : e.Tellable
    · obtain ⟨o, ho, hrun⟩ := probe_of_miss hsettings hreply hends htellable
      constructor
      · simp [hrun]
      · simp [hrun, hreply, htellable]
      · rintro hit n h
        cases hrun.symm.trans h
        have hrecords : c.sink.bottom = .recorder → _ := fun hsink => ho.lines_given hsink p.line
        exact ⟨by simp [hreply], ⟨o, ho, rfl⟩, by simpa using hrecords⟩
      · rintro e n h
        cases hrun.symm.trans h
    · obtain ⟨message, hrun⟩ := probe_of_mute hsettings hreply hends htellable
      constructor
      · simp [hrun]
      · simp [hrun, hreply, htellable]
      · rintro hit n h
        cases hrun.symm.trans h
      · rintro e n h
        cases hrun.symm.trans h
        exact ⟨⟨message, rfl⟩, hwaited⟩
  · rw [hreply] at hends
    cases hends

end

end Probe

/-! ### A branch with nothing to run -/

namespace Step

variable {s : Settings} {selector : String} {given : Value} {onHit onMiss : Option (Step σ)}
  {d : Context} {token : Option Token} {n : Machine σ}

end Step

end BrowserFlow
