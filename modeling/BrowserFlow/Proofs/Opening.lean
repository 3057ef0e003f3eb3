import BrowserFlow.Proofs.Exchanges
import BrowserFlow.Proofs.Recording
import BrowserFlow.Session.Lifetime

/-!
# Opening a session

Everything that starting a session can come to. It can be refused before any browser runs; the
browser may not start; the first page may not open, and then the browser is closed, unless the error
was no ordinary one; the settings may be missing when a sink is chosen by them; and otherwise a
context is handed out. For each of these it is said what was exchanged with the driver, which error
is raised or which session the context is for, and which session log records are tagged with from
then on.
-/
namespace BrowserFlow

/-- The calls that a session is opened and closed with. -/
def Call.isOfLifetime : Call → Bool
  | launch .. | goto .. | close _ => true
  | _ => false

namespace Session

variable {σ : Type}

/-- The error of sessions that tells of another one; an error without a text raises one of its
own. -/
def telling (lead : String) (e : Raised) : Raised :=
  match e.readText with
  | .ok text => .session (lead ++ text)
  | .error e' => e'

/-- What becomes of an error of launching a browser. -/
def launchTrouble (brand : Brand) (e : Raised) : Raised :=
  if e.isOrdinary ∧ e.cls.isSession = false then
    telling ("Failed to launch " ++ brand.word ++ ": ") e
  else e

/-- What is raised when a page was not opened, by how the browser was closed after that. -/
def pageTrouble (url : String) (e : Raised) : Outcome Unit → Raised
  | .raised second =>
    if second.cls.isDriver then
      match second.readText with
      | .ok _ => telling ("Failed to open " ++ url ++ ": ") e
      | .error e' => e'
    else second
  | _ => telling ("Failed to open " ++ url ++ ": ") e

/-- What stops a session from being started before the driver is asked for anything. -/
inductive Refusal (settings : Except Raised Settings) (brand url headless : Value) : Raised → Prop
  | brand {e : Raised} (h : Brand.read brand = .error e) : Refusal settings brand url headless e
  | address {b : Brand} {e : Raised} (hbrand : Brand.read brand = .ok b)
    (h : StartUrl.read url = .error e) : Refusal settings brand url headless e
  | settings {e : Raised} (hheadless : headless.isNone = true) (h : settings = .error e) :
    Refusal settings brand url headless e

/-- What starting a session comes to: what is exchanged with the driver, how it ends, and the tag
that it leaves, from the tag before. -/
inductive Opening (settings : Except Raised Settings) (brand url headless : Value)
    (sink : Option Sink) (tag : Option String) :
    List Exchange → Outcome Context → Option String → Prop
  | hung {k : Call} {xs : List Exchange} {tag' : Option String} (hk : k.isOfLifetime = true)
    (h : ⟨k, .endless⟩ ∈ xs) :
    Opening settings brand url headless sink tag xs .endless tag'
  | refused {e : Raised} (h : Refusal settings brand url headless e) :
    Opening settings brand url headless sink tag [] (.raised e) tag
  | unlaunched {b : Brand} {shown : Value} {e : Raised} :
    Opening settings brand url headless sink tag [⟨.launch (.str b.word) shown, .raised e⟩]
      (.raised (launchTrouble b e)) tag
  | interrupted {b : Brand} {shown address : Value} {s : Session} {e : Raised}
    (he : e.isOrdinary = false) :
    Opening settings brand url headless sink tag
      [⟨.launch (.str b.word) shown, .done s⟩, ⟨.goto s address, .raised e⟩] (.raised e)
      (some s.id)
  | unopened {b : Brand} {shown : Value} {address : String} {s : Session} {e : Raised}
    {r : Outcome Unit} (he : e.isOrdinary = true) (hr : r ≠ .endless) :
    Opening settings brand url headless sink tag
      [⟨.launch (.str b.word) shown, .done s⟩, ⟨.goto s (.str address), .raised e⟩,
        ⟨.close s, r⟩] (.raised (pageTrouble address e r)) (some s.id)
  | unset {b : Brand} {shown address : Value} {s : Session} {e : Raised} (hsink : sink = none)
    (h : settings = .error e) :
    Opening settings brand url headless sink tag
      [⟨.launch (.str b.word) shown, .done s⟩, ⟨.goto s address, .done ()⟩]
        (.raised e) (some s.id)
  | opened {b : Brand} {shown address : Value} {c : Context} :
    Opening settings brand url headless sink tag
      [⟨.launch (.str b.word) shown, .done c.session⟩, ⟨.goto c.session address, .done ()⟩]
      (.done c) (some c.session.id)

variable (around : Surroundings σ) (m : Machine σ)

theorem telling_run {α : Type} (lead : String) (e : Raised) :
    (do Action.raise (.session (lead ++ (← Action.ofExcept e.readText))) : Action σ α)
        around m =
      (.raised (telling lead e), m) := by
  rw [telling]
  rcases e.readText with e' | text <;> rfl

/-- A launch ends as the driver's does, but for what becomes of an error. -/
theorem launch_run (brand : Brand) (headless : Value) :
    launch brand headless around m =
      match Action.call (.launch (.str brand.word) headless) around m with
      | (.done s, n) => (.done s, n)
      | (.raised e, n) => (.raised (launchTrouble brand e), n)
      | (.endless, n) => (.endless, n) := by
  rw [launch, Action.bind_run, Action.rescue_run]
  rcases Action.call (.launch (.str brand.word) headless) around m with ⟨s | e | _, n⟩
  · rfl
  · by_cases he : e.isOrdinary
    · by_cases hs : e.cls.isSession
      · simp only [he, hs, if_true, launchTrouble]
        rfl
      · simp only [he, hs, if_true, launchTrouble]
        exact telling_run around n _ e
    · simp only [he, launchTrouble]
      rfl
  · rfl

/-- The machine after an error of closing the browser was noted, if there was one of the driver. -/
def closingNoted (r : Outcome Unit) (m : Machine σ) : Machine σ :=
  match r with
  | .raised second =>
    if second.cls.isDriver then
      match second.readText with
      | .ok text => { m with log := m.log ++ [.log ⟨.warning, loggerName,
          "Closing browser after failed navigation: " ++ text, m.tag, none⟩] }
      | .error _ => m
    else m
  | _ => m

/-- A page that cannot be opened has the browser closed, unless the error was no ordinary one. -/
theorem openPage_run (session : Session) (url : String) :
    openPage session url around m =
      match Action.call (.goto session (.str url)) around m with
      | (.done _, n) => (.done (), n)
      | (.raised e, n) =>
        if e.isOrdinary then
          match Action.call (.close session) around n with
          | (.endless, o) => (.endless, o)
          | (r, o) => (.raised (pageTrouble url e r), closingNoted r o)
        else (.raised e, n)
      | (.endless, n) => (.endless, n) := by
  rw [openPage, Action.bind_run, Action.rescue_run]
  rcases Action.call (.goto session (.str url)) around m with ⟨_ | e | _, n⟩
  · rfl
  · by_cases he : e.isOrdinary
    · simp only [he, if_true]
      rw [Action.bind_run, Action.attempt_run]
      rcases Action.call (.close session) around n with ⟨_ | second | _, o⟩
      · exact telling_run around o _ e
      · by_cases hd : second.cls.isDriver
        · simp only [hd, if_true, pageTrouble, closingNoted]
          rcases second.readText with e' | text
          · rfl
          · exact telling_run around _ _ e
        · simp only [hd, pageTrouble, closingNoted]
          rfl
      · rfl
    · simp only [he]
      rfl
  · rfl

/-- Handing out the first context, once the page is open. -/
def handOut (session : Session) (sink : Option Sink) : Action σ Context := do
  let items ← Action.newReference
  Action.changeItems items fun _ => .empty
  return { session, items, sink := ← chooseSink sink }

/-- Starting a session once it is settled which browser is started, where and how. -/
def start (brand : Brand) (url : String) (headless : Value) (sink : Option Sink) :
    Action σ Context := do
  Action.record .info loggerName ("Starting " ++ brand.word ++ " session at " ++ url)
    (some (.dict [(.str "headless", headless)]))
  let session ← launch brand headless
  setTag (some session.id)
  openPage session url
  handOut session sink

theorem create_eq (brand url headless : Value) (sink : Option Sink) :
    (create brand url headless sink : Action σ Context) = (do
      let brand ← Action.ofExcept (Brand.read brand)
      let url ← Action.ofExcept (StartUrl.read url)
      let headless ← if headless.isNone then do pure (Value.bool (← Action.settings).headless)
        else pure headless
      start brand url headless sink) := by
  rw [create]
  refine bind_congr fun brand => bind_congr fun url => ?_
  split <;> rfl

variable {around m}

theorem call_tag {k : Call} {r : Outcome k.Reply} {n : Machine σ}
    (h : Action.call k around m = (r, n)) : n.tag = m.tag := by
  have hn := congrArg Machine.tag (Action.call_run around m k)
  rwa [h] at hn

theorem closingNoted_exchanged (r : Outcome Unit) (m : Machine σ) :
    Exchanged around m [] (closingNoted r m) := by
  cases r with
  | raised second =>
    simp only [closingNoted]
    split
    · split
      · exact .emit around (by simp) m
      · exact .refl around m
    · exact .refl around m
  | _ => exact .refl around m

theorem closingNoted_tag (r : Outcome Unit) (m : Machine σ) : (closingNoted r m).tag = m.tag := by
  cases r with
  | raised second =>
    simp only [closingNoted]
    split
    · split <;> rfl
    · rfl
  | _ => rfl

/-- What choosing a sink comes to, and that it leaves the machine alone. -/
theorem chooseSink_run (sink : Option Sink) (around : Surroundings σ) (m : Machine σ) :
    (∃ chosen, chooseSink sink around m = (.done chosen, m)) ∨
      ∃ e, sink = none ∧ around.settings = .error e ∧
        chooseSink sink around m = (.raised e, m) := by
  cases sink with
  | some sink => exact .inl ⟨sink, rfl⟩
  | none =>
    have hsettings := Action.settings_run around m
    rcases h : around.settings with e | s <;> rw [h] at hsettings
    · exact .inr ⟨e, rfl, rfl, Action.bind_raised hsettings _⟩
    · exact .inl ⟨_, Action.bind_done hsettings _⟩

/-- A run from one machine to another comes to the opening of a session. -/
def Opens (around : Surroundings σ) (brand url headless : Value) (sink : Option Sink)
    (m : Machine σ) (r : Outcome Context × Machine σ) : Prop :=
  ∃ xs, Exchanged around m xs r.2 ∧
    Opening around.settings brand url headless sink m.tag xs r.1 r.2.tag

variable {brand url headless : Value} {sink : Option Sink}

theorem Opening.opens {xs : List Exchange} {r : Outcome Context} {tag : Option String}
    {n : Machine σ} (h : Opening around.settings brand url headless sink m.tag xs r tag)
    (hxs : Exchanged around m xs n) (htag : n.tag = tag) :
    Opens around brand url headless sink m (r, n) :=
  ⟨xs, hxs, htag ▸ h⟩

/-- The first context is handed out for its session, unless there is no sink to choose. -/
theorem handOut_run (session : Session) (sink : Option Sink) (around : Surroundings σ)
    (m : Machine σ) :
    ∃ r n, handOut session sink around m = (r, n) ∧
      Exchanged around m [] n ∧ n.tag = m.tag ∧
      ((∃ c, r = .done c ∧ c.session = session) ∨
        ∃ e, r = .raised e ∧ sink = none ∧ around.settings = .error e) := by
  have hitems : ∃ n, handOut session sink around m =
      (do return { session, items := m.fresh, sink := ← chooseSink sink } : Action σ Context)
        around n ∧ n.log = m.log ∧ n.world = m.world ∧ n.tag = m.tag :=
    ⟨_, rfl, rfl, rfl, rfl⟩
  obtain ⟨n, hrun, hlog, hworld, htag⟩ := hitems
  have hstill : Exchanged around m [] n := .still hlog hworld
  rw [hrun]
  rcases chooseSink_run sink around n with
    ⟨chosen, hchosen⟩ | ⟨e, hsink, hsettings, hchosen⟩
  · exact ⟨_, n, Action.bind_done hchosen _, hstill, htag, .inl ⟨_, rfl, rfl⟩⟩
  · exact ⟨_, n, Action.bind_raised hchosen _, hstill, htag,
      .inr ⟨e, rfl, hsink, hsettings⟩⟩

/-- Once the browser runs, records are tagged with its session. -/
theorem launched_opens {b : Brand} {shown : Value} {s : Session} {n : Machine σ}
    (address : String)
    (hlaunched : Exchanged around m [⟨.launch (.str b.word) shown, .done s⟩] n)
    (htag : n.tag = some s.id) :
    Opens around brand url headless sink m
      ((openPage s address >>= fun _ => handOut s sink) around n) := by
  rw [Action.bind_run, openPage_run]
  rcases hgoto : Action.call (.goto s (.str address)) around n with ⟨_ | e | _, o⟩
  all_goals
    have hasked := hlaunched.trans (.of_call hgoto)
    have hotag := (call_tag hgoto).trans htag
  · obtain ⟨r, p, hrun, hstill, hptag, hr⟩ := handOut_run s sink around o
    have hopen := hasked.onward hstill
    dsimp only
    rw [hrun]
    rcases hr with ⟨c, rfl, rfl⟩ | ⟨e, rfl, hsink, hsettings⟩
    · exact Opening.opened.opens hopen (hptag.trans hotag)
    · exact (Opening.unset hsink hsettings).opens hopen (hptag.trans hotag)
  · by_cases he : e.isOrdinary
    · simp only [he, if_true]
      rcases hclose : Action.call (.close s) around o with ⟨_ | second | _, p⟩
      all_goals
        have hclosed := hasked.trans (.of_call hclose)
        have hptag := (call_tag hclose).trans hotag
      · exact (Opening.unopened he (by simp)).opens hclosed hptag
      · exact (Opening.unopened he (by simp)).opens
          (hclosed.onward (closingNoted_exchanged (.raised second) p))
          ((closingNoted_tag (.raised second) p).trans hptag)
      · exact (Opening.hung (k := .close s) rfl (by simp)).opens hclosed rfl
    · simp only [he]
      exact (Opening.interrupted (by simpa using he)).opens hasked hotag
  · exact (Opening.hung (k := .goto s (.str address)) rfl (by simp)).opens hasked rfl

theorem start_opens (b : Brand) (address : String) (shown : Value) (around : Surroundings σ)
    (m : Machine σ) :
    Opens around brand url headless sink m (start b address shown sink around m) := by
  rw [start, Action.bind_done (Action.record_run ..)]
  have hrecord := Exchanged.emit around (m := m) (e := .log ⟨.info, loggerName,
    "Starting " ++ b.word ++ " session at " ++ address, m.tag,
    some (.dict [(.str "headless", shown)])⟩) (by simp)
  generalize hk : ({ m with log := _ } : Machine σ) = k at hrecord
  have htag : k.tag = m.tag := by rw [← hk]
  rw [Action.bind_run, launch_run]
  rcases hlaunch : Action.call (.launch (.str b.word) shown) around k with ⟨s | e | _, n⟩
  all_goals have hlaunched := hrecord.trans (.of_call hlaunch)
  · exact launched_opens address (hlaunched.onward (.still rfl rfl)) rfl
  · exact Opening.unlaunched.opens hlaunched ((call_tag hlaunch).trans htag)
  · exact (Opening.hung (k := .launch (.str b.word) shown) rfl (by simp)).opens hlaunched rfl

/-- Starting a session comes to one of the openings. -/
theorem create_opens (brand url headless : Value) (sink : Option Sink) (around : Surroundings σ)
    (m : Machine σ) :
    Opens around brand url headless sink m (create brand url headless sink around m) := by
  have hrefused : ∀ {e}, Refusal around.settings brand url headless e →
      Opens around brand url headless sink m (.raised e, m) :=
    fun h => (Opening.refused h).opens (.refl around m) rfl
  rw [create_eq]
  rcases hbrand : Brand.read brand with e | b
  · exact hrefused (.brand hbrand)
  · rw [Action.bind_done (Action.ofExcept_ok around m b)]
    rcases hurl : StartUrl.read url with e | address
    · exact hrefused (.address hbrand hurl)
    · rw [Action.bind_done (Action.ofExcept_ok around m address)]
      split
      case isFalse => exact start_opens b address headless around m
      case isTrue hnone =>
        have hsettings := Action.settings_run around m
        rcases hgiven : around.settings with e | given <;> rw [hgiven] at hsettings
        · rw [Action.bind_raised hsettings]
          exact hrefused (.settings hnone hgiven)
        · rw [Action.bind_done hsettings]
          exact start_opens b address (.bool given.headless) around m

/-- Closing a session asks the driver to close it once and drops the tag, whatever comes of it. -/
theorem close_run (c : Context) (around : Surroundings σ) (m : Machine σ) :
    close c around m = match Action.call (.close c.session) around m with
      | (.done _, n) => (.done (), { n with
          tag := none
          log := n.log ++ [.log ⟨.info, loggerName, "Closed session " ++ c.session.id, none,
            none⟩] })
      | (.raised e, n) =>
        (.raised (if e.cls.isDriver then
          telling ("Failed to close session " ++ c.session.id ++ ": ") e else e),
          { n with tag := none })
      | (.endless, n) => (.endless, { n with tag := none }) := by
  have hensured : Action.ensuring (Action.attempt (Action.call (.close c.session)))
      (fun m => { m with tag := none }) around m =
        match Action.call (.close c.session) around m with
        | (.done a, n) => (.done (.ok a), { n with tag := none })
        | (.raised e, n) => (.done (.error e), { n with tag := none })
        | (.endless, n) => (.endless, { n with tag := none }) := by
    simp only [Action.ensuring, Proc.ensuring, Action.attempt_run]
    rcases Action.call (.close c.session) around m with ⟨_ | e | _, n⟩ <;> rfl
  rw [close, Action.bind_run, hensured]
  rcases Action.call (.close c.session) around m with ⟨_ | e | _, n⟩
  · rfl
  · by_cases hd : e.cls.isDriver
    · simp only [hd, if_true]
      exact telling_run around _ _ e
    · simp only [hd]
      rfl
  · rfl

theorem close_exchanged (c : Context) (around : Surroundings σ) (m : Machine σ) :
    ∃ r, Exchanged around m [⟨.close c.session, r⟩] (close c around m).2 ∧
      (close c around m).2.tag = none := by
  rw [close_run]
  rcases hclose : Action.call (.close c.session) around m with ⟨_ | e | _, n⟩
  all_goals have hclosed := Exchanged.of_call hclose
  · exact ⟨_, hclosed.onward (.aside rfl rfl rfl), rfl⟩
  · exact ⟨_, hclosed.onward (.still rfl rfl), rfl⟩
  · exact ⟨_, hclosed.onward (.still rfl rfl), rfl⟩

end Session

/-- A driver that launches a session, opens and closes pages as it is told to, and can do nothing
else. -/
def Driver.staged (goto close : Outcome Unit) : Driver Unit where
  answer := fun
    | .launch .. => pure ⟨"chromium", "s"⟩
    | .goto .. => fun rig => (goto, rig)
    | .close _ => fun rig => (close, rig)
    | _ => Proc.raise (.driver "down")

end BrowserFlow
