import BrowserFlow.Proofs.Opening

/-!
# Errors of starting a session

Starting a session is meant to raise errors of sessions and no others. It does so for every brand
and every address, whatever ordinary errors the driver raises, but for what strays: a brand or an
address that has no text, an address whose host is malformed, an error of the driver that has no
text where its text is wanted, and an error of closing the browser that is neither one of the driver
nor one of sessions.
-/
namespace BrowserFlow

variable {σ : Type}

/-- A driver that gives every call of a session's opening and closing an answer or an ordinary
error. -/
def Driver.Responds (d : Driver σ) : Prop :=
  ∀ k world, k.isOfLifetime = true →
    d.reply k world ≠ .endless ∧ ∀ e, d.reply k world = .raised e → e.isOrdinary = true

theorem Driver.staged_responds {goto close : Outcome Unit} (hgoto : goto ≠ .endless)
    (hgotoError : ∀ e, goto = .raised e → e.leaving.isOrdinary = true)
    (hclose : close ≠ .endless)
    (hcloseError : ∀ e, close = .raised e → e.leaving.isOrdinary = true) :
    (staged goto close).Responds := by
  have hreply : ∀ {α : Type} (r : Outcome α), r ≠ .endless →
      (∀ e, r = .raised e → e.leaving.isOrdinary = true) →
      r.leaving ≠ .endless ∧ ∀ e, r.leaving = .raised e → e.isOrdinary = true := by
    intro α r hr hordinary
    cases r with
    | done a => exact ⟨by simp [Outcome.leaving], by simp [Outcome.leaving]⟩
    | raised e =>
      refine ⟨by simp [Outcome.leaving], fun e' he' => ?_⟩
      cases he'
      exact hordinary e rfl
    | endless => exact absurd rfl hr
  intro k world hk
  cases k with
  | launch => exact hreply (.done (⟨"chromium", "s"⟩ : Session)) (by simp) (by simp)
  | goto => exact hreply goto hgoto hgotoError
  | close => exact hreply close hclose hcloseError
  | _ => cases hk

/-- Every exchange is a call that the driver answered in some world. -/
theorem Exchanged.answered {around : Surroundings σ} {m n : Machine σ} {xs : List Exchange}
    (h : Exchanged around m xs n) {x : Exchange} (hx : x ∈ xs) :
    ∃ world, x.reply = around.driver.reply x.call world := by
  obtain ⟨es, -, rfl, -⟩ := h
  generalize Event.calls es = ks, m.world = world at hx
  induction ks generalizing world with
  | nil => cases hx
  | cons k rest ih =>
    rcases List.mem_cons.1 hx with rfl | hx
    · exact ⟨world, rfl⟩
    · exact ih _ hx

@[simp] theorem Raised.noText_isSession (type : String) :
    (noText type).cls.isSession = false := rfl

/-! ### What is refused before the browser runs -/

theorem Brand.read_error {v : Value} {e : Raised} (h : Brand.read v = .error e) :
    e.cls.isSession = true ↔ ¬ v.Mute := by
  rw [Brand.read] at h
  rcases v.readText_cases with ⟨hmute, type, htext⟩ | ⟨hmute, htext⟩
  · rw [htext] at h
    cases h
    exact iff_of_false (by simp) (not_not_intro hmute)
  · simp only [htext, bind, Except.bind] at h
    split at h
    · cases h
    · cases h
      exact iff_of_true rfl hmute

theorem Brand.not_mute_of_read {v : Value} {b : Brand} (h : Brand.read v = .ok b) : ¬ v.Mute := by
  rw [Brand.read] at h
  rcases v.readText_cases with ⟨-, type, htext⟩ | ⟨hmute, -⟩
  · rw [htext] at h
    cases h
  · exact hmute

namespace StartUrl

/-- An address that is there, and has no text or a malformed host. -/
def Misread (v : Value) : Prop :=
  v.isTrue = true ∧
    (v.Mute ∨ ∃ e, checkHost (host (splitScheme (cleaned v.text)).2) = .error e)

theorem checkNumeric_error {name : String} {e : Raised} (h : checkNumeric name = .error e) :
    e.cls = .foreign "ValueError" := by
  rw [checkNumeric] at h
  split at h
  · split at h <;> cases h
    rfl
  · split at h
    · cases h
    · split at h <;> cases h <;> rfl

theorem checkBracketed_error {h : String} {e : Raised} (hread : checkBracketed h = .error e) :
    e.cls = .foreign "ValueError" := by
  rw [checkBracketed] at hread
  dsimp only at hread
  split at hread
  · exact checkNumeric_error hread
  · exact checkNumeric_error hread
  · split at hread
    · cases hread; rfl
    · exact checkNumeric_error hread

/-- A malformed host is told of by an error of values, which is none of sessions. -/
theorem checkHost_error {h : List Char} {e : Raised} (hread : checkHost h = .error e) :
    e.cls = .foreign "ValueError" := by
  have hlookalike : ∀ {message : String},
      (if (h.any fun c => separatorLookalikes.contains c.toNat)
        then throw (.valueError message) else pure () : Except Raised Unit) = .error e →
      e.cls = .foreign "ValueError" := by
    intro message hlast
    split at hlast <;> cases hlast
    rfl
  simp only [checkHost, bind, Except.bind] at hread
  split at hread
  · cases hread; rfl
  · split at hread
    · rcases hbracketed : checkBracketed (String.ofList h) with e' | _ <;>
        rw [hbracketed] at hread
      · cases hread
        exact checkBracketed_error hbracketed
      · exact hlookalike hread
    · exact hlookalike hread

/-- An address that is refused is refused with an error of sessions, unless it is misread. -/
theorem read_error {v : Value} {e : Raised} (h : read v = .error e) :
    e.cls.isSession = true ↔ ¬ Misread v := by
  rw [read] at h
  split at h
  case isTrue hfalse =>
    cases h
    exact iff_of_true rfl fun hmisread => by simp [hmisread.1] at hfalse
  case isFalse htrue =>
    have htrue : v.isTrue = true := by simpa using htrue
    rcases v.readText_cases with ⟨hmute, type, htext⟩ | ⟨hmute, htext⟩
    · rw [htext] at h
      cases h
      exact iff_of_false (by simp) (not_not_intro ⟨htrue, .inl hmute⟩)
    · simp only [htext, bind, Except.bind] at h
      rcases hhost : checkHost (host (splitScheme (cleaned v.text)).2) with e' | _
      · rw [hhost] at h
        cases h
        exact iff_of_false (by simp [checkHost_error hhost, ErrorClass.isSession])
          (not_not_intro ⟨htrue, .inr ⟨e, hhost⟩⟩)
      · simp only [hhost] at h
        have hwell : ¬ Misread v := by
          rintro ⟨-, hmisread | ⟨e', he'⟩⟩
          · exact hmute hmisread
          · rw [hhost] at he'
            cases he'
        split at h
        · cases h
        · cases h
          exact iff_of_true rfl hwell

end StartUrl

namespace Session

/-! ### What the driver raises -/

theorem telling_isSession (lead : String) (e : Raised) :
    (telling lead e).cls.isSession = true ↔ ¬ e.toValue.Mute := by
  rw [telling, Raised.readText]
  rcases e.toValue.readText_cases with ⟨hmute, type, htext⟩ | ⟨hmute, htext⟩
  · rw [htext]
    exact iff_of_false (by simp) (not_not_intro hmute)
  · rw [htext]
    exact iff_of_true rfl hmute

theorem launchTrouble_isSession (brand : Brand) {e : Raised} (he : e.isOrdinary = true) :
    (launchTrouble brand e).cls.isSession = true ↔
      ¬ (e.cls.isSession = false ∧ e.toValue.Mute) := by
  rw [launchTrouble]
  by_cases hs : e.cls.isSession = true
  · simp [hs]
  · have hs : e.cls.isSession = false := by simpa using hs
    simp [he, hs, telling_isSession]

/-- What makes starting a session raise an error that is none of sessions, by what it was given and
what was exchanged with the driver. -/
inductive Strays (brand url : Value) : List Exchange → Prop
  | brand (h : brand.Mute) : Strays brand url []
  | address {b : Brand} (hbrand : Brand.read brand = .ok b) (h : StartUrl.Misread url) :
    Strays brand url []
  | launching {name headless : Value} {e : Raised} (hcls : e.cls.isSession = false)
    (h : e.toValue.Mute) : Strays brand url [⟨.launch name headless, .raised e⟩]
  | opening {x : Exchange} {s : Session} {address : Value} {e : Raised} {r : Outcome Unit}
    (hr : ∀ second, r = .raised second → second.cls.isDriver = true ∧ ¬ second.toValue.Mute)
    (h : e.toValue.Mute) :
    Strays brand url [x, ⟨.goto s address, .raised e⟩, ⟨.close s, r⟩]
  | closing {x y : Exchange} {s : Session} {second : Raised}
    (hcls : second.cls.isSession = false)
    (h : second.cls.isDriver = true → second.toValue.Mute) :
    Strays brand url [x, y, ⟨.close s, .raised second⟩]

theorem pageTrouble_of_closed (address : String) (e : Raised) {r : Outcome Unit}
    (hr : ∀ second, r = .raised second →
      second.cls.isDriver = true ∧ ¬ second.toValue.Mute) :
    pageTrouble address e r = telling ("Failed to open " ++ address ++ ": ") e := by
  cases r with
  | raised second =>
    obtain ⟨hdriver, hmute⟩ := hr second rfl
    rcases second.toValue.readText_cases with ⟨hmute', -⟩ | ⟨-, htext⟩
    · exact absurd hmute' hmute
    · simp only [pageTrouble, Raised.readText, hdriver, htext, if_true]
  | _ => rfl

theorem pageTrouble_of_unclosed (address : String) (e : Raised) {second : Raised}
    (hcls : second.cls.isSession = false)
    (h : second.cls.isDriver = true → second.toValue.Mute) :
    (pageTrouble address e (.raised second)).cls.isSession = false := by
  by_cases hdriver : second.cls.isDriver = true
  · rcases second.toValue.readText_cases with ⟨-, type, htext⟩ | ⟨hmute, -⟩
    · simp [pageTrouble, Raised.readText, hdriver, htext]
    · exact absurd (h hdriver) hmute
  · simpa [pageTrouble, hdriver] using hcls

/-- A page that is not opened is told of by an error of sessions, unless an error strays. -/
theorem pageTrouble_isSession {brand url : Value} (address : String) {x : Exchange} {s : Session}
    {e : Raised} {r : Outcome Unit} :
    (pageTrouble address e r).cls.isSession = true ↔
      ¬ Strays brand url [x, ⟨.goto s (.str address), .raised e⟩, ⟨.close s, r⟩] := by
  have htelling := telling_isSession ("Failed to open " ++ address ++ ": ") e
  by_cases hr : ∀ second, r = .raised second →
      second.cls.isDriver = true ∧ ¬ second.toValue.Mute
  · -- Closing the browser went well, or its error was only noted.
    rw [pageTrouble_of_closed address e hr, htelling]
    refine not_congr ⟨fun hmute => .opening hr hmute, fun hstrays => ?_⟩
    cases hstrays with
    | opening _ hmute => exact hmute
    | closing hcls hmute =>
      obtain ⟨hdriver, htext⟩ := hr _ rfl
      exact absurd (hmute hdriver) htext
  · simp only [Classical.not_forall] at hr
    obtain ⟨second, rfl, hsecond⟩ := hr
    have hmute : second.cls.isDriver = true → second.toValue.Mute := fun hdriver =>
      Classical.not_not.1 fun htext => hsecond ⟨hdriver, htext⟩
    by_cases hcls : second.cls.isSession = true
    · have hdriver : second.cls.isDriver = false := by
        cases h : second.cls <;> simp_all [ErrorClass.isSession, ErrorClass.isDriver]
      refine iff_of_true (by simpa [pageTrouble, hdriver] using hcls) fun hstrays => ?_
      cases hstrays with
      | opening hr _ => exact hsecond (hr second rfl)
      | closing hnone _ => simp [hnone] at hcls
    · have hcls : second.cls.isSession = false := by simpa using hcls
      exact iff_of_false (by simp [pageTrouble_of_unclosed address e hcls hmute])
        (not_not_intro (.closing hcls hmute))

/-- A refusal is an error of sessions, unless the brand or the address strays. -/
theorem Refusal.isSession {settings : Settings} {brand url headless : Value} {e : Raised}
    (h : Refusal (.ok settings) brand url headless e) :
    e.cls.isSession = true ↔ ¬ Strays brand url [] := by
  cases h with
  | brand h =>
    rw [Brand.read_error h]
    refine not_congr ⟨fun hmute => .brand hmute, fun hstrays => ?_⟩
    cases hstrays with
    | brand hmute => exact hmute
    | address hbrand _ => rw [h] at hbrand; cases hbrand
  | address hbrand h =>
    rw [StartUrl.read_error h]
    refine not_congr ⟨fun hmisread => .address hbrand hmisread, fun hstrays => ?_⟩
    cases hstrays with
    | brand hmute => exact absurd hmute (Brand.not_mute_of_read hbrand)
    | address _ hmisread => exact hmisread
  | settings _ h => cases h

/-- With settings that are valid, and with whatever answers and ordinary errors of the driver,
starting a session gives a context or raises an error, and the error is one of sessions unless the
brand, the address or an error of the driver strays. -/
theorem create_raises_session (brand url headless : Value) (sink : Option Sink)
    {around : Surroundings σ} {settings : Settings} (hsettings : around.settings = .ok settings)
    (hdriver : around.driver.Responds) (m : Machine σ) :
    (∃ c, (create brand url headless sink around m).1 = .done c) ∨
      ∃ e xs, (create brand url headless sink around m).1 = .raised e ∧
        Exchanged around m xs (create brand url headless sink around m).2 ∧
        (e.cls.isSession = true ↔ ¬ Strays brand url xs) := by
  obtain ⟨xs, hxs, hopening⟩ := create_opens brand url headless sink around m
  have hordinary : ∀ {k : Call} {e : Raised},
      ⟨k, .raised e⟩ ∈ xs → k.isOfLifetime = true → e.isOrdinary = true := by
    intro k e hmem hk
    obtain ⟨world, hreply⟩ := hxs.answered hmem
    exact (hdriver k world hk).2 e hreply.symm
  generalize (create brand url headless sink around m).2.tag = tag' at hopening
  generalize (create brand url headless sink around m).1 = r at hopening
  cases hopening with
  | hung hk hmem =>
    obtain ⟨world, hreply⟩ := hxs.answered hmem
    exact absurd hreply.symm (hdriver _ world hk).1
  | refused h =>
    rw [hsettings] at h
    exact .inr ⟨_, [], rfl, hxs, h.isSession⟩
  | unlaunched =>
    refine .inr ⟨_, _, rfl, hxs, ?_⟩
    rw [launchTrouble_isSession _ (hordinary (List.mem_singleton.2 rfl) rfl)]
    refine not_congr ⟨fun ⟨hcls, hmute⟩ => .launching hcls hmute, fun hstrays => ?_⟩
    cases hstrays with
    | launching hcls hmute => exact ⟨hcls, hmute⟩
  | interrupted he =>
    have hraised := hordinary (List.mem_cons_of_mem _ (List.mem_singleton.2 rfl)) rfl
    rw [he] at hraised
    cases hraised
  | unopened => exact .inr ⟨_, _, rfl, hxs, pageTrouble_isSession _⟩
  | unset _ h => rw [hsettings] at h; cases h
  | opened => exact .inl ⟨_, rfl⟩

/-- A page that cannot be reached is told of by an error of sessions. -/
theorem create_raises_session_unreached :
    let around : Surroundings Unit := ⟨.staged (.raised (.driver "no")) (.done ()), .ok {}, 0⟩
    let run := create (.str "chromium") (.str "http://h/") .none none around (Machine.start ())
    ∃ xs, run.1 = .raised (.session "Failed to open http://h/: no") ∧
      Exchanged around (Machine.start ()) xs run.2 ∧
      ¬ Strays (.str "chromium") (.str "http://h/") xs := by
  intro around run
  have hrun : run.1 = .raised (.session "Failed to open http://h/: no") := rfl
  have hdriver : around.driver.Responds := Driver.staged_responds (by simp)
    (fun e he => by cases he; rfl) (by simp) (by simp)
  rcases create_raises_session (.str "chromium") (.str "http://h/") .none none rfl hdriver
    (Machine.start ()) with ⟨c, hc⟩ | ⟨e, xs, he, hxs, hsession⟩
  · cases hrun.symm.trans hc
  · cases hrun.symm.trans he
    exact ⟨xs, hrun, hxs, hsession.1 rfl⟩

/-- A bracket without its fellow in the host is told of by an error of values, although the settings
are valid and the driver does as it is asked. -/
theorem create_misreads_bracket :
    let around : Surroundings Unit := ⟨.staged (.done ()) (.done ()), .ok {}, 0⟩
    around.driver.Responds ∧
      (create (.str "chromium") (.str "http://[") (.bool true) none around
        (Machine.start ())).1 = .raised (.valueError "Invalid IPv6 URL") ∧
      (Raised.valueError "Invalid IPv6 URL").cls.isSession = false :=
  ⟨Driver.staged_responds (by simp) (by simp) (by simp) (by simp), rfl, rfl⟩

end Session

end BrowserFlow
