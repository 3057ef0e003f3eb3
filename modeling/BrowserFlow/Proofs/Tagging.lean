import BrowserFlow.Proofs.Releasing

/-!
# The session that records are tagged with

Sessions are opened and closed in any order, each by a driver of its own, and in between anything
may happen that leaves the tag alone. The tag is always that of the last session that was launched,
and is dropped whenever any session is closed. So it names a session that is open right after one
was opened; but it goes stale when a session was launched and then not handed out, and when one of
several open sessions is closed.
-/
namespace BrowserFlow.Session

/-- What happens to sessions: one is opened, one is launched and lost again, or one is closed. -/
inductive Happening
  | opened (s : Session)
  | lost (s : Session)
  | closed (s : Session)
deriving DecidableEq, Repr

namespace Happening

/-- The sessions that were handed out and not closed since; the last happening comes first. -/
def openAfter : List Happening → List Session
  | [] => []
  | opened s :: before => s :: openAfter before
  | lost _ :: before => openAfter before
  | closed s :: before => (openAfter before).filter (· ≠ s)

/-- The session that the last happening leaves records tagged with. -/
def tagAfter : List Happening → Option String
  | [] => none
  | opened s :: _ | lost s :: _ => some s.id
  | closed _ :: _ => none

/-- The tag names an open session, or there is none. -/
def Truthful (tag : Option String) (sessions : List Session) : Prop :=
  match tag with
  | some id => ∃ s ∈ sessions, s.id = id
  | none => sessions = []

/-- The last happening leaves the tag stale: another session is open besides the one that was
closed, or none that is open is named like the one that was lost. -/
inductive Stale : List Happening → Prop
  | closed {s other : Session} {before : List Happening} (h : other ∈ openAfter before)
    (hne : other ≠ s) : Stale (closed s :: before)
  | lost {s : Session} {before : List Happening}
    (h : ∀ other ∈ openAfter before, other.id ≠ s.id) :
    Stale (lost s :: before)

theorem truthful_iff (hs : List Happening) :
    Truthful (tagAfter hs) (openAfter hs) ↔ ¬ Stale hs := by
  match hs with
  | [] => exact iff_of_true rfl fun h => by cases h
  | opened s :: before =>
    exact iff_of_true ⟨s, List.mem_cons_self, rfl⟩ fun h => by cases h
  | lost s :: before =>
    constructor
    · rintro ⟨other, hmem, hid⟩ hstale
      cases hstale with
      | lost h => exact h other hmem hid
    · intro hfresh
      simp only [tagAfter, openAfter, Truthful]
      refine Classical.byContradiction fun hnone => hfresh (.lost fun other hmem hid => ?_)
      exact hnone ⟨other, hmem, hid⟩
  | closed s :: before =>
    have hempty : (openAfter before).filter (· ≠ s) = [] ↔
        ∀ other ∈ openAfter before, other = s := by
      simp [List.filter_eq_nil_iff]
    change (openAfter before).filter (· ≠ s) = [] ↔ _
    rw [hempty]
    constructor
    · intro hall hstale
      cases hstale with
      | closed h hne => exact hne (hall _ h)
    · intro hfresh other hmem
      exact Classical.byContradiction fun hne => hfresh (.closed hmem hne)

end Happening

open Happening

variable {σ : Type}

/-- A machine on which sessions were opened and closed, with what has happened to them, the last
first. -/
inductive Course : List Happening → Machine σ → Prop
  | start {m : Machine σ} (h : m.tag = none) : Course [] m
  | between {hs : List Happening} {m n : Machine σ} (h : Course hs m) (htag : n.tag = m.tag) :
    Course hs n
  | opened {hs : List Happening} {around : Surroundings σ} {m n : Machine σ}
    {brand url headless : Value} {sink : Option Sink} {c : Context} (h : Course hs m)
    (hrun : create brand url headless sink around m = (.done c, n)) :
    Course (.opened c.session :: hs) n
  | failed {hs : List Happening} {around : Surroundings σ} {m n : Machine σ}
    {brand url headless : Value} {sink : Option Sink} {e : Raised} {xs : List Exchange}
    (h : Course hs m) (hrun : create brand url headless sink around m = (.raised e, n))
    (hxs : Exchanged around m xs n) : Course ((launched xs).map .lost ++ hs) n
  | closed {hs : List Happening} {around : Surroundings σ} {m n : Machine σ} {c : Context}
    {r : Outcome Unit} (h : Course hs m) (hrun : close c around m = (r, n)) (hr : r ≠ .endless) :
    Course (.closed c.session :: hs) n

section Opening

variable {settings : Except Raised Settings} {brand url headless : Value} {sink : Option Sink}
  {tag : Option String} {xs : List Exchange}

/-- Starting a session that comes to an error leaves the tag as it was, unless one was launched. -/
theorem Opening.tag_of_raised {hs : List Happening} {e : Raised}
    (h : Opening settings brand url headless sink (tagAfter hs) xs (.raised e) tag) :
    tag = tagAfter ((launched xs).map .lost ++ hs) := by
  cases h <;> rfl

theorem Opening.tag_of_done {tag' : Option String} {c : Context}
    (h : Opening settings brand url headless sink tag xs (.done c) tag') :
    tag' = some c.session.id := by
  cases h
  rfl

end Opening

/-- After any course the tag is that of the last happening, which is the session that was launched
or none after one was closed; it is that of an open session, or there is none that is open, unless
the last happening leaves it stale. -/
theorem Course.tag_truthful {hs : List Happening} {m : Machine σ} (h : Course hs m) :
    m.tag = tagAfter hs ∧ (Truthful m.tag (openAfter hs) ↔ ¬ Stale hs) := by
  have htag : m.tag = tagAfter hs := by
    induction h with
    | start h => exact h
    | between _ htag ih => exact htag.trans ih
    | @opened hs around m n brand url headless sink c _ hrun ih =>
      obtain ⟨xs, -, hopening⟩ := create_opens brand url headless sink around m
      rw [hrun] at hopening
      exact hopening.tag_of_done
    | @failed hs around m n brand url headless sink e xs _ hrun hxs ih =>
      obtain ⟨ys, hys, hopening⟩ := create_opens brand url headless sink around m
      rw [hrun] at hys hopening
      rw [ih, hys.unique hxs] at hopening
      exact hopening.tag_of_raised
    | @closed hs around m n c r _ hrun _ ih =>
      obtain ⟨reply, -, hnone⟩ := close_exchanged c around m
      rwa [hrun] at hnone
  exact ⟨htag, htag ▸ truthful_iff hs⟩

/-- The tag of a session that was just opened. -/
theorem Course.tag_truthful_opened :
    let around : Surroundings Unit := ⟨.staged (.done ()) (.done ()), .ok {}, 0⟩
    let n := (create (.str "chromium") (.str "http://h/") .none none around (Machine.start ())).2
    n.tag = some "s" ∧ Truthful n.tag [⟨"chromium", "s"⟩] := by
  intro around n
  let c : Context := { session := ⟨"chromium", "s"⟩, items := 0, sink := .logger true }
  have hrun : create (.str "chromium") (.str "http://h/") .none none around (Machine.start ()) =
      (.done c, n) := rfl
  obtain ⟨htag, htruthful⟩ := (Course.opened (.start rfl) hrun).tag_truthful
  exact ⟨htag, htruthful.2 fun h => by cases h⟩

/-- A session that is launched and closed again, since its page does not open, leaves its tag on
records to come. -/
theorem create_leaves_tag :
    let around : Surroundings Unit := ⟨.staged (.raised (.driver "no")) (.done ()), .ok {}, 0⟩
    let run := create (.str "chromium") (.str "http://h/") (.bool true) none around
      (Machine.start ())
    run.1 = .raised (.session "Failed to open http://h/: no") ∧
      (Machine.start ()).tag = none ∧ run.2.tag = some "s" :=
  ⟨rfl, rfl, rfl⟩

end BrowserFlow.Session
