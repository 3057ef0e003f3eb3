import BrowserFlow.Proofs.Exchanges
import BrowserFlow.Proofs.Execution
import BrowserFlow.Rehearsal.PageDriver
import BrowserFlow.Steps.Find
import BrowserFlow.Value.Part

/-!
# Finding

What the finders promise, all of them alike. A finder that is started waits once for a first match
and then counts the matches; if the wait runs out of time or there is no match it fails, and names
what it was looking for. A single-element finder then focuses the match at its index: from the front
for an index that is not negative, from the end for one that is, and it fails for an index with no
match, naming the range that has one. A finder of many collects every match in order, and never
none. So as long as the page stays as it is, the single finder focuses what is at its index in the
collection of the other.
-/
namespace BrowserFlow

variable {σ : Type}

/-! ### Which index means which match -/

namespace Number

theorem relate_below (a b : Int) : relate .below (whole a) (whole b) = decide (a < b) := by
  simp only [relate, compare?, Option.any_some, Relation.holds]
  rw [Bool.eq_iff_iff, beq_iff_eq, Int.compare_eq_lt, decide_eq_true_iff]

theorem relate_atLeast (a b : Int) : relate .atLeast (whole a) (whole b) = decide (b ≤ a) := by
  simp only [relate, compare?, Option.any_some, Relation.holds]
  rw [Bool.eq_iff_iff, bne_iff_ne, ne_eq, Int.compare_eq_lt, decide_eq_true_iff, Int.not_lt]

end Number

/-- The place that a whole index means among `count` things, counted from the end if it is
negative. -/
def placeOf (count i : Int) : Int := if 0 ≤ i then i else count + i

theorem Query.resolveIndex_whole (count i : Int) (label : String) :
    resolveIndex (.whole i) count label =
      if -count ≤ i ∧ i < count then .ok (.whole (placeOf count i))
      else .error (outOfRange label (.whole i) count) := by
  have hplace : (if Number.relate .below (.whole i) (.whole 0) then (Number.whole i).plus count
      else .whole i) = .whole (placeOf count i) := by
    rw [Number.relate_below, placeOf]
    by_cases hi : 0 ≤ i
    · rw [if_neg (by simpa using hi), if_pos hi]
    · rw [if_pos (by simpa using hi), if_neg hi]
      rfl
  have hiff :
      placeOf count i < 0 ∨ count ≤ placeOf count i ↔ ¬ (-count ≤ i ∧ i < count) := by
    rw [placeOf]
    split <;> omega
  rw [resolveIndex]
  simp only [hplace]
  simp only [Number.relate_below, Number.relate_atLeast, Bool.or_eq_true, decide_eq_true_iff, hiff]
  exact ite_not _ _ _

/-! ### The steps that find -/

/-- What tells the finders apart: whether they look under the element in focus or in the frame of
the context, and by what. -/
structure Finder where
  isRelative : Bool
  strategy : Strategy
deriving DecidableEq, Repr

namespace Finder

/-- The finder that focuses one match. -/
def one (k : Finder) (selector index timeout : Value) : Step σ :=
  match k with
  | ⟨false, .style⟩ => .find selector index timeout
  | ⟨false, .path⟩ => .findPath selector index timeout
  | ⟨true, .style⟩ => .findUnder selector index timeout
  | ⟨true, .path⟩ => .findPathUnder selector index timeout

/-- The finder that collects every match. -/
def all (k : Finder) (selector timeout : Value) : Step σ :=
  match k with
  | ⟨false, .style⟩ => .findAll selector timeout
  | ⟨false, .path⟩ => .findAllPath selector timeout
  | ⟨true, .style⟩ => .findAllUnder selector timeout
  | ⟨true, .path⟩ => .findAllPathUnder selector timeout

def label : Finder → String
  | ⟨false, .style⟩ => "find"
  | ⟨false, .path⟩ => "find_xpath"
  | ⟨true, .style⟩ => "relative_find"
  | ⟨true, .path⟩ => "relative_find_xpath"

def labelOfAll : Finder → String
  | ⟨false, .style⟩ => "find_all"
  | ⟨false, .path⟩ => "find_all_xpath"
  | ⟨true, .style⟩ => "relative_find_all"
  | ⟨true, .path⟩ => "relative_find_all_xpath"

/-- The matches that a finder looks for on a context, if it has the focus that the finder needs. -/
def matchesOn (k : Finder) (selector : String) (c : Context) : Option Locator :=
  let marked := match k.strategy with
    | .style => selector
    | .path => Selector.ofPath selector
  match k.isRelative, c.focus with
  | false, _ => some (c.locate marked)
  | true, some (.element focus) => some (focus.under marked)
  | true, _ => none

/-- Where a finder looks. -/
def place : Finder → Query → Context → Action σ Locator
  | ⟨false, _⟩ => Query.inScope
  | ⟨true, _⟩ => Query.underFocus

theorem one_eq (k : Finder) (selector index timeout : Value) :
    (k.one selector index timeout : Step σ) =
      Query.focusing ⟨k.label, selector, k.strategy, timeout⟩ index k.place := by
  rcases k with ⟨_ | _, _ | _⟩ <;> rfl

theorem all_eq (k : Finder) (selector timeout : Value) :
    (k.all selector timeout : Step σ) =
      Query.collecting ⟨k.labelOfAll, selector, k.strategy, timeout⟩ k.place := by
  rcases k with ⟨_ | _, _ | _⟩ <;> rfl

end Finder

/-- The time a finder waits: the one given, or else the one in the settings. -/
def Surroundings.findTimeout (around : Surroundings σ) (given : Value) : Except Raised Value :=
  if given.isNone then around.settings.map fun s => .float s.findTimeout else .ok given

/-! ### What a finder asks and what comes of it -/

/-- How many matches a finder finds that starts from this world, none if its wait runs out of time,
with what it exchanges with the driver for that. -/
inductive Sought (around : Surroundings σ) (l : Locator) (timeout : Value) (world : σ) :
    Int → List Exchange → Prop
  | expired {e : Raised}
    (hwait : around.driver.reply (.waitFor l timeout (.bool false)) world = .raised e)
    (he : e.cls = .driverTimeout) :
    Sought around l timeout world 0 [⟨.waitFor l timeout (.bool false), .raised e⟩]
  | counted {count : Int}
    (hwait : around.driver.reply (.waitFor l timeout (.bool false)) world = .done ())
    (hcount : around.driver.reply (.count l)
      (around.driver.worldAfter (.waitFor l timeout (.bool false)) world) = .done count) :
    Sought around l timeout world count
      [⟨.waitFor l timeout (.bool false), .done ()⟩, ⟨.count l, .done count⟩]

/-- A context that a finder has failed on. -/
def Context.unresolved (c : Context) (label message : String) : Context :=
  { c with failure := some ⟨.resolution, message, some label, some "ResolutionError"⟩ }

namespace Finder

def notFound (label selector : String) : String := label ++ ": '" ++ selector ++ "' not found"

def outOfRange (label : String) (i count : Int) : String :=
  label ++ ": index " ++ toString i ++ " out of range (0.." ++ toString (count - 1) ++ ")"

/-- What a single-element finder comes to where there are `count` matches. -/
def focused (label selector : String) (l : Locator) (count i : Int) (c : Context) : Context :=
  if count ≤ 0 then c.unresolved label (notFound label selector)
  else if -count ≤ i ∧ i < count then
    c.withFocus (l.nth (.whole (if 0 ≤ i then i else count + i)))
  else c.unresolved label (outOfRange label i count)

/-- A collection of `count` matches. -/
def members (l : Locator) (count : Int) : List Locator :=
  (List.range count.toNat).map fun (i : Nat) => l.nth (.whole i)

/-- What a finder of many comes to where there are `count` matches. -/
def collected (label selector : String) (l : Locator) (count : Int) (c : Context) : Context :=
  if count ≤ 0 then c.unresolved label (notFound label selector)
  else c.withCollection (members l count)

end Finder

/-- A step hands a context back and has exchanged this with the driver by then. -/
def Step.HandsBack (s : Step σ) (c : Context) (token : Option Token) (around : Surroundings σ)
    (m : Machine σ) (d : Context) (xs : List Exchange) : Prop :=
  ∃ n, s.execute c token around m = (.done d, n) ∧ Exchanged around m xs n

section

variable {around : Surroundings σ} {m : Machine σ} {l : Locator} {timeout : Value} {count : Int}
  {xs : List Exchange}

/-- A driver whose waits return or run out of time, and whose counts return, always lets a finder
find some number of matches. -/
theorem Sought.exists {world : σ}
    (hwait : around.driver.reply (.waitFor l timeout (.bool false)) world = .done () ∨
      ∃ e, around.driver.reply (.waitFor l timeout (.bool false)) world = .raised e ∧
        e.cls = .driverTimeout)
    (hcount : ∃ count, around.driver.reply (.count l)
      (around.driver.worldAfter (.waitFor l timeout (.bool false)) world) = .done count) :
    ∃ count xs, Sought around l timeout world count xs := by
  rcases hwait with hwait | ⟨e, hwait, he⟩
  · obtain ⟨count, hcount⟩ := hcount
    exact ⟨count, _, .counted hwait hcount⟩
  · exact ⟨0, _, .expired hwait he⟩

namespace Query

variable {q : Query}

theorem timeout_run (hq : around.findTimeout q.timeout = .ok timeout) :
    (Action.timeout q.timeout Settings.findTimeout : Action σ Value) around m =
      (.done timeout, m) := by
  rw [Surroundings.findTimeout] at hq
  rw [Action.timeout_run, hq, Action.ofExcept_ok]

/-- The wait and the count, and how they end by the number of matches. -/
theorem countAfterWait_run (hq : around.findTimeout q.timeout = .ok timeout)
    (h : Sought around l timeout m.world count xs) :
    ∃ n, q.countAfterWait l around m =
        (if count ≤ 0 then .raised (notFound q.label q.shown.text) else .done count, n) ∧
      Exchanged around m xs n := by
  rw [countAfterWait, Action.bind_done (timeout_run hq), Action.bind_run, Action.attempt_run]
  cases h with
  | @expired e hwait he =>
    have hrun := Action.call_of_reply hwait
    rw [hrun]
    simp only [he, if_true]
    exact ⟨_, rfl, .of_call hrun⟩
  | counted hwait hcount =>
    have hrun := Action.call_of_reply hwait
    rw [← Action.call_world _ around m] at hcount
    have hcounted := Action.call_of_reply hcount
    rw [hrun]
    dsimp only
    rw [Action.bind_done hcounted]
    refine ⟨_, ?_, (Exchanged.of_call hrun).trans (.of_call hcounted)⟩
    split <;> rfl

theorem one_run (hq : around.findTimeout q.timeout = .ok timeout)
    (h : Sought around l timeout m.world count xs) (i : Int) :
    ∃ n, q.one (.int i) l around m =
        (if count ≤ 0 then .raised (notFound q.label q.shown.text)
        else if -count ≤ i ∧ i < count then .done (l.nth (.whole (placeOf count i)))
        else .raised (outOfRange q.label (.whole i) count), n) ∧
      Exchanged around m xs n := by
  obtain ⟨n, hrun, hxs⟩ := countAfterWait_run hq h
  refine ⟨n, ?_, hxs⟩
  rw [one, Action.bind_run, hrun]
  by_cases hcount : count ≤ 0
  · simp only [if_pos hcount]
  · simp only [if_neg hcount]
    have hread : (do resolveIndex (← readIndex (.int i)) count q.label) =
        resolveIndex (.whole i) count q.label := rfl
    rw [hread, resolveIndex_whole]
    by_cases hi : -count ≤ i ∧ i < count
    · rw [if_pos hi, if_pos hi]
      rfl
    · rw [if_neg hi, if_neg hi]
      rfl

theorem all_run (hq : around.findTimeout q.timeout = .ok timeout)
    (h : Sought around l timeout m.world count xs) :
    ∃ n, q.all l around m =
        (if count ≤ 0 then .raised (notFound q.label q.shown.text)
        else .done (Finder.members l count), n) ∧
      Exchanged around m xs n := by
  obtain ⟨n, hrun, hxs⟩ := countAfterWait_run hq h
  refine ⟨n, ?_, hxs⟩
  rw [all, Action.bind_run, hrun]
  by_cases hcount : count ≤ 0
  · simp only [if_pos hcount]
  · simp only [if_neg hcount]
    rfl

end Query

/-- With the focus that it needs and a selector that is not blank, a finder looks where it
should. -/
theorem Finder.place_run {k : Finder} {selector : String} {c : Context} {label : String}
    {given : Value} (hselector : selector.toList.all Text.isBlank = false)
    (hl : k.matchesOn selector c = some l) :
    k.place ⟨label, .str selector, k.strategy, given⟩ c around m = (.done l, m) := by
  have hrequired : Query.requireSelector (.str selector) label = .ok selector := by
    simp [Query.requireSelector, hselector]
  rcases k with ⟨_ | _, strategy⟩
  · change Query.inScope _ c around m = _
    rw [Query.inScope, hrequired, Action.bind_done (Action.ofExcept_ok around m selector)]
    cases hl
    rfl
  · change Query.underFocus _ c around m = _
    rw [Query.underFocus, hrequired, Action.bind_done (Action.ofExcept_ok around m selector)]
    rcases hfocus : c.focus with _ | ⟨focus | v⟩ <;> simp only [matchesOn, hfocus] at hl
    · cases hl
    · cases hl
      rfl
    · cases hl

/-! ### The steps as they are executed -/

/-- Settling a step is no exchange with the driver. -/
theorem Step.exchanged_settled (s : Step σ) (c : Context) (n : Machine σ) (o : Outcome Answer) :
    Exchanged around n [] (s.settled c n o) := by
  rcases o with ⟨d | v⟩ | e | _
  · exact .refl around n
  · exact .given around _ _ _ n
  · simp only [settled]
    split
    · have hnoted : Exchanged around n [] (s.noted n e) := .emit around (by simp) n
      split
      · exact hnoted.onward (.given ..)
      · exact hnoted
    · exact .refl around n
  · exact .refl around n

section

variable {c d : Context} {token : Option Token} {n : Machine σ}

theorem Step.handsBack {s : Step σ} {o : Outcome Answer} (hc : c.failure = none)
    (hstop : stopReason token m = none)
    (hcall : s.call c around (c.sink.given .step s.describe m) = (o, n))
    (hxs : Exchanged around (c.sink.given .step s.describe m) xs n)
    (hverdict : s.verdict c o = .done d) : s.HandsBack c token around m d xs := by
  have hrun := (s.execute_of_started token around m
    ((s.startOn_eq_some token m).2 ⟨hc, hstop, rfl⟩)).2
  rw [hcall, hverdict] at hrun
  have hstarted := Exchanged.given around .step s.describe c.sink m
  exact ⟨_, hrun, (hstarted.trans hxs).onward (s.exchanged_settled c n o)⟩

theorem Step.handsBack_of_done {name : String} {args : List (String × Value)}
    {body : Context → Action σ Context} (hc : c.failure = none)
    (hstop : stopReason token m = none)
    (hrun : body c around (c.sink.given .step (ofBody name args body).describe m) = (.done d, n))
    (hxs : Exchanged around (c.sink.given .step (ofBody name args body).describe m) xs n) :
    (ofBody name args body).HandsBack c token around m d xs := by
  refine handsBack (o := .done (.context d)) hc hstop ?_ hxs rfl
  rw [call_done, ofBody_run, hrun]

/-- An error of the library becomes the failure of its kind. -/
theorem Step.handsBack_of_own {name : String} {args : List (String × Value)}
    {body : Context → Action σ Context} {k : StepErrorClass} {message : String}
    (hc : c.failure = none) (hstop : stopReason token m = none)
    (hrun : body c around (c.sink.given .step (ofBody name args body).describe m) =
      (.raised (.ofText (.step k) message), n))
    (hxs : Exchanged around (c.sink.given .step (ofBody name args body).describe m) xs n) :
    (ofBody name args body).HandsBack c token around m
      { c with failure := some ⟨k.failureKind, message, some name, some k.name⟩ } xs := by
  refine handsBack (o := .raised (.ofText (.step k) message)) hc hstop ?_ hxs rfl
  rw [call, Action.awaited_run, ofBody_run, hrun]
  rfl

theorem Step.handsBack_of_resolution {name : String} {args : List (String × Value)}
    {body : Context → Action σ Context} {message : String} (hc : c.failure = none)
    (hstop : stopReason token m = none)
    (hrun : body c around (c.sink.given .step (ofBody name args body).describe m) =
      (.raised (.resolution message), n))
    (hxs : Exchanged around (c.sink.given .step (ofBody name args body).describe m) xs n) :
    (ofBody name args body).HandsBack c token around m (c.unresolved name message) xs :=
  handsBack_of_own (k := .resolution) hc hstop hrun hxs

/-- A line changes nothing that a finder asks for. -/
theorem Sought.given (h : Sought around l timeout m.world count xs) (kind : LineKind)
    (line : String) (sink : Sink) :
    Sought around l timeout (sink.given kind line m).world count xs := by
  rwa [Sink.given_world]

namespace Query

variable {label selector : String} {strategy : Strategy} {given : Value}
  {place : Query → Context → Action σ Locator}

theorem focusing_handsBack (htimeout : around.findTimeout given = .ok timeout)
    (hplace : ∀ m : Machine σ, place ⟨label, .str selector, strategy, given⟩ c around m =
      (.done l, m))
    (hc : c.failure = none) (hstop : Step.stopReason token m = none)
    (h : Sought around l timeout m.world count xs) (i : Int) :
    (focusing ⟨label, .str selector, strategy, given⟩ (.int i) place).HandsBack c token around m
      (Finder.focused label selector l count i c) xs := by
  obtain ⟨n, hrun, hxs⟩ := one_run (q := ⟨label, .str selector, strategy, given⟩) htimeout
    (h.given .step (focusing _ (.int i) place).describe c.sink) i
  rw [Finder.focused]
  by_cases hcount : count ≤ 0
  · rw [if_pos hcount] at hrun ⊢
    refine Step.handsBack_of_resolution hc hstop ?_ hxs
    exact (Action.bind_done (hplace _) _).trans (Action.bind_raised hrun _)
  · rw [if_neg hcount] at hrun ⊢
    by_cases hi : -count ≤ i ∧ i < count
    · rw [if_pos hi] at hrun ⊢
      refine Step.handsBack_of_done hc hstop ?_ hxs
      exact (Action.bind_done (hplace _) _).trans (Action.bind_done hrun _)
    · rw [if_neg hi] at hrun ⊢
      refine Step.handsBack_of_resolution hc hstop ?_ hxs
      exact (Action.bind_done (hplace _) _).trans (Action.bind_raised hrun _)

theorem collecting_handsBack (htimeout : around.findTimeout given = .ok timeout)
    (hplace : ∀ m : Machine σ, place ⟨label, .str selector, strategy, given⟩ c around m =
      (.done l, m))
    (hc : c.failure = none) (hstop : Step.stopReason token m = none)
    (h : Sought around l timeout m.world count xs) :
    (collecting ⟨label, .str selector, strategy, given⟩ place).HandsBack c token around m
      (Finder.collected label selector l count c) xs := by
  obtain ⟨n, hrun, hxs⟩ := all_run (q := ⟨label, .str selector, strategy, given⟩) htimeout
    (h.given .step (collecting _ place).describe c.sink)
  rw [Finder.collected]
  by_cases hcount : count ≤ 0
  · rw [if_pos hcount] at hrun ⊢
    refine Step.handsBack_of_resolution hc hstop ?_ hxs
    exact (Action.bind_done (hplace _) _).trans (Action.bind_raised hrun _)
  · rw [if_neg hcount] at hrun ⊢
    refine Step.handsBack_of_done hc hstop ?_ hxs
    exact (Action.bind_done (hplace _) _).trans (Action.bind_done hrun _)

end Query

end

end

namespace Finder

/-! ### What they come to, compared -/

variable {label selector : String} {l : Locator} {count i : Int} {c : Context}

theorem focused_of_inside (h : -count ≤ i ∧ i < count) :
    focused label selector l count i c = c.withFocus (l.nth (.whole (placeOf count i))) := by
  rw [focused, if_neg (by omega), if_pos h]
  rfl

theorem focused_of_outside (hcount : 0 < count) (h : ¬ (-count ≤ i ∧ i < count)) :
    focused label selector l count i c = c.unresolved label (outOfRange label i count) := by
  rw [focused, if_neg (by omega), if_neg h]

theorem length_members (l : Locator) (count : Int) : (members l count).length = count.toNat := by
  rw [members, List.length_map, List.length_range]

theorem getElem?_members {n : Nat} (h : (n : Int) < count) :
    (members l count)[n]? = some (l.nth (.whole n)) := by
  rw [members, List.getElem?_map, List.getElem?_range (by omega)]
  rfl

/-- Among the members of a collection, an index means the match that a single-element finder
focuses. -/
theorem pick_members (l : Locator) (count i : Int) :
    Sequence.tuple.pick (members l count) (.int i) =
      if -count ≤ i ∧ i < count then .ok (l.nth (.whole (placeOf count i)))
      else .error Sequence.tuple.outside := by
  have hnumber : (Value.int i).number?.bind Number.whole? = some i := rfl
  simp only [Sequence.pick, hnumber, length_members]
  by_cases hi : -count ≤ i ∧ i < count
  · have hplace : (if i < 0 then (count.toNat : Int) + i else i) = placeOf count i := by
      rw [placeOf]
      split <;> split <;> omega
    have hinside : 0 ≤ placeOf count i ∧ placeOf count i < count := by
      rw [placeOf]
      split <;> omega
    rw [hplace, if_neg (by omega), if_pos hi, getElem?_members (by omega),
      Int.toNat_of_nonneg hinside.1]
  · rw [if_neg hi]
    by_cases hbefore : (if i < 0 then (count.toNat : Int) + i else i) < 0
    · rw [if_pos hbefore]
    · have hpast : (members l count)[(if i < 0 then (count.toNat : Int) + i else i).toNat]? =
          none := by
        rw [List.getElem?_eq_none_iff, length_members]
        split at hbefore <;> omega
      rw [if_neg hbefore, hpast]

end Finder

section

variable (k : Finder) (selector : String) (given : Value) (l : Locator) (c : Context)
  (token : Option Token) (around : Surroundings σ)

/-- What the finders do on a machine, by the number of matches there; `xs` are the wait and the
count. -/
structure Finder.Finds (m : Machine σ) (count : Int) (xs : List Exchange) : Prop where
  one : ∀ i, (k.one (.str selector) (.int i) given).HandsBack c token around m
    (focused k.label selector l count i c) xs
  all : (k.all (.str selector) given).HandsBack c token around m
    (collected k.labelOfAll selector l count c) xs
  last : k = ⟨false, .style⟩ →
    (Step.findLast (.str selector) given).HandsBack c token around m
    (focused "find_last" selector l count (-1) c) xs

/-- How the finders agree with each other on two machines that show the same `count` matches. -/
structure Finder.Agree (m m' : Machine σ) (count : Int) (xs xs' : List Exchange) : Prop where
  /-- The single finder focuses what stands at its index in the collection of the other. -/
  part : ∃ ls ≠ [],
    (k.all (.str selector) given).HandsBack c token around m (c.withCollection ls) xs ∧
    ∀ i, match Sequence.tuple.pick ls (.int i) with
      | .ok found =>
        (k.one (.str selector) (.int i) given).HandsBack c token around m' (c.withFocus found) xs'
      | .error _ => (k.one (.str selector) (.int i) given).HandsBack c token around m'
          (c.unresolved k.label (outOfRange k.label i count)) xs'
  /-- The last match is the match at minus one. -/
  last : k = ⟨false, .style⟩ → ∃ found,
    (Step.findLast (.str selector) given).HandsBack c token around m (c.withFocus found) xs ∧
    (Step.find (.str selector) (.int (-1)) given).HandsBack c token around m'
      (c.withFocus found) xs'
  /-- Counting from the end is counting from the front, as far as there are matches. -/
  fromEnd : ∀ i, -count ≤ i → i < 0 → ∃ found,
    (k.one (.str selector) (.int i) given).HandsBack c token around m (c.withFocus found) xs ∧
    (k.one (.str selector) (.int (count + i)) given).HandsBack c token around m'
      (c.withFocus found) xs'

end

/-- The finders agree wherever they find the same number of matches. -/
theorem Finder.Finds.agree {k : Finder} {selector : String} {given : Value} {l : Locator}
    {c : Context} {token : Option Token} {around : Surroundings σ} {m m' : Machine σ}
    {count : Int} {xs xs' : List Exchange} (h : k.Finds selector given l c token around m count xs)
    (h' : k.Finds selector given l c token around m' count xs') (hcount : 0 < count) :
    k.Agree selector given c token around m m' count xs xs' := by
  have hinside : ∀ {i : Int}, -count ≤ i ∧ i < count →
      (k.one (.str selector) (.int i) given).HandsBack c token around m'
        (c.withFocus (l.nth (.whole (placeOf count i)))) xs' := by
    intro i hi
    rw [← focused_of_inside hi]
    exact h'.one i
  refine ⟨⟨members l count, ?_, ?_, fun i => ?_⟩, ?_, ?_⟩
  · rw [← List.length_pos_iff, length_members]
    omega
  · have hcollected := h.all
    rwa [collected, if_neg (by omega)] at hcollected
  · rw [pick_members]
    by_cases hi : -count ≤ i ∧ i < count
    · rw [if_pos hi]
      exact hinside hi
    · rw [if_neg hi, ← focused_of_outside hcount hi]
      exact h'.one i
  · rintro rfl
    have hfound := h.last rfl
    rw [focused_of_inside (by omega)] at hfound
    exact ⟨_, hfound, hinside (i := -1) (by omega)⟩
  · intro i hi hneg
    have hfound := h.one i
    have hplace : placeOf count i = placeOf count (count + i) := by
      rw [placeOf, placeOf, if_neg (by omega), if_pos (by omega)]
    rw [focused_of_inside (by omega), hplace] at hfound
    exact ⟨_, hfound, hinside (i := count + i) (by omega)⟩

/-- What the finders promise on a context that has not failed and has the focus that they need, for
a selector that is not blank, where no token stops them and the time to wait is settled. -/
theorem Finder.finds {around : Surroundings σ} {given timeout : Value}
    (htimeout : around.findTimeout given = .ok timeout) {selector : String}
    (hselector : selector.toList.all Text.isBlank = false) {c : Context} (hc : c.failure = none)
    {k : Finder} {l : Locator} (hl : k.matchesOn selector c = some l) {token : Option Token} :
    (∀ m : Machine σ, Step.stopReason token m = none →
      (around.driver.reply (.waitFor l timeout (.bool false)) m.world = .done () ∨
        ∃ e, around.driver.reply (.waitFor l timeout (.bool false)) m.world = .raised e ∧
          e.cls = .driverTimeout) →
      (∃ count, around.driver.reply (.count l)
        (around.driver.worldAfter (.waitFor l timeout (.bool false)) m.world) = .done count) →
      ∃ count xs, Sought around l timeout m.world count xs ∧
        k.Finds selector given l c token around m count xs) ∧
    ∀ (m m' : Machine σ) (count : Int) (xs xs' : List Exchange),
      Step.stopReason token m = none → Step.stopReason token m' = none → 0 < count →
      Sought around l timeout m.world count xs → Sought around l timeout m'.world count xs' →
      k.Agree selector given c token around m m' count xs xs' := by
  have hplace : ∀ (label : String) (m : Machine σ),
      k.place ⟨label, .str selector, k.strategy, given⟩ c around m = (.done l, m) :=
    fun _ _ => place_run hselector hl
  have hfinds : ∀ {m : Machine σ} {count : Int} {xs : List Exchange},
      Step.stopReason token m = none → Sought around l timeout m.world count xs →
      k.Finds selector given l c token around m count xs := by
    intro m count xs hstop h
    constructor
    · intro i
      rw [one_eq]
      exact Query.focusing_handsBack htimeout (hplace _) hc hstop h i
    · rw [all_eq]
      exact Query.collecting_handsBack htimeout (hplace _) hc hstop h
    · rintro rfl
      exact Query.focusing_handsBack htimeout (hplace _) hc hstop h (-1)
  constructor
  · intro m hstop hwait hcount
    obtain ⟨count, xs, h⟩ := Sought.exists hwait hcount
    exact ⟨count, xs, h, hfinds hstop h⟩
  · intro m m' count xs xs' hstop hstop' hcount h h'
    exact (hfinds hstop h).agree (hfinds hstop' h') hcount

/-! ### A page to find on -/

namespace Rehearsal

def plainElement (label tag : String) (children : List Element) : Element :=
  .node ⟨label, tag, none, none, [], [], [], none⟩ children

/-- A page with three items and nothing else. -/
def threeItems : Page where
  root := plainElement "page" "html"
    [plainElement "first" "li" [], plainElement "second" "li" [], plainElement "third" "li" []]

end Rehearsal

/-- On a page with three items the finders find three, and go on agreeing. -/
theorem Finder.finds_items :
    let around : Surroundings Rehearsal.Page := ⟨Rehearsal.pageDriver, .ok {}, 0⟩
    let c : Context := { session := ⟨"fake", "s"⟩, items := 0, sink := .recorder }
    let l : Locator := .root none "li" none
    let m := Machine.start Rehearsal.threeItems
    (∃ count xs, Sought around l (.int 5) m.world count xs ∧
      Finder.Finds ⟨false, .style⟩ "li" (.int 5) l c none around m count xs) ∧
    ∃ xs, Finder.Agree ⟨false, .style⟩ "li" (.int 5) c none around m m 3 xs xs := by
  intro around c l m
  have hwait : around.driver.reply (.waitFor l (.int 5) (.bool false)) m.world = .done () := rfl
  have hcount : around.driver.reply (.count l) (around.driver.worldAfter
      (.waitFor l (.int 5) (.bool false)) m.world) = .done 3 := rfl
  have htimeout : around.findTimeout (.int 5) = .ok (.int 5) := rfl
  have hselector : "li".toList.all Text.isBlank = false := rfl
  have hc : c.failure = none := rfl
  have hl : Finder.matchesOn ⟨false, .style⟩ "li" c = some l := rfl
  have hstop : Step.stopReason none m = none := rfl
  obtain ⟨hfinds, hagree⟩ := Finder.finds htimeout hselector hc hl
  have hsought := Sought.counted hwait hcount
  exact ⟨hfinds m hstop (.inl hwait) ⟨3, hcount⟩,
    _, hagree m m 3 _ _ hstop hstop (by decide) hsought hsought⟩

/-- Past the first match counted from the end, a finder fails though the index that it would be from
the front is that of a match. -/
theorem Finder.not_fromEnd :
    let around : Surroundings Rehearsal.Page := ⟨Rehearsal.pageDriver, .ok {}, 0⟩
    let c : Context := { session := ⟨"fake", "s"⟩, items := 0, sink := .recorder }
    let m := Machine.start Rehearsal.threeItems
    around.driver.reply (.count (.root none "li" none)) m.world = .done 3 ∧
    (∃ n, (Step.find (.str "li") (.int (-4)) (.int 5)).execute c none around m =
      (.done { c with failure := some ⟨.resolution, "find: index -4 out of range (0..2)",
        some "find", some "ResolutionError"⟩ }, n)) ∧
    ∃ n, (Step.find (.str "li") (.int (3 + -4)) (.int 5)).execute c none around m =
      (.done (c.withFocus (.root none "li" (some (.whole 2)))), n) :=
  ⟨rfl, ⟨_, rfl⟩, _, rfl⟩

end BrowserFlow
