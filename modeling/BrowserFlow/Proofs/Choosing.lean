import BrowserFlow.Proofs.Finding
import BrowserFlow.Steps.Filter
import Mathlib.Data.Nat.Basic
import Mathlib.Order.Bounds.Defs

/-!
# Choosing by text

The steps that choose from a collection by a text read the elements in their order. One stops at the
first element whose text contains what is wanted; the other reads on to the end and keeps the match
that it saw last. So the one focuses the match at the least place and the other the match at the
greatest, each is the other on the collection turned round, and where there is no match both fail
with the same words. Where the wanted text comes from makes no difference.
-/
namespace BrowserFlow

variable {σ : Type}

namespace Text

theorem occursIn_iff (needle s : List Char) : occursIn needle s = true ↔ needle <:+: s := by
  induction s with
  | nil => simp [occursIn]
  | cons c rest ih =>
    rw [occursIn, Bool.or_eq_true, List.isPrefixOf_iff_prefix, ih, List.infix_cons_iff]

/-- A text contains another when that is a run of its characters. -/
theorem contains_iff {s needle : String} :
    contains s needle = true ↔ needle.toList <:+: s.toList :=
  occursIn_iff _ _

end Text

/-! ### Collections as they read -/

/-- An element of a collection and the text that it reads as, if it has one. -/
structure Shown where
  locator : Locator
  text : Option String
deriving DecidableEq, Repr

namespace Shown

def read (e : Shown) : Exchange := ⟨.text e.locator, .done e.text⟩

def Contains (t : String) (e : Shown) : Prop := ∃ s, e.text = some s ∧ t.toList <:+: s.toList

instance (t : String) : DecidablePred (Contains t) := fun e =>
  decidable_of_iff (e.text.any (Text.contains · t) = true) <| by
    simp [Contains, Option.any_eq_true, Text.contains_iff]

/-- The places in a collection whose text contains a text. -/
def places (t : String) (shown : List Shown) : Set Nat :=
  {i | ∃ e, shown[i]? = some e ∧ e.Contains t}

/-- What is to be chosen from a collection: the match at the least or the greatest of its places, or
nothing if there is no match. -/
inductive Choice (extreme : Set Nat → Nat → Prop) (t : String) (shown : List Shown) :
    Option Locator → Prop
  | hit {i : Nat} {e : Shown} (hi : extreme (places t shown) i) (he : shown[i]? = some e) :
    Choice extreme t shown (some e.locator)
  | miss (h : ∀ e ∈ shown, ¬ e.Contains t) : Choice extreme t shown none

def first? (t : String) (shown : List Shown) : Option Locator :=
  (shown.find? (Contains t ·)).map Shown.locator

/-- The elements up to the first match, or all of them. -/
def upToMatch (t : String) : List Shown → List Shown
  | [] => []
  | e :: rest => if e.Contains t then [e] else e :: upToMatch t rest

variable {t : String} {shown : List Shown}

theorem choice_first : Choice IsLeast t shown (first? t shown) := by
  rw [first?]
  rcases hfind : shown.find? (Contains t ·) with _ | e
  · rw [List.find?_eq_none] at hfind
    exact .miss (by simpa using hfind)
  · obtain ⟨he, i, hi, hplace, hbefore⟩ := List.find?_eq_some_iff_getElem.1 hfind
    have hat : shown[i]? = some e := by rw [List.getElem?_eq_getElem hi, hplace]
    refine .hit (i := i) ⟨⟨e, hat, by simpa using he⟩, ?_⟩ hat
    rintro j ⟨e', hj, he'⟩
    by_contra hlt
    have hmissed := hbefore j (by omega)
    obtain ⟨hjlt, rfl⟩ := List.getElem?_eq_some_iff.1 hj
    simp [he'] at hmissed

/-- A place in a collection is as far from the front as it is from the end of the collection turned
round. -/
theorem mem_places_reverse {i : Nat} (hi : i < shown.length) :
    i ∈ places t shown.reverse ↔ shown.length - 1 - i ∈ places t shown := by
  change (∃ e, shown.reverse[i]? = some e ∧ e.Contains t) ↔ _
  rw [List.getElem?_reverse hi]
  rfl

theorem lt_of_mem_places {i : Nat} (h : i ∈ places t shown) : i < shown.length := by
  obtain ⟨e, he, -⟩ := h
  exact (List.getElem?_eq_some_iff.1 he).1

/-- The first match from the end is the last. -/
theorem Choice.reverse {found : Option Locator} (h : Choice IsLeast t shown.reverse found) :
    Choice IsGreatest t shown found := by
  cases h with
  | @hit i e hi he =>
    have hlt : i < shown.length := by simpa using lt_of_mem_places hi.1
    rw [List.getElem?_reverse hlt] at he
    refine .hit ⟨(mem_places_reverse hlt).1 hi.1, ?_⟩ he
    intro j hj
    have hjlt := lt_of_mem_places hj
    have hplace : shown.length - 1 - j ∈ places t shown.reverse := by
      rw [mem_places_reverse (by omega)]
      have hback : shown.length - 1 - (shown.length - 1 - j) = j := by omega
      rwa [hback]
    have hle := hi.2 hplace
    omega
  | miss h => exact .miss (by simpa using h)

theorem first?_cons (e : Shown) (rest : List Shown) :
    first? t (e :: rest) = if e.Contains t then some e.locator else first? t rest := by
  by_cases he : e.Contains t <;> simp [first?, he]

/-- Read from the front, a later match takes the place of an earlier one. -/
theorem first?_reverse_cons (e : Shown) (rest : List Shown) :
    first? t (e :: rest).reverse =
      (first? t rest.reverse).or (if e.Contains t then some e.locator else none) := by
  by_cases he : e.Contains t <;>
    simp [first?, List.find?_append, he]

end Shown

/-! ### The reading of a collection -/

namespace Filter

variable {around : Surroundings σ} {m : Machine σ} {t : String} {shown rest : List Shown}

theorem matchesText_run {e : Shown}
    (h : around.driver.Answering m.world ((e :: rest).map Shown.read)) :
    ∃ n, matchesText (.str t) e.locator around m = (.done (decide (e.Contains t)), n) ∧
      Exchanged around m [e.read] n ∧
      around.driver.Answering n.world (rest.map Shown.read) := by
  obtain ⟨n, hrun, hrest⟩ := h.call_run
  refine ⟨n, ?_, .of_call hrun, hrest⟩
  rw [matchesText, Action.bind_done hrun]
  rcases htext : e.text with _ | s
  · simp [Shown.Contains, htext]
  · change Action.ofExcept (.ok (Text.contains s t)) around n = _
    have hcontains : Text.contains s t = decide (e.Contains t) := by
      rw [Bool.eq_iff_iff]
      simp [Shown.Contains, htext, Text.contains_iff]
    rw [Action.ofExcept_ok, hcontains]

theorem firstMatch_run (h : around.driver.Answering m.world (shown.map Shown.read)) :
    ∃ n, firstMatch (.str t) (shown.map Shown.locator) around m =
        (.done (Shown.first? t shown), n) ∧
      Exchanged around m ((Shown.upToMatch t shown).map Shown.read) n := by
  induction shown generalizing m with
  | nil => exact ⟨m, rfl, .refl around m⟩
  | cons e rest ih =>
    obtain ⟨n, hrun, hread, hrest⟩ := matchesText_run h
    rw [List.map_cons, firstMatch, Action.bind_done hrun, Shown.first?_cons, Shown.upToMatch]
    by_cases he : e.Contains t
    · simp only [he, decide_true, if_true]
      exact ⟨n, rfl, hread⟩
    · simp only [he, decide_false, if_false]
      obtain ⟨o, hfound, hreads⟩ := ih hrest
      exact ⟨o, hfound, hread.trans hreads⟩

/-- What was found before stands until another match is seen. -/
theorem lastMatch_run (t : String) (found : Option Locator)
    (h : around.driver.Answering m.world (shown.map Shown.read)) :
    ∃ n, lastMatch (.str t) (shown.map Shown.locator) found around m =
        (.done ((Shown.first? t shown.reverse).or found), n) ∧
      Exchanged around m (shown.map Shown.read) n := by
  induction shown generalizing m found with
  | nil => exact ⟨m, rfl, .refl around m⟩
  | cons e rest ih =>
    obtain ⟨n, hrun, hread, hrest⟩ := matchesText_run h
    obtain ⟨o, hfound, hreads⟩ := ih (if e.Contains t then some e.locator else found) hrest
    refine ⟨o, ?_, hread.trans hreads⟩
    -- The rest comes first: what this element adds counts only if nothing after it matches.
    have hor : ((Shown.first? t rest.reverse).or
          (if e.Contains t then some e.locator else none)).or found =
        (Shown.first? t rest.reverse).or (if e.Contains t then some e.locator else found) := by
      rw [Option.or_assoc]
      by_cases he : e.Contains t <;> simp [he]
    rw [List.map_cons, lastMatch, Action.bind_done hrun, Shown.first?_reverse_cons, hor, ← hfound]
    simp only [decide_eq_true_eq]

end Filter

/-! ### The steps -/

/-- Where the text that is wanted comes from: it is given, or it is kept under a key. -/
inductive Wanted
  | text (t : String)
  | item (key : Value)

namespace Wanted

/-- The text that is wanted, with the items in a store. -/
inductive Means (store : ItemStore) (t : String) : Wanted → Prop
  | text : Means store t (.text t)
  | item {key : Value} (hkey : ItemStore.checkKey key = .ok ())
    (hstored : store.get key = .ok (.str t)) : Means store t (.item key)

def first : Wanted → Step σ
  | .text t => .firstContainingText (.str t)
  | .item key => .firstContainingItem key

def last : Wanted → Step σ
  | .text t => .lastContainingText (.str t)
  | .item key => .lastContainingItem key

def labelOfFirst : Wanted → String
  | .text _ => "first_containing_text"
  | .item _ => "first_containing_item"

def labelOfLast : Wanted → String
  | .text _ => "last_containing_text"
  | .item _ => "last_containing_item"

end Wanted

/-- The context after a choice: the element that was found is in focus and the collection is gone,
or the step has failed and says which text it looked for. -/
def Context.chosen (c : Context) (label t : String) : Option Locator → Context
  | some l => c.withFocus l
  | none => c.unresolved label ("Text '" ++ t ++ "' not found in the context collection.")

section

variable {around : Surroundings σ} {m : Machine σ} {token : Option Token} {c : Context}
  {t : String} {shown : List Shown}

/-- Once the collection has been searched, whichever way, what was found is put into focus. -/
theorem Filter.choosing_run {label : String} {wanted : Context → Action σ Value} {last : Bool}
    {found : Option Locator} {n : Machine σ}
    (hrequired : requireCollection c label = .ok (shown.map Shown.locator))
    (hgiven : wanted c around m = (.done (.str t), m))
    (hrun : (if last then lastMatch (.str t) (shown.map Shown.locator) none
      else firstMatch (.str t) (shown.map Shown.locator)) around m = (.done found, n)) :
    (do
      let ls ← Action.ofExcept (requireCollection c label)
      let wanted ← wanted c
      if wanted.isNone then Action.raise (.usage (label ++ ": text is required"))
      else
        focusFound wanted c (← if last then lastMatch wanted ls none else firstMatch wanted ls) :
      Action σ Context) around m = focusFound (.str t) c found around n := by
  rw [hrequired, Action.bind_done (Action.ofExcept_ok ..), Action.bind_done hgiven,
    if_neg (by simp [Value.isNone])]
  cases last <;> exact Action.bind_done hrun _

theorem Filter.byText_handsBack {label : String} {args : List (String × Value)}
    {wanted : Context → Action σ Value} {last : Bool} {found : Option Locator}
    {xs : List Exchange} (hc : c.failure = none) (hstop : Step.stopReason token m = none)
    (hshown : shown ≠ []) (hcollection : c.collection = some (shown.map Shown.locator))
    (hwanted : ∀ n : Machine σ, n.stores = m.stores → wanted c around n = (.done (.str t), n))
    (hfound : ∀ n : Machine σ, n.world = m.world →
      ∃ o, (if last then lastMatch (.str t) (shown.map Shown.locator) none
          else firstMatch (.str t) (shown.map Shown.locator)) around n = (.done found, o) ∧
        Exchanged around n xs o) :
    (byText label args wanted last).HandsBack c token around m (c.chosen label t found) xs := by
  have hrequired : requireCollection c label = .ok (shown.map Shown.locator) := by
    rw [requireCollection, hcollection]
    cases shown with
    | nil => exact absurd rfl hshown
    | cons e rest => rfl
  have hstores := Sink.given_stores .step (byText label args wanted last).describe c.sink m
  have hworld := Sink.given_world .step (byText label args wanted last).describe c.sink m
  obtain ⟨o, hrun, hxs⟩ := hfound _ hworld
  have hgiven := hwanted _ hstores
  cases found with
  | some l =>
    refine Step.handsBack_of_done hc hstop ?_ hxs
    exact choosing_run hrequired hgiven hrun
  | none =>
    refine Step.handsBack_of_resolution hc hstop ?_ hxs
    exact choosing_run hrequired hgiven hrun

theorem Filter.storedItem_run {key : Value} {n : Machine σ}
    (hkey : ItemStore.checkKey key = .ok ())
    (hstored : (n.stores c.items).get key = .ok (.str t)) :
    storedItem key c around n = (.done (.str t), n) := by
  change (Action.ofExcept (ItemStore.checkKey key) >>= fun _ =>
    Action.ofExcept ((n.stores c.items).get key)) around n = _
  rw [hkey, hstored, Action.bind_done (Action.ofExcept_ok ..), Action.ofExcept_ok]

namespace Wanted

variable {w : Wanted}

/-- The step for the first match reads the elements up to it. -/
theorem first_handsBack (hw : w.Means (m.stores c.items) t) (hc : c.failure = none)
    (hstop : Step.stopReason token m = none) (hshown : shown ≠ [])
    (hcollection : c.collection = some (shown.map Shown.locator))
    (hreads : around.driver.Answering m.world (shown.map Shown.read)) :
    w.first.HandsBack c token around m
      (c.chosen w.labelOfFirst t (Shown.first? t shown))
      ((Shown.upToMatch t shown).map Shown.read) := by
  have hfound : ∀ n : Machine σ, n.world = m.world →
      ∃ o, Filter.firstMatch (.str t) (shown.map Shown.locator) around n =
          (.done (Shown.first? t shown), o) ∧
        Exchanged around n ((Shown.upToMatch t shown).map Shown.read) o :=
    fun n hn => Filter.firstMatch_run (by rwa [hn])
  cases hw with
  | text => exact Filter.byText_handsBack hc hstop hshown hcollection (fun _ _ => rfl) hfound
  | item hkey hstored =>
    refine Filter.byText_handsBack hc hstop hshown hcollection (fun n hn => ?_) hfound
    exact Filter.storedItem_run hkey (by rwa [hn])

/-- The step for the last match reads every element. -/
theorem last_handsBack (hw : w.Means (m.stores c.items) t) (hc : c.failure = none)
    (hstop : Step.stopReason token m = none) (hshown : shown ≠ [])
    (hcollection : c.collection = some (shown.map Shown.locator))
    (hreads : around.driver.Answering m.world (shown.map Shown.read)) :
    w.last.HandsBack c token around m
      (c.chosen w.labelOfLast t (Shown.first? t shown.reverse)) (shown.map Shown.read) := by
  have hfound : ∀ n : Machine σ, n.world = m.world →
      ∃ o, Filter.lastMatch (.str t) (shown.map Shown.locator) none around n =
          (.done (Shown.first? t shown.reverse), o) ∧
        Exchanged around n (shown.map Shown.read) o := by
    intro n hn
    rw [← hn] at hreads
    have hrun := Filter.lastMatch_run t none hreads
    rwa [Option.or_none] at hrun
  cases hw with
  | text => exact Filter.byText_handsBack hc hstop hshown hcollection (fun _ _ => rfl) hfound
  | item hkey hstored =>
    refine Filter.byText_handsBack hc hstop hshown hcollection (fun n hn => ?_) hfound
    exact Filter.storedItem_run hkey (by rwa [hn])

/-- What the steps promise on a context that has not failed and is not stopped, for a collection
that is not empty and whose elements read as texts or as having none. Where the wanted text comes
from shows in nothing but the name of the step that fails, and the last match is the first of the
collection turned round, whenever the elements read the same there. -/
theorem chooses (hc : c.failure = none) (hstop : Step.stopReason token m = none)
    (hshown : shown ≠ []) (hcollection : c.collection = some (shown.map Shown.locator))
    (hreads : around.driver.Answering m.world (shown.map Shown.read)) (t : String) :
    (∃ found, Shown.Choice IsLeast t shown found ∧
      ∀ w : Wanted, w.Means (m.stores c.items) t →
        w.first.HandsBack c token around m (c.chosen w.labelOfFirst t found)
          ((Shown.upToMatch t shown).map Shown.read)) ∧
    ∃ found, Shown.Choice IsGreatest t shown found ∧
      (∀ w : Wanted, w.Means (m.stores c.items) t →
        w.last.HandsBack c token around m (c.chosen w.labelOfLast t found)
          (shown.map Shown.read)) ∧
      ∀ m' : Machine σ, Step.stopReason token m' = none →
        around.driver.Answering m'.world (shown.reverse.map Shown.read) →
        let turned := { c with collection := some (shown.map Shown.locator).reverse }
        ∀ w : Wanted, w.Means (m'.stores c.items) t →
          w.first.HandsBack turned token around m' (turned.chosen w.labelOfFirst t found)
            ((Shown.upToMatch t shown.reverse).map Shown.read) := by
  constructor
  · refine ⟨_, Shown.choice_first, fun w hw => ?_⟩
    exact first_handsBack hw hc hstop hshown hcollection hreads
  · refine ⟨_, Shown.choice_first.reverse, fun w hw => ?_, fun m' hstop' hreads' => ?_⟩
    · exact last_handsBack hw hc hstop hshown hcollection hreads
    · intro turned w hw
      have hturned : shown.reverse ≠ [] := by simpa using hshown
      have hlocators : turned.collection = some (shown.reverse.map Shown.locator) := by
        rw [List.map_reverse]
      exact first_handsBack hw hc hstop' hturned hlocators hreads'

end Wanted

end

namespace Rehearsal

/-- A page with three items, the second of which has no text. -/
def shelf : Page where
  root := plainElement "page" "html"
    [.node ⟨"first", "li", some "green tea", none, [], [], [], none⟩ [],
      plainElement "second" "li" [],
      .node ⟨"third", "li", some "black tea", none, [], [], [], none⟩ []]

def shelfItem (i : Int) : Locator := .root none "li" (some (.whole i))

/-- The items of the shelf as they read. -/
def shelved : List Shown :=
  [⟨shelfItem 0, some "green tea"⟩, ⟨shelfItem 1, none⟩,
    ⟨shelfItem 2, some "black tea"⟩]

theorem shelf_answering : pageDriver.Answering shelf (shelved.map Shown.read) := rfl

end Rehearsal

/-- Two of three items have the word in their text, which is given or read from the store. -/
theorem Wanted.chooses_tea :
    let around : Surroundings Rehearsal.Page := ⟨Rehearsal.pageDriver, .ok {}, 0⟩
    let c : Context := { session := ⟨"fake", "s"⟩, items := 0, sink := .recorder,
                         collection := some (Rehearsal.shelved.map Shown.locator) }
    let m : Machine Rehearsal.Page :=
      { Machine.start Rehearsal.shelf with
        stores := fun _ => ItemStore.empty.set (.str "drink") (.str "tea") }
    let reads := Rehearsal.shelved.map Shown.read
    (∃ found, Shown.Choice IsLeast "tea" Rehearsal.shelved found ∧
      (Step.firstContainingText (.str "tea")).HandsBack c none around m
        (c.chosen "first_containing_text" "tea" found) (reads.take 1) ∧
      (Step.firstContainingItem (.str "drink")).HandsBack c none around m
        (c.chosen "first_containing_item" "tea" found) (reads.take 1)) ∧
    ∃ found, Shown.Choice IsGreatest "tea" Rehearsal.shelved found ∧
      (Step.lastContainingText (.str "tea")).HandsBack c none around m
        (c.chosen "last_containing_text" "tea" found) reads ∧
      (Step.lastContainingItem (.str "drink")).HandsBack c none around m
        (c.chosen "last_containing_item" "tea" found) reads := by
  intro around c m reads
  have hc : c.failure = none := rfl
  have hstop : Step.stopReason none m = none := rfl
  have hshown : Rehearsal.shelved ≠ [] := by simp [Rehearsal.shelved]
  have hreads : around.driver.Answering m.world reads := Rehearsal.shelf_answering
  have hitem : (Wanted.item (.str "drink")).Means (m.stores c.items) "tea" := .item rfl rfl
  have hmatch : Shown.upToMatch "tea" Rehearsal.shelved = Rehearsal.shelved.take 1 := by decide
  obtain ⟨⟨first, hfirst, hone⟩, last, hlast, hother, -⟩ :=
    Wanted.chooses hc hstop hshown rfl hreads "tea"
  rw [hmatch, List.map_take] at hone
  exact ⟨⟨first, hfirst, hone (.text "tea") .text, hone (.item (.str "drink")) hitem⟩,
    last, hlast, hother (.text "tea") .text, hother (.item (.str "drink")) hitem⟩

end BrowserFlow
