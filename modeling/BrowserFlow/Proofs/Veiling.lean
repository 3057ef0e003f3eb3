import BrowserFlow.Proofs.Pairing
import Mathlib.Data.List.Forall2

/-!
# Veiled items

Stores that differ in nothing but the value under one key, and what becomes of two runs on such
stores. Only the filters by that item read it; any other step without callbacks runs alike, the one
that stores the item among them, whichever value it is given. All that a filter does to the machine
is to read elements, so if it makes the same calls and ends the same way it has run alike as well.
-/
namespace BrowserFlow

variable {σ : Type}

/-! ### Stores that differ in one item -/

namespace ItemStore

/-- Two entries with the same key, and with the same value unless the key is the veiled one. -/
structure EntryVeiled (key : String) (e f : Value × Value) : Prop where
  keys : e.1 = f.1
  values : e.1 ≠ .str key → e.2 = f.2

/-- Two stores that differ in nothing but the value under a key. -/
def Veiled (key : String) (a b : ItemStore) : Prop :=
  List.Forall₂ (EntryVeiled key) a.entries b.entries

theorem EntryVeiled.refl (key : String) (e : Value × Value) : EntryVeiled key e e :=
  ⟨rfl, fun _ => rfl⟩

variable {key : String}

theorem Veiled.refl (a : ItemStore) : Veiled key a a := List.forall₂_same.2 fun e _ => .refl key e

theorem veiled_insertEntry {k u v : Value} (huv : k ≠ .str key → u = v)
    {es fs : List (Value × Value)} (h : List.Forall₂ (EntryVeiled key) es fs) :
    List.Forall₂ (EntryVeiled key) (insertEntry k u es) (insertEntry k v fs) := by
  induction h with
  | nil => exact .cons ⟨rfl, huv⟩ .nil
  | @cons e f es fs hentry hrest ih =>
    obtain ⟨k', x⟩ := e
    obtain ⟨k'', y⟩ := f
    obtain ⟨rfl, hvalue⟩ := hentry
    simp only [insertEntry]
    split
    case isTrue hk =>
      refine .cons ⟨rfl, fun hk' => huv fun hk'' => hk' ?_⟩ hrest
      rwa [hk'', Value.sameKey_str] at hk
    case isFalse => exact .cons ⟨rfl, hvalue⟩ ih

/-- Whatever is stored under the veiled key makes no other difference. -/
theorem Veiled.set {a b : ItemStore} (h : Veiled key a b) {k u v : Value}
    (huv : k ≠ .str key → u = v) :
    Veiled key (a.set k u) (b.set k v) :=
  veiled_insertEntry (fun hk => congrArg (Value.str ∘ Value.text) (huv hk)) h

/-- It can be stored if it has a text, so what has none is to have none in both runs. -/
theorem Veiled.put {a b : ItemStore} (h : Veiled key a b) {k u v : Value}
    (hobstacle : u.textObstacle = v.textObstacle) (huv : k ≠ .str key → u = v) :
    ExceptAlike (Veiled key) (a.put k u) (b.put k v) := by
  rw [ItemStore.put, ItemStore.put, Value.readText, Value.readText, hobstacle]
  cases v.textObstacle with
  | some type => exact .error _
  | none =>
    exact .bind_same fun _ => .ok (h.set fun hk => congrArg (Value.str ∘ Value.text) (huv hk))

theorem veiled_filter (p : Value → Bool) {es fs : List (Value × Value)}
    (h : List.Forall₂ (EntryVeiled key) es fs) :
    List.Forall₂ (EntryVeiled key) (es.filter (p ·.1)) (fs.filter (p ·.1)) := by
  induction h with
  | nil => exact .nil
  | cons hentry hrest ih =>
    rw [List.filter_cons, List.filter_cons, ← hentry.keys]
    split
    · exact .cons hentry ih
    · exact ih

theorem Veiled.remove {a b : ItemStore} (h : Veiled key a b) (k : Value) :
    ExceptAlike (Veiled key) (a.remove k) (b.remove k) := by
  have hempty : ∀ {es fs : List (Value × Value)}, List.Forall₂ (EntryVeiled key) es fs →
      es.isEmpty = fs.isEmpty := by
    intro es fs h
    cases h <;> rfl
  rw [ItemStore.remove, ItemStore.remove, ← hempty h]
  split
  · exact .ok h
  · rcases checkKey k with e | _
    · exact .error e
    · exact .ok (veiled_filter (fun k' => !k'.sameKey k) h)

/-- Any other key is read the same. -/
theorem Veiled.get {a b : ItemStore} (h : Veiled key a b) {k : Value} (hk : k ≠ .str key) :
    a.get k = b.get k := by
  have hfind : ∀ {es fs : List (Value × Value)}, List.Forall₂ (EntryVeiled key) es fs →
      (es.find? (·.1.sameKey k)).map (·.2) = (fs.find? (·.1.sameKey k)).map (·.2) := by
    intro es fs h
    induction h with
    | nil => rfl
    | @cons e f es fs hentry hrest ih =>
      simp only [List.find?_cons, ← hentry.keys]
      split
      case h_1 hsame =>
        refine congrArg some (hentry.values fun he => hk ?_)
        rwa [he, Value.str_sameKey, eq_comm] at hsame
      case h_2 => exact ih
  rw [ItemStore.get, ItemStore.get, get?, get?, hfind h]

end ItemStore

namespace Likeness

/-- Nothing differs but the item under a key. -/
def veil (key : String) : Likeness := .ofLogs (ItemStore.Veiled key) Eq

variable {key : String}

theorem veil_fits : (veil key).Fits :=
  ofLogs_fits (fun gs h => congrArg (· ++ gs) h)
    (fun id h => congrArg (Event.invocations id) h) (.refl _)
    (fun _ _ h => h.set fun _ => rfl) fun k h => h.remove k

theorem veil_legible {k : Value} (hk : k ≠ .str key) : (veil key).Legible k := fun h => h.get hk

end Likeness

/-! ### What filters read -/

theorem Step.ofBody_machine (name : String) (args : List (String × Value))
    (body : Context → Action σ Context) (c : Context) (around : Surroundings σ)
    (m : Machine σ) : ((ofBody name args body).body c around m).2 = (body c around m).2 := by
  rw [ofBody_run]
  rcases body c around m with ⟨d | e | _, n⟩ <;> rfl

namespace Filter

variable {around : Surroundings σ}

/-- The machine after the texts of elements were read one after the other. -/
def reading (around : Surroundings σ) (ls : List Locator) (m : Machine σ) : Machine σ :=
  ls.foldl (fun n l => (Action.call (.text l) around n).2) m

theorem calls_reading (ls : List Locator) (m : Machine σ) :
    Event.calls (reading around ls m).log = Event.calls m.log ++ ls.map .text := by
  induction ls generalizing m with
  | nil => simp [reading]
  | cons l rest ih =>
    rw [reading, List.foldl_cons, ← reading, ih, Action.call_run, Event.calls_append,
      Event.calls_call, Event.calls_sent, List.append_assoc]
    rfl

/-- On machines that are alike the texts are read alike. -/
theorem reading_machines {K : Likeness} (hK : K.Fits) (ls : List Locator) {m n : Machine σ}
    (h : K.Machines m n) : K.Machines (reading around ls m) (reading around ls n) := by
  induction ls generalizing m n with
  | nil => exact h
  | cons l rest ih => exact ih (Action.Matches.call hK (.text l) h).machines

theorem matchesText_machine (wanted : Value) (l : Locator) (m : Machine σ) :
    (matchesText wanted l around m).2 = (Action.call (.text l) around m).2 := by
  rw [matchesText, Action.bind_run]
  rcases Action.call (.text l) around m with ⟨s | e | _, n⟩
  · cases s with
    | none => rfl
    | some s =>
      dsimp only
      cases Value.isPartOf wanted s <;> rfl
  · rfl
  · rfl

/-- Looking for a text is reading elements, as many as it takes. -/
theorem firstMatch_reads (wanted : Value) (ls : List Locator) (m : Machine σ) :
    ∃ seen, (firstMatch wanted ls around m).2 = reading around seen m := by
  induction ls generalizing m with
  | nil => exact ⟨[], rfl⟩
  | cons l rest ih =>
    have hfirst : (matchesText wanted l around m).2 = reading around [l] m :=
      matchesText_machine wanted l m
    rw [firstMatch, Action.bind_run]
    rcases hread : matchesText wanted l around m with ⟨(_ | _) | e | _, n⟩ <;>
      rw [hread] at hfirst
    · obtain ⟨seen, hseen⟩ := ih n
      exact ⟨l :: seen, hseen.trans (congrArg (reading around seen) hfirst)⟩
    all_goals exact ⟨[l], hfirst⟩

theorem lastMatch_reads (wanted : Value) (ls : List Locator) (found : Option Locator)
    (m : Machine σ) :
    ∃ seen, (lastMatch wanted ls found around m).2 = reading around seen m := by
  induction ls generalizing found m with
  | nil => exact ⟨[], rfl⟩
  | cons l rest ih =>
    have hfirst : (matchesText wanted l around m).2 = reading around [l] m :=
      matchesText_machine wanted l m
    rw [lastMatch, Action.bind_run]
    rcases hread : matchesText wanted l around m with ⟨hit | e | _, n⟩ <;> rw [hread] at hfirst
    · obtain ⟨seen, hseen⟩ := ih (if hit then some l else found) n
      exact ⟨l :: seen, hseen.trans (congrArg (reading around seen) hfirst)⟩
    all_goals exact ⟨[l], hfirst⟩

/-- What a filter does to the machine is to read elements. -/
theorem byText_reads (label : String) (args : List (String × Value))
    {wanted : Context → Action σ Value} (hwanted : ∀ c m, (wanted c around m).2 = m)
    (last : Bool) (c : Context) (m : Machine σ) :
    ∃ seen, ((byText label args wanted last).body c around m).2 = reading around seen m := by
  have hfocus : ∀ (w : Value) (search : Action σ (Option Locator)),
      ((search >>= focusFound w c) around m).2 = (search around m).2 := by
    intro w search
    rw [Action.bind_run]
    rcases search around m with ⟨(_ | l) | e | _, n⟩ <;> rfl
  rw [byText, Step.ofBody_machine]
  rcases requireCollection c label with e | ls
  · exact ⟨[], rfl⟩
  · have hw := hwanted c m
    rw [Action.bind_done (Action.ofExcept_ok around m ls), Action.bind_run]
    rcases hwant : wanted c around m with ⟨w | e | _, n⟩ <;> rw [hwant] at hw <;>
      obtain rfl := hw
    · dsimp only
      split
      · exact ⟨[], rfl⟩
      · cases last with
        | true => exact (lastMatch_reads w ls none n).imp fun _ => (hfocus w _).trans
        | false => exact (firstMatch_reads w ls n).imp fun _ => (hfocus w _).trans
    · exact ⟨[], rfl⟩
    · exact ⟨[], rfl⟩

theorem storedItem_machine (key : Value) (c : Context) (m : Machine σ) :
    (storedItem key c around m).2 = m := by
  rw [storedItem]
  change ((Action.ofExcept _ >>= _) around m).2 = m
  rcases ItemStore.checkKey key with e | _
  · rfl
  · change ((Action.ofExcept _) around m).2 = m
    cases (m.stores c.items).get key <;> rfl

end Filter

/-! ### Steps without callbacks -/

/-- No callback at all, and no step of the caller's own. -/
def Manners.callbackFree : Manners σ where
  callback := fun _ => False
  message := fun _ => False
  step := fun _ => False

variable {around : Surroundings σ} {key : String}

theorem Plain.matches {K : Likeness} (hK : K.Fits) {s : Step σ}
    (h : Plain .callbackFree Manners.callbackFree.callback s)
    (hreads : ∀ k, s.ReadsItem k → K.Legible k) : s.Matches around K s := by
  cases h with
  | atomic h => exact h.matches hK hreads
  | collectionFilter hpick => exact Step.matches_collectionFilter fun f hf => (hpick f hf).elim
  | assertion hpredicate hmessage =>
    exact Step.matches_assertion (fun f hf => (hpredicate f hf).elim)
      fun f hf => (hmessage f hf).elim
  | createFailure hproblem => exact Step.matches_createFailure hK fun f hf => (hproblem f hf).elim

/-- A filter by the veiled item runs alike if it makes the same calls and ends the same way. -/
theorem Step.ReadsItem.ends {s : Step σ} {k : Value} (h : s.ReadsItem k) {c : Context}
    {m n : Machine σ} (hm : (Likeness.veil key).Machines m n)
    (hending : (s.body c around m).1 = (s.body c around n).1)
    (hcalls : Event.calls (s.body c around m).2.log = Event.calls (s.body c around n).2.log) :
    (Likeness.veil key).Ends (Likeness.veil key).Answers (s.body c around m)
      (s.body c around n) := by
  have hreads : ∀ o : Machine σ,
      ∃ seen, (s.body c around o).2 = Filter.reading around seen o := by
    intro o
    cases h with
    | first => exact Filter.byText_reads _ _ (Filter.storedItem_machine k) false c o
    | last => exact Filter.byText_reads _ _ (Filter.storedItem_machine k) true c o
  obtain ⟨seen, hseen⟩ := hreads m
  obtain ⟨seen', hseen'⟩ := hreads n
  have hlog : m.log = n.log := hm.trace.1
  rw [hseen, hseen', Filter.calls_reading, Filter.calls_reading, hlog, List.append_cancel_left_eq]
    at hcalls
  obtain rfl : seen = seen' := List.map_injective_iff.2 (fun _ _ h => by injection h) hcalls
  have hafter : (Likeness.veil key).Machines (s.body c around m).2 (s.body c around n).2 := by
    rw [hseen, hseen']
    exact Filter.reading_machines Likeness.veil_fits seen hm
  generalize s.body c around m = r, s.body c around n = r' at hending hafter
  obtain ⟨ending, m'⟩ := r
  obtain ⟨_, n'⟩ := r'
  obtain rfl := hending
  rcases ending with ⟨d | v⟩ | e | _
  · exact .done (.context (.refl d)) hafter
  · exact .done (.value v) hafter
  · exact .raised e hafter
  · exact .endless hafter

theorem Step.requireValue_matches {K : Likeness} {u v : Value} (hu : u.isNone = false)
    (hv : v.isNone = false) (label what : String) :
    (requireValue u label what : Action σ Value).Matches around K
      (fun a b => a = u ∧ b = v) (requireValue v label what) := by
  rw [requireValue, requireValue, hu, hv]
  exact .pure ⟨rfl, rfl⟩

/-- Storing one or the other value under the veiled key leaves machines alike. -/
theorem Step.setItem_matches {u v : Value} (hu : u.isNone = false) (hv : v.isNone = false)
    (hobstacle : u.textObstacle = v.textObstacle) (c : Context) :
    ((setItem (.str key) u).body c).Matches around (Likeness.veil key) (Likeness.veil key).Answers
      ((setItem (.str key) v).body c) := by
  refine Action.Matches.bind (V := (Likeness.veil key).Contexts) ?_ fun hd => .pure (.context hd)
  refine (requireValue_matches rfl rfl _ _).bind fun ⟨hk, hk'⟩ => ?_
  refine (requireValue_matches hu hv _ _).bind fun ⟨ha, hb⟩ => ?_
  rw [hk, hk', ha, hb]
  refine (Action.Matches.items c.items).bind fun hstores => ?_
  have hput := hstores.put hobstacle fun hkey => absurd rfl hkey
  refine (Action.Matches.ofExcept hput).bind fun hkept => ?_
  exact (Action.Matches.changeItems c.items fun _ => hkept).bind_same fun _ => .pure (.refl c)

end BrowserFlow
