import BrowserFlow.ItemStore
import Mathlib.Data.List.Induction

/-!
# Keeping items

What a store answers after any history of requests whose keys are texts. Under a key there is what
the last request that bore on it made of it: the text of a value that was written, or nothing after
the key was deleted or all was cleared; where no request bore on it, what was there at the start is
there still. The keys stand in the order in which they came to be there, and all requests that look
at the store agree with one another. Nothing is changed by a request that looks, or by one that
fails.
-/
namespace BrowserFlow.ItemStore

/-! ### What a history leaves -/

namespace Request

/-- The key that a request names. -/
def key? : Request → Option Value
  | set key _ | setItem key _ | delete key | get key _ | getItem key | contains key => some key
  | clear | size | keys | snapshot | describe => none

/-- The key that a request names, if any, is a text. -/
def NamesText (r : Request) : Prop := ∀ key ∈ r.key?, ∃ s, key = .str s

/-- A request that looks at a store. -/
def looks : Request → Bool
  | get .. | getItem _ | contains _ | size | keys | snapshot | describe => true
  | set .. | setItem .. | delete _ | clear => false

/-- What a request makes of what is kept under a key, if it bears on it: a text from then on, or
nothing. Writing a value that has no text bears on no key. -/
def effect (key : String) : Request → Option (Option Value)
  | set (.str k) v | setItem (.str k) v =>
    if k = key then v.readText.toOption.map fun text => some (.str text) else none
  | delete (.str k) => if k = key then some none else none
  | clear => some none
  | _ => none

/-- What is answered where these keys are there, in this order, with these values under them. -/
def answer (keys : List String) (kept : String → Option Value) : Request → Except Raised Value
  | set _ v | setItem _ v => v.readText.map fun _ => .none
  | delete _ | clear => .ok .none
  | get key none | getItem key =>
    ((kept key.text).map .ok).getD
      (.error (.ofText (.step .missingItem) ("Context item '" ++ key.text ++ "' is not set")))
  | get key (some default) => .ok ((kept key.text).getD default)
  | contains key => .ok (.bool (kept key.text).isSome)
  | size => .ok (.int keys.length)
  | .keys => .ok (.list (keys.map .str))
  | snapshot => .ok (.dict (keys.map fun key => (.str key, (kept key).getD .none)))
  | describe => do
    let sorted ← Value.sorted (keys.map .str)
    return .str ("ItemStore(keys=" ++ (Value.list sorted).quoted ++ ")")

end Request

open Request (effect)

/-- What is kept under a key: what the last request that bore on it made of it, or what was there at
the start. -/
def kept (initial : List (String × Value)) (history : List Request) (key : String) :
    Option Value :=
  (history.reverse.findSome? (effect key)).getD (initial.lookup key)

/-- When a key came to be there, to be there ever since. The entries at the start are counted first
and then the requests, of which the latest stands first here. -/
def sinceLatest (initial : List (String × Value)) (key : String) : List Request → Nat
  | [] => (initial.map (·.1)).idxOf key
  | _ :: earlier =>
    if (kept initial earlier.reverse key).isSome then sinceLatest initial key earlier
    else initial.length + earlier.length

def since (initial : List (String × Value)) (history : List Request) (key : String) : Nat :=
  sinceLatest initial key history.reverse

variable {initial : List (String × Value)} {history : List Request} {r : Request}

theorem kept_concat (key : String) :
    kept initial (history ++ [r]) key = (effect key r).getD (kept initial history key) := by
  rw [kept, List.reverse_append, List.reverse_singleton, List.singleton_append,
    List.findSome?_cons]
  cases effect key r <;> rfl

theorem since_concat_of_kept {key : String} (h : (kept initial history key).isSome) :
    since initial (history ++ [r]) key = since initial history key := by
  simp [since, sinceLatest, h]

theorem since_concat_of_not_kept {key : String} (h : kept initial history key = none) :
    since initial (history ++ [r]) key = initial.length + history.length := by
  simp [since, sinceLatest, h]

/-! ### Keys and what is found under them -/

variable {store : ItemStore} {key other : String} {v : Value}

theorem mem_keys_iff : .str key ∈ store.keys ↔ (store.get? (.str key)).isSome := by
  simp only [keys, List.mem_map, get?, Option.isSome_map, List.find?_isSome, Value.sameKey_str]

theorem insertEntry_keys (key : String) (v : Value) (entries : List (Value × Value)) :
    (insertEntry (.str key) v entries).map (·.1) =
      if (get? ⟨entries⟩ (.str key)).isSome then entries.map (·.1)
      else entries.map (·.1) ++ [.str key] := by
  induction entries with
  | nil => rfl
  | cons entry rest ih =>
    obtain ⟨k, old⟩ := entry
    rw [insertEntry]
    by_cases hk : k.sameKey (.str key) = true
    · obtain rfl := Value.sameKey_str.1 hk
      simp [get?, hk]
    · have hget : get? ⟨(k, old) :: rest⟩ (.str key) = get? ⟨rest⟩ (.str key) := by
        simp [get?, hk]
      rw [if_neg hk, List.map_cons, ih, hget, List.map_cons]
      split <;> rfl

theorem insertEntry_get? (key other : String) (v : Value) (entries : List (Value × Value)) :
    get? ⟨insertEntry (.str key) v entries⟩ (.str other) =
      if key = other then some v else get? ⟨entries⟩ (.str other) := by
  induction entries with
  | nil => by_cases h : key = other <;> simp [insertEntry, get?, Value.sameKey_str, h]
  | cons entry rest ih =>
    obtain ⟨k, old⟩ := entry
    rw [insertEntry]
    by_cases hk : k.sameKey (.str key) = true
    · obtain rfl := Value.sameKey_str.1 hk
      rw [if_pos hk]
      by_cases h : key = other <;> simp [get?, Value.sameKey_str, h]
    · rw [if_neg hk]
      by_cases hko : k.sameKey (.str other) = true
      · obtain rfl := Value.sameKey_str.1 hko
        have hne : key ≠ other := fun h => hk (Value.sameKey_str.2 (h ▸ rfl))
        simp [get?, hko, hne]
      · simpa [get?, List.find?_cons, hko] using ih

theorem set_keys (store : ItemStore) (key : String) (v : Value) :
    (store.set (.str key) v).keys =
      if (store.get? (.str key)).isSome then store.keys else store.keys ++ [.str key] :=
  insertEntry_keys key _ store.entries

theorem set_get? (store : ItemStore) (key other text : String) :
    (store.set (.str key) (.str text)).get? (.str other) =
      if key = other then some (.str text) else store.get? (.str other) :=
  insertEntry_get? key other _ store.entries

theorem erase_keys (store : ItemStore) (key : String) :
    (store.erase (.str key)).keys = store.keys.filter (!·.sameKey (.str key)) := by
  rw [keys, erase, keys, List.filter_map]
  rfl

theorem erase_get? (store : ItemStore) (key other : String) :
    (store.erase (.str key)).get? (.str other) =
      if key = other then none else store.get? (.str other) := by
  rw [get?, erase, List.find?_filter]
  by_cases h : key = other
  · subst h
    simp
  · rw [if_neg h, get?]
    congr 2
    funext entry
    cases hother : entry.1.sameKey (.str other) with
    | false => simp
    | true =>
      rw [Value.sameKey_str.1 hother]
      have hne : (Value.str other).sameKey (.str key) = false := by
        rw [Bool.eq_false_iff, ne_eq, Value.sameKey_str, Value.str.injEq]
        exact fun h' => h h'.symm
      simp [hne]

/-! ### Requests with a text for a key -/

theorem put_text (store : ItemStore) (key : String) (v : Value) :
    store.put (.str key) v =
      v.readText.map fun text => store.set (.str key) (.str text) := by
  rw [put]
  cases v.readText <;> rfl

theorem remove_text (store : ItemStore) (key : String) :
    store.remove (.str key) = .ok (store.erase (.str key)) := by
  rw [remove]
  split
  · next hempty =>
    obtain ⟨entries⟩ := store
    obtain rfl : entries = [] := List.isEmpty_iff.1 hempty
    rfl
  · rfl

/-! ### What every request keeps -/

/-- A store holds what a history leaves: these keys in the order in which they came to be there, and
under each key what is kept under it. -/
structure Holds (store : ItemStore) (initial : List (String × Value)) (history : List Request)
    (texts : List String) : Prop where
  keys : store.keys = texts.map .str
  get : ∀ key, store.get? (.str key) = kept initial history key
  ordered : texts.Pairwise fun a b => since initial history a < since initial history b
  early : ∀ key ∈ texts, since initial history key < initial.length + history.length

variable {texts : List String}

theorem Holds.mem_iff (h : store.Holds initial history texts) :
    key ∈ texts ↔ (kept initial history key).isSome := by
  rw [← h.get, ← mem_keys_iff, h.keys]
  simp

theorem Holds.since_concat (h : store.Holds initial history texts) (hkey : key ∈ texts) :
    since initial (history ++ [r]) key = since initial history key :=
  since_concat_of_kept (h.mem_iff.1 hkey)

/-- A request after which no key is there that was not there before. -/
theorem Holds.thin (h : store.Holds initial history texts) {store' : ItemStore}
    {texts' : List String} (hsub : texts'.Sublist texts) (hkeys : store'.keys = texts'.map .str)
    (hget : ∀ key, store'.get? (.str key) = kept initial (history ++ [r]) key) :
    store'.Holds initial (history ++ [r]) texts' := by
  refine ⟨hkeys, hget, ?_, fun key hkey => ?_⟩
  · refine (h.ordered.sublist hsub).imp_of_mem fun ha hb hab => ?_
    rwa [h.since_concat (hsub.subset ha), h.since_concat (hsub.subset hb)]
  · have hearly := h.early key (hsub.subset hkey)
    rw [h.since_concat (hsub.subset hkey), List.length_append]
    omega

/-- A request by which one more key comes to be there. -/
theorem Holds.grow (h : store.Holds initial history texts) {store' : ItemStore}
    (hnew : kept initial history key = none) (hkeys : store'.keys = store.keys ++ [.str key])
    (hget : ∀ key, store'.get? (.str key) = kept initial (history ++ [r]) key) :
    store'.Holds initial (history ++ [r]) (texts ++ [key]) := by
  have hlast : since initial (history ++ [r]) key = initial.length + history.length :=
    since_concat_of_not_kept hnew
  refine ⟨by rw [hkeys, h.keys, List.map_append]; rfl, hget, ?_, fun other hother => ?_⟩
  · refine List.pairwise_append.2 ⟨?_, List.pairwise_singleton .., fun a ha b hb => ?_⟩
    · refine h.ordered.imp_of_mem fun ha hb hab => ?_
      rwa [h.since_concat ha, h.since_concat hb]
    · rw [List.mem_singleton.1 hb, hlast, h.since_concat ha]
      exact h.early a ha
  · rw [List.length_append, List.length_singleton]
    rcases List.mem_append.1 hother with hold | hnew
    · rw [h.since_concat hold]
      exact Nat.lt_succ_of_lt (h.early other hold)
    · rw [List.mem_singleton.1 hnew, hlast]
      exact Nat.lt_succ_self _

/-- A request that bears on no key, or only on what is not there, and leaves the store as it is. -/
theorem Holds.stay (h : store.Holds initial history texts)
    (hkept : ∀ key, kept initial (history ++ [r]) key = kept initial history key) :
    store.Holds initial (history ++ [r]) texts :=
  h.thin (.refl _) h.keys fun key => (h.get key).trans (hkept key).symm

theorem Holds.write (h : store.Holds initial history texts) {text : String}
    (heffect : ∀ other, effect other r = if key = other then some (some (.str text)) else none) :
    ∃ texts', (store.set (.str key) (.str text)).Holds initial (history ++ [r]) texts' := by
  have hget : ∀ other, (store.set (.str key) (.str text)).get? (.str other) =
      kept initial (history ++ [r]) other := by
    intro other
    rw [set_get?, kept_concat, heffect, h.get]
    split <;> rfl
  cases hthere : kept initial history key with
  | some v =>
    refine ⟨texts, h.thin (.refl _) ?_ hget⟩
    rw [set_keys, h.get, hthere]
    exact h.keys
  | none =>
    refine ⟨texts ++ [key], h.grow hthere ?_ hget⟩
    rw [set_keys, h.get, hthere]
    rfl

theorem Holds.delete (h : store.Holds initial history texts)
    (heffect : ∀ other, effect other r = if key = other then some none else none) :
    ∃ texts', (store.erase (.str key)).Holds initial (history ++ [r]) texts' := by
  refine ⟨texts.filter fun t => !(Value.str t).sameKey (.str key),
    h.thin List.filter_sublist ?_ fun other => ?_⟩
  · rw [erase_keys, h.keys, List.filter_map]
    rfl
  · rw [erase_get?, kept_concat, heffect, h.get]
    split <;> rfl

theorem Holds.clear (h : store.Holds initial history texts) :
    empty.Holds initial (history ++ [.clear]) [] :=
  h.thin (List.nil_sublist _) rfl fun key => by rw [kept_concat]; rfl

/-- Writing the text of a value, if it has one. -/
theorem Holds.put (h : store.Holds initial history texts) {v : Value}
    (heffect : ∀ other, effect other r =
      if key = other then v.readText.toOption.map fun text => some (.str text) else none) :
    ∃ texts', (store.change (store.put (.str key) v)).2.Holds initial (history ++ [r])
      texts' := by
  rw [put_text]
  cases hv : v.readText with
  | ok text => exact h.write fun other => by rw [heffect, hv]; rfl
  | error e =>
    refine ⟨texts, h.stay fun other => ?_⟩
    rw [kept_concat, heffect, hv]
    split <;> rfl

/-- A request that looks leaves the store as it is. -/
theorem perform_looks (store : ItemStore) (hr : r.looks = true) : (store.perform r).2 = store := by
  cases r with
  | get key default => cases default <;> rfl
  | set | setItem | delete | clear => cases hr
  | _ => rfl

theorem effect_of_looks (hr : r.looks = true) : effect key r = none := by
  cases r <;> first | rfl | cases hr

/-- One request more. -/
theorem Holds.perform (h : store.Holds initial history texts) (hr : r.NamesText) :
    ∃ texts', (store.perform r).2.Holds initial (history ++ [r]) texts' := by
  by_cases hlooks : r.looks = true
  · rw [perform_looks store hlooks]
    exact ⟨texts, h.stay fun key => by rw [kept_concat, effect_of_looks hlooks]; rfl⟩
  · cases r with
    | set key v | setItem key v =>
      obtain ⟨key, rfl⟩ := hr _ rfl
      exact h.put fun _ => rfl
    | delete key =>
      obtain ⟨key, rfl⟩ := hr _ rfl
      rw [ItemStore.perform, remove_text]
      exact h.delete fun _ => rfl
    | clear => exact ⟨[], h.clear⟩
    | _ => exact absurd rfl hlooks

/-! ### The start -/

/-- Values under texts as a store starts with them. -/
def textEntries (initial : List (String × Value)) : List (Value × Value) :=
  initial.map fun (key, v) => (.str key, v)

theorem textEntries_get? (key : String) : (initial : List (String × Value)) →
    get? ⟨textEntries initial⟩ (.str key) = initial.lookup key
  | [] => rfl
  | (k, v) :: rest => by
    by_cases h : key = k
    · simp [textEntries, get?, Value.sameKey_str, h]
    · have hk : (Value.str k).sameKey (.str key) = false := by
        rw [Bool.eq_false_iff, ne_eq, Value.sameKey_str, Value.str.injEq]
        exact fun h' => h h'.symm
      have hrest := textEntries_get? key rest
      rw [List.lookup_cons, beq_false_of_ne h, ← hrest]
      simp [textEntries, get?, hk]

theorem insertEntry_of_absent {entries : List (Value × Value)}
    (h : get? ⟨entries⟩ (.str key) = none) :
    insertEntry (.str key) v entries = entries ++ [(.str key, v)] := by
  induction entries with
  | nil => rfl
  | cons entry rest ih =>
    obtain ⟨k, old⟩ := entry
    cases hk : k.sameKey (.str key) with
    | true => simp [get?, hk] at h
    | false =>
      have hrest : get? ⟨rest⟩ (.str key) = none := by simpa [get?, hk] using h
      simp [insertEntry, hk, ih hrest]

/-- Values under different keys are all kept as they are. -/
theorem ofList_textEntries (hinitial : (initial.map (·.1)).Nodup) :
    ofList (textEntries initial) = ⟨textEntries initial⟩ := by
  induction initial using List.reverseRecOn with
  | nil => rfl
  | append_singleton earlier entry ih =>
    obtain ⟨key, v⟩ := entry
    rw [List.map_append, List.nodup_append] at hinitial
    obtain ⟨hearlier, -, hnew⟩ := hinitial
    have habsent : get? ⟨textEntries earlier⟩ (.str key) = none := by
      rw [textEntries_get?, List.lookup_eq_none_iff]
      intro e he
      simpa using (hnew e.1 (List.mem_map_of_mem he) key (by simp)).symm
    rw [textEntries, List.map_append, ofList, List.foldl_append]
    change ItemStore.mk (insertEntry (.str key) v (ofList (textEntries earlier)).entries) = _
    rw [ih hearlier, insertEntry_of_absent habsent]
    rfl

/-- A store that starts with values under different keys. -/
theorem holds_start (hinitial : (initial.map (·.1)).Nodup) :
    (ofList (textEntries initial)).Holds initial [] (initial.map (·.1)) := by
  rw [ofList_textEntries hinitial]
  refine ⟨?_, fun key => textEntries_get? key initial, ?_, fun key hkey => ?_⟩
  · simp [keys, textEntries]
  · refine List.pairwise_iff_getElem.2 fun i j hi hj hij => ?_
    change List.idxOf _ _ < List.idxOf _ _
    rwa [hinitial.idxOf_getElem, hinitial.idxOf_getElem]
  · change List.idxOf key _ < initial.length + 0
    simpa using List.idxOf_lt_length_of_mem hkey

/-- A store after any requests with texts for keys. -/
theorem holds_performAll (hinitial : (initial.map (·.1)).Nodup)
    (hhistory : ∀ r ∈ history, r.NamesText) :
    ∃ texts, ((ofList (textEntries initial)).performAll history).Holds initial history texts := by
  induction history using List.reverseRecOn with
  | nil => exact ⟨_, holds_start hinitial⟩
  | append_singleton earlier r ih =>
    obtain ⟨hearlier, hr⟩ := List.forall_mem_append.1 hhistory
    obtain ⟨texts, h⟩ := ih hearlier
    rw [performAll, List.foldl_append]
    exact h.perform (hr r (List.mem_singleton_self r))

/-! ### Answers -/

theorem Holds.get_eq (h : store.Holds initial history texts) (key : String) :
    store.get (.str key) = ((kept initial history key).map .ok).getD
      (.error (.ofText (.step .missingItem) ("Context item '" ++ key ++ "' is not set"))) := by
  rw [ItemStore.get, h.get]
  cases kept initial history key <;> rfl

/-- Under the key of an entry is the value of that entry, where no key is there twice. -/
theorem entries_eq {entries : List (Value × Value)} (hkeys : entries.map (·.1) = texts.map .str)
    (hnodup : texts.Nodup) :
    entries = texts.map fun key => (.str key, (get? ⟨entries⟩ (.str key)).getD .none) := by
  induction texts generalizing entries with
  | nil => exact List.map_eq_nil_iff.1 hkeys
  | cons t rest ih =>
    obtain ⟨⟨k, v⟩, entries, rfl, rfl, hrest⟩ := List.map_eq_cons_iff.1 hkeys
    obtain ⟨ht, hnodup⟩ := List.nodup_cons.1 hnodup
    have hothers : ∀ key ∈ rest, get? ⟨(.str t, v) :: entries⟩ (.str key) =
        get? ⟨entries⟩ (.str key) := by
      intro key hkey
      have hne : (Value.str t).sameKey (.str key) = false := by
        rw [Bool.eq_false_iff, ne_eq, Value.sameKey_str, Value.str.injEq]
        exact fun h => ht (h ▸ hkey)
      simp [get?, hne]
    refine List.cons_eq_cons.2 ⟨by simp [get?, Value.sameKey_str], (ih hrest hnodup).trans ?_⟩
    exact List.map_congr_left fun key hkey => by rw [hothers key hkey]

theorem Holds.entries (h : store.Holds initial history texts) :
    store.entries = texts.map fun key => (.str key, (kept initial history key).getD .none) := by
  have hnodup : texts.Nodup := h.ordered.imp fun hab heq => by simp [heq] at hab
  have hentries := entries_eq h.keys hnodup
  simpa only [h.get] using hentries

/-- The answer to a request is that of what the history leaves. -/
theorem Holds.answers (h : store.Holds initial history texts) (hr : r.NamesText) :
    (store.perform r).1 = r.answer texts (kept initial history) := by
  cases r with
  | set key v | setItem key v =>
    obtain ⟨key, rfl⟩ := hr _ rfl
    rw [ItemStore.perform, put_text, Request.answer]
    cases v.readText <;> rfl
  | delete key =>
    obtain ⟨key, rfl⟩ := hr _ rfl
    rw [ItemStore.perform, remove_text]
    rfl
  | clear => rfl
  | get key default =>
    obtain ⟨key, rfl⟩ := hr _ rfl
    cases default with
    | none => exact h.get_eq key
    | some v => exact congrArg (fun x => Except.ok (x.getD v)) (h.get key)
  | getItem key =>
    obtain ⟨key, rfl⟩ := hr _ rfl
    exact h.get_eq key
  | contains key =>
    obtain ⟨key, rfl⟩ := hr _ rfl
    exact congrArg (fun x => Except.ok (Value.bool x.isSome)) (h.get key)
  | size =>
    have hsize : store.size = texts.length := by rw [ItemStore.size, h.entries, List.length_map]
    exact congrArg (fun n : Nat => Except.ok (Value.int n)) hsize
  | keys => exact congrArg (fun keys => Except.ok (Value.list keys)) h.keys
  | snapshot => exact congrArg (fun entries => Except.ok (Value.dict entries)) h.entries
  | describe =>
    rw [ItemStore.perform, ItemStore.describe, ItemStore.sortedKeys, h.keys, Request.answer]
    cases Value.sorted (texts.map .str) <;> rfl

theorem change_error {changed : Except Raised ItemStore} {e : Raised}
    (h : (store.change changed).1 = .error e) : (store.change changed).2 = store := by
  cases changed with
  | ok _ => cases h
  | error _ => rfl

/-- What goes wrong leaves the store as it is. -/
theorem perform_error {e : Raised} (h : (store.perform r).1 = .error e) :
    (store.perform r).2 = store := by
  by_cases hlooks : r.looks = true
  · exact perform_looks store hlooks
  · cases r with
    | set | setItem | delete => exact change_error h
    | clear => cases h
    | _ => exact absurd rfl hlooks

/-- After any requests, a store answers every other one from one list of keys, each of which is
there since some moment later than the ones before it, and from what the history leaves under them.
What looks and what goes wrong changes nothing. -/
theorem performAll_answers (hinitial : (initial.map (·.1)).Nodup)
    (hhistory : ∀ r ∈ history, r.NamesText) :
    let store := (ofList (textEntries initial)).performAll history
    ∃ keys : List String, keys.Nodup ∧
      keys.Pairwise (fun a b => since initial history a < since initial history b) ∧
      (∀ key, key ∈ keys ↔ (kept initial history key).isSome) ∧
      ∀ r : Request, r.NamesText →
        (store.perform r).1 = r.answer keys (kept initial history) ∧
          (r.looks = true ∨ (∃ e, (store.perform r).1 = .error e) →
            (store.perform r).2 = store) := by
  intro store
  obtain ⟨keys, h⟩ := holds_performAll hinitial hhistory
  refine ⟨keys, h.ordered.imp fun hab heq => by simp [heq] at hab, h.ordered, fun _ => h.mem_iff,
    fun r hr => ⟨h.answers hr, ?_⟩⟩
  rintro (hlooks | ⟨e, he⟩)
  · exact perform_looks store hlooks
  · exact perform_error he

/-- A key that was deleted and written again comes after one that was written in between. -/
theorem performAll_answers_rewritten :
    let initial := [("a", Value.int 1)]
    let history := [Request.set (.str "b") (.int 3), .delete (.str "a"),
      .setItem (.str "a") (.bool true)]
    let store := (ofList (textEntries initial)).performAll history
    (initial.map (·.1)).Nodup ∧ (∀ r ∈ history, r.NamesText) ∧
      since initial history "b" < since initial history "a" ∧
      (store.perform (.getItem (.str "a"))).1 = .ok (.str "True") ∧
      (store.perform (.get (.str "c") none)).1 =
        .error (.ofText (.step .missingItem) "Context item 'c' is not set") := by
  intro initial history store
  have hinitial : (initial.map (·.1)).Nodup := by decide
  have hhistory : ∀ r ∈ history, r.NamesText := by
    simp [history, Request.NamesText, Request.key?]
  obtain ⟨keys, -, -, -, hanswers⟩ := performAll_answers hinitial hhistory
  refine ⟨hinitial, hhistory, by decide, ?_, ?_⟩
  · exact (hanswers (.getItem (.str "a")) fun _ h => ⟨"a", (Option.some.inj h).symm⟩).1
  · exact (hanswers (.get (.str "c") none) fun _ h => ⟨"c", (Option.some.inj h).symm⟩).1

end BrowserFlow.ItemStore
