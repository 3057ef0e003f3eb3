import BrowserFlow.Redaction

/-!
# Redacting

What redaction leaves and what it takes. A redacted value is discreet at every depth: it has no
secret in it, no text that looks like a credential, and under a sensitive key nothing but the mask
or nothing at all. It takes no more than that: wherever it does not put the mask over something
sensitive, the members of containers are redacted one by one, keys stay as they are and in their
order, and any other value is kept. A value that is discreet already is redacted to itself, so
redacting twice is redacting once.
-/
namespace BrowserFlow

open Redaction

namespace Value

/-- Lists, tuples and mappings, whose parts are redacted on their own. -/
def isContainer : Value → Bool
  | list _ | tuple _ | dict _ => true
  | _ => false

/-- What stands in the position of a value, at any depth: the value itself, what its members
contain, and what the values of its entries contain. The keys of entries do not count. -/
inductive Contains : Value → Value → Prop
  | self (v : Value) : Contains v v
  | list {items : List Value} {v w : Value} (hv : v ∈ items) (h : Contains v w) :
    Contains (.list items) w
  | tuple {items : List Value} {v w : Value} (hv : v ∈ items) (h : Contains v w) :
    Contains (.tuple items) w
  | dict {entries : List (Value × Value)} {entry : Value × Value} {w : Value}
    (hentry : entry ∈ entries) (h : Contains entry.2 w) : Contains (.dict entries) w

/-- Nothing at the top of a value has to be hidden. -/
structure Discreet (v : Value) : Prop where
  secret : ∀ s, v ≠ .secret s
  secretBytes : ∀ bs, v ≠ .secretBytes bs
  text : ∀ s, v = .str s → isSensitiveText s = false
  entry : ∀ entries, v = .dict entries → ∀ entry ∈ entries,
    isSensitiveKey entry.1.text = true →
    entry.2 = .none ∨ entry.2 = .str mask

/-- Nothing at any depth of a value has to be hidden. -/
def DiscreetThroughout (v : Value) : Prop := ∀ w, v.Contains w → w.Discreet

end Value

/-- The value of an entry is discreet throughout, and under a sensitive key it is the mask or
nothing. -/
structure DiscreetEntry (entry : Value × Value) : Prop where
  throughout : entry.2.DiscreetThroughout
  hidden : isSensitiveKey entry.1.text = true → entry.2 = .none ∨ entry.2 = .str mask

mutual

/-- What a value may become: the mask if it is sensitive, a container of the same kind with its
parts masked in their places, and otherwise itself. -/
inductive Value.MaskedTo : Value → Value → Prop
  | masked {v : Value} (h : isSensitive v = true) : Value.MaskedTo v (.str mask)
  | kept {v : Value} (hv : v.isContainer = false) (h : isSensitive v = false) : Value.MaskedTo v v
  | list {vs ws : List Value} (h : MaskedToAll vs ws) : Value.MaskedTo (.list vs) (.list ws)
  | tuple {vs ws : List Value} (h : MaskedToAll vs ws) : Value.MaskedTo (.tuple vs) (.tuple ws)
  | dict {vs ws : List (Value × Value)} (h : MaskedToEntries vs ws) :
    Value.MaskedTo (.dict vs) (.dict ws)

inductive MaskedToAll : List Value → List Value → Prop
  | nil : MaskedToAll [] []
  | cons {v w : Value} {vs ws : List Value} (h : Value.MaskedTo v w) (rest : MaskedToAll vs ws) :
    MaskedToAll (v :: vs) (w :: ws)

/-- Each entry keeps its key. Under a sensitive key all is masked but nothing. -/
inductive MaskedToEntries : List (Value × Value) → List (Value × Value) → Prop
  | nil : MaskedToEntries [] []
  | hidden {key v : Value} {vs ws : List (Value × Value)} (hkey : isSensitiveKey key.text = true)
    (hv : v ≠ .none) (rest : MaskedToEntries vs ws) :
    MaskedToEntries ((key, v) :: vs) ((key, .str mask) :: ws)
  | cons {key v w : Value} {vs ws : List (Value × Value)}
    (hkey : isSensitiveKey key.text = true → v = .none) (h : Value.MaskedTo v w)
    (rest : MaskedToEntries vs ws) : MaskedToEntries ((key, v) :: vs) ((key, w) :: ws)

end

namespace Redaction

@[simp]
theorem isSensitiveText_mask : isSensitiveText mask = false := by decide

theorem isNone_eq_true {v : Value} : v.isNone = true ↔ v = .none := by
  cases v <;> simp [Value.isNone]

theorem isContainer_of_isSensitive {v : Value} (h : isSensitive v = true) :
    v.isContainer = false := by
  cases v <;> simp_all [isSensitive, Value.isContainer]

/-- A value that is no container is redacted at its top only. -/
theorem redacted_of_not_isContainer {v : Value} (h : v.isContainer = false) :
    v.redacted = if isSensitive v then .str mask else v := by
  cases v with
  | list _ | tuple _ | dict _ => cases h
  | _ => rfl

theorem redacted_of_isSensitive {v : Value} (h : isSensitive v = true) :
    v.redacted = .str mask := by
  rw [redacted_of_not_isContainer (isContainer_of_isSensitive h), if_pos h]

/-- An entry shows the mask for something under a sensitive key, otherwise its value redacted. -/
theorem shown_eq (key v : Value) :
    (if masksEntry key v then Value.str mask else v.redacted) =
      if isSensitiveKey key.text && !v.isNone then .str mask else v.redacted := by
  cases hnone : v.isNone
  · cases hkey : isSensitiveKey key.text
    · cases hs : isSensitive v
      · simp [masksEntry, hnone, hkey, hs]
      · simp [masksEntry, hnone, hkey, hs, redacted_of_isSensitive hs]
    · simp [masksEntry, hnone, hkey]
  · simp [masksEntry, hnone]

end Redaction

namespace Value

theorem Discreet.isSensitive_eq {v : Value} (h : v.Discreet) : isSensitive v = false := by
  cases v with
  | secret s => exact absurd rfl (h.secret s)
  | secretBytes bs => exact absurd rfl (h.secretBytes bs)
  | str s => exact h.text s rfl
  | _ => rfl

theorem DiscreetThroughout.isSensitive_eq {v : Value} (h : v.DiscreetThroughout) :
    isSensitive v = false :=
  (h v (.self v)).isSensitive_eq

theorem discreetThroughout_of_not_isContainer {v : Value} (hv : v.isContainer = false)
    (h : isSensitive v = false) :
    v.DiscreetThroughout := by
  intro w hw
  cases hw with
  | self =>
    constructor
    · rintro s rfl; cases h
    · rintro bs rfl; cases h
    · rintro s rfl; exact h
    · rintro entries rfl; cases hv
  | list | tuple | dict => cases hv

theorem discreetThroughout_mask : (str mask).DiscreetThroughout :=
  discreetThroughout_of_not_isContainer rfl isSensitiveText_mask

theorem discreetThroughout_list {items : List Value} :
    (list items).DiscreetThroughout ↔ ∀ v ∈ items, v.DiscreetThroughout := by
  refine ⟨fun h v hv w hw => h w (.list hv hw), fun h w hw => ?_⟩
  cases hw with
  | self => constructor <;> intros <;> simp_all
  | list hv hw => exact h _ hv _ hw

theorem discreetThroughout_tuple {items : List Value} :
    (tuple items).DiscreetThroughout ↔ ∀ v ∈ items, v.DiscreetThroughout := by
  refine ⟨fun h v hv w hw => h w (.tuple hv hw), fun h w hw => ?_⟩
  cases hw with
  | self => constructor <;> intros <;> simp_all
  | tuple hv hw => exact h _ hv _ hw

theorem discreetThroughout_dict {entries : List (Value × Value)} :
    (dict entries).DiscreetThroughout ↔ ∀ entry ∈ entries, DiscreetEntry entry := by
  constructor
  · exact fun h entry hentry =>
      ⟨fun w hw => h w (.dict hentry hw), (h _ (.self _)).entry entries rfl entry hentry⟩
  · intro h w hw
    cases hw with
    | self =>
      constructor
      · rintro s ⟨⟩
      · rintro bs ⟨⟩
      · rintro s ⟨⟩
      · rintro _ ⟨⟩ entry hentry
        exact (h entry hentry).hidden
    | dict hentry hw => exact (h _ hentry).throughout _ hw

theorem MaskedTo.eq_none {w : Value} (h : Value.none.MaskedTo w) : w = .none := by
  cases h with
  | masked h => cases h
  | kept => rfl

end Value

mutual

/-- Redaction masks what it may mask, in its place. -/
theorem Value.maskedTo_redacted (v : Value) : v.MaskedTo v.redacted := by
  match v with
  | .list items => exact .list (maskedToAll_redacted items)
  | .tuple items => exact .tuple (maskedToAll_redacted items)
  | .dict entries => exact .dict (maskedToEntries_redacted entries)
  | .none | .bool _ | .int _ | .float _ | .str _ | .bytes _ | .secret _ | .secretBytes _
  | .callable _ | .object _ | .raised .. | .failure .. | .locator _ | .element _ | .other .. =>
    rw [redacted_of_not_isContainer rfl]
    split
    · exact .masked ‹_›
    · exact .kept rfl (Bool.eq_false_iff.mpr ‹_›)

theorem maskedToAll_redacted (vs : List Value) : MaskedToAll vs (redactedAll vs) := by
  match vs with
  | [] => exact .nil
  | v :: vs => exact .cons v.maskedTo_redacted (maskedToAll_redacted vs)

theorem maskedToEntries_redacted (vs : List (Value × Value)) :
    MaskedToEntries vs (redactedEntries vs) := by
  match vs with
  | [] => exact .nil
  | (key, v) :: vs =>
    rw [redactedEntries, shown_eq]
    cases hnone : v.isNone
    · cases hkey : isSensitiveKey key.text
      · exact .cons (by simp [hkey]) v.maskedTo_redacted (maskedToEntries_redacted vs)
      · refine .hidden hkey ?_ (maskedToEntries_redacted vs)
        rintro rfl
        cases hnone
    · rw [Bool.not_true, Bool.and_false, if_neg Bool.false_ne_true]
      exact .cons (fun _ => isNone_eq_true.mp hnone) v.maskedTo_redacted
        (maskedToEntries_redacted vs)

end

mutual

/-- What redaction may make of a value is discreet throughout. -/
theorem Value.MaskedTo.discreet {v w : Value} (h : v.MaskedTo w) : w.DiscreetThroughout := by
  match h with
  | .masked _ => exact Value.discreetThroughout_mask
  | .kept hv h => exact Value.discreetThroughout_of_not_isContainer hv h
  | .list h => exact Value.discreetThroughout_list.mpr h.discreet
  | .tuple h => exact Value.discreetThroughout_tuple.mpr h.discreet
  | .dict h => exact Value.discreetThroughout_dict.mpr h.discreet

theorem MaskedToAll.discreet {vs ws : List Value} (h : MaskedToAll vs ws) :
    ∀ w ∈ ws, w.DiscreetThroughout := by
  match h with
  | .nil => exact fun _ hw => nomatch hw
  | .cons h rest => exact List.forall_mem_cons.mpr ⟨h.discreet, rest.discreet⟩

theorem MaskedToEntries.discreet {vs ws : List (Value × Value)} (h : MaskedToEntries vs ws) :
    ∀ entry ∈ ws, DiscreetEntry entry := by
  match h with
  | .nil => exact fun _ hw => nomatch hw
  | .hidden _ _ rest =>
    exact List.forall_mem_cons.mpr
      ⟨⟨Value.discreetThroughout_mask, fun _ => .inr rfl⟩, rest.discreet⟩
  | .cons hkey h rest =>
    refine List.forall_mem_cons.mpr ⟨⟨h.discreet, fun hsensitive => .inl ?_⟩, rest.discreet⟩
    obtain rfl := hkey hsensitive
    exact h.eq_none

end

mutual

/-- Redaction finds nothing to mask in what is discreet throughout. -/
theorem Value.DiscreetThroughout.redacted_eq {v : Value} (h : v.DiscreetThroughout) :
    v.redacted = v := by
  match v with
  | .list items => rw [Value.redacted, redactedAll_eq items (Value.discreetThroughout_list.mp h)]
  | .tuple items => rw [Value.redacted, redactedAll_eq items (Value.discreetThroughout_tuple.mp h)]
  | .dict entries =>
    rw [Value.redacted, redactedEntries_eq entries (Value.discreetThroughout_dict.mp h)]
  | .none | .bool _ | .int _ | .float _ | .str _ | .bytes _ | .secret _ | .secretBytes _
  | .callable _ | .object _ | .raised .. | .failure .. | .locator _ | .element _ | .other .. =>
    rw [redacted_of_not_isContainer rfl, if_neg (Bool.eq_false_iff.mp h.isSensitive_eq)]

theorem redactedAll_eq (vs : List Value) (h : ∀ v ∈ vs, v.DiscreetThroughout) :
    redactedAll vs = vs := by
  match vs with
  | [] => rfl
  | v :: vs =>
    have ⟨hv, hvs⟩ := List.forall_mem_cons.mp h
    rw [redactedAll, hv.redacted_eq, redactedAll_eq vs hvs]

theorem redactedEntries_eq (vs : List (Value × Value))
    (h : ∀ entry ∈ vs, DiscreetEntry entry) : redactedEntries vs = vs := by
  match vs with
  | [] => rfl
  | (key, v) :: vs =>
    have ⟨hv, hvs⟩ := List.forall_mem_cons.mp h
    rw [redactedEntries, shown_eq, redactedEntries_eq vs hvs, hv.throughout.redacted_eq]
    split
    · obtain rfl | rfl := hv.hidden (by simp_all)
      · simp_all [Value.isNone]
      · rfl
    · rfl

end

/-- Redaction hides all that has to be hidden and no more, keeps the shape around it, and finds
nothing to do the second time. -/
theorem Value.redacted_complete (v : Value) :
    v.redacted.DiscreetThroughout ∧ v.MaskedTo v.redacted ∧ v.redacted.redacted = v.redacted :=
  have h := v.maskedTo_redacted
  ⟨h.discreet, h, h.discreet.redacted_eq⟩

end BrowserFlow
