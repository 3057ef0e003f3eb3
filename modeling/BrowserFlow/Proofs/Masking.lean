import BrowserFlow.Step

/-!
# Masking

What a step line cannot tell. Two values are masked alike when they have the same shape and differ
only where redaction puts its mask: in the content of secrets, in texts that look like credentials
on both sides, and in what is kept under a sensitive key, as long as it is something on both sides.
Redaction makes equals of such values, so whatever is computed from the redacted arguments, the
rendering, both cuts and the line, is the same for arguments that are masked alike.
-/
namespace BrowserFlow

open Redaction

mutual

/-- Two values that differ only in what redaction masks. -/
inductive Value.MaskedAlike : Value → Value → Prop
  | same (v : Value) : Value.MaskedAlike v v
  | secret (s t : String) : Value.MaskedAlike (.secret s) (.secret t)
  | secretBytes (bs cs : List UInt8) : Value.MaskedAlike (.secretBytes bs) (.secretBytes cs)
  | credential {s t : String} (hs : isSensitiveText s) (ht : isSensitiveText t) :
    Value.MaskedAlike (.str s) (.str t)
  | list {vs ws : List Value} (h : MaskedAlikeAll vs ws) : Value.MaskedAlike (.list vs) (.list ws)
  | tuple {vs ws : List Value} (h : MaskedAlikeAll vs ws) :
    Value.MaskedAlike (.tuple vs) (.tuple ws)
  | dict {vs ws : List (Value × Value)} (h : MaskedAlikeEntries vs ws) :
    Value.MaskedAlike (.dict vs) (.dict ws)

inductive MaskedAlikeAll : List Value → List Value → Prop
  | nil : MaskedAlikeAll [] []
  | cons {v w : Value} {vs ws : List Value} (h : Value.MaskedAlike v w)
    (rest : MaskedAlikeAll vs ws) :
    MaskedAlikeAll (v :: vs) (w :: ws)

/-- Entries under the same keys; under a sensitive key there can be anything but nothing. -/
inductive MaskedAlikeEntries : List (Value × Value) → List (Value × Value) → Prop
  | nil : MaskedAlikeEntries [] []
  | cons (key : Value) {v w : Value} {vs ws : List (Value × Value)} (h : Value.MaskedAlike v w)
    (rest : MaskedAlikeEntries vs ws) : MaskedAlikeEntries ((key, v) :: vs) ((key, w) :: ws)
  | hidden {key v w : Value} {vs ws : List (Value × Value)} (hkey : isSensitiveKey key.text)
    (hv : v.isNone = false) (hw : w.isNone = false) (rest : MaskedAlikeEntries vs ws) :
    MaskedAlikeEntries ((key, v) :: vs) ((key, w) :: ws)

end

namespace Value.MaskedAlike

theorem isNone_eq {v w : Value} (h : v.MaskedAlike w) : v.isNone = w.isNone := by
  cases h <;> rfl

theorem isSensitive_eq {v w : Value} (h : v.MaskedAlike w) : isSensitive v = isSensitive w := by
  cases h with
  | credential hs ht => simp only [isSensitive, hs, ht]
  | _ => rfl

theorem masksEntry_eq {v w : Value} (h : v.MaskedAlike w) (key : Value) :
    masksEntry key v = masksEntry key w := by
  simp only [masksEntry, h.isNone_eq, h.isSensitive_eq]

end Value.MaskedAlike

theorem Redaction.masksEntry_hidden {key v : Value} (hkey : isSensitiveKey key.text)
    (hv : v.isNone = false) :
    masksEntry key v = true := by
  simp only [masksEntry, hkey, hv, Bool.not_false, Bool.true_or, Bool.and_self]

mutual

theorem Value.MaskedAlike.redacted_eq {v w : Value} (h : v.MaskedAlike w) :
    v.redacted = w.redacted := by
  cases h with
  | same => rfl
  | secret => rfl
  | secretBytes => rfl
  | credential hs ht => simp only [Value.redacted, isSensitive, hs, ht, ↓reduceIte]
  | list h => rw [Value.redacted, Value.redacted, h.redacted_eq]
  | tuple h => rw [Value.redacted, Value.redacted, h.redacted_eq]
  | dict h => rw [Value.redacted, Value.redacted, h.redacted_eq]

theorem MaskedAlikeAll.redacted_eq {vs ws : List Value} (h : MaskedAlikeAll vs ws) :
    redactedAll vs = redactedAll ws := by
  cases h with
  | nil => rfl
  | cons h rest => rw [redactedAll, redactedAll, h.redacted_eq, rest.redacted_eq]

theorem MaskedAlikeEntries.redacted_eq {vs ws : List (Value × Value)}
    (h : MaskedAlikeEntries vs ws) :
    redactedEntries vs = redactedEntries ws := by
  cases h with
  | nil => rfl
  | cons key h rest =>
    rw [redactedEntries, redactedEntries, h.masksEntry_eq, h.redacted_eq, rest.redacted_eq]
  | hidden hkey hv hw rest =>
    rw [redactedEntries, redactedEntries, masksEntry_hidden hkey hv, masksEntry_hidden hkey hw,
      rest.redacted_eq]
    rfl

end

/-- The arguments of a step as the entries of a mapping, which is how they are redacted. -/
def asEntries (args : List (String × Value)) : List (Value × Value) :=
  args.map fun arg => (.str arg.1, arg.2)

/-- Two ways of giving a step its arguments that differ only in what redaction masks. -/
def ArgumentsMaskedAlike (args args' : List (String × Value)) : Prop :=
  MaskedAlikeEntries (asEntries args) (asEntries args')

theorem redactedArguments_eq (args : List (String × Value)) :
    redactedArguments args = (redactedEntries (asEntries args)).map fun entry =>
      (entry.1.text, entry.2) := by
  induction args with
  | nil => rfl
  | cons arg rest ih =>
    obtain ⟨key, v⟩ := arg
    rw [redactedArguments, List.map_cons, ← redactedArguments, ih]
    rfl

/-- The line of a step tells nothing of what redaction masks: two steps of one name, whose arguments
differ only there, are announced by the same line. -/
theorem Step.describe_of_maskedAlike {σ τ : Type} {s : Step σ} {t : Step τ}
    (hname : s.name = t.name) (hargs : ArgumentsMaskedAlike s.args t.args) :
    s.describe = t.describe := by
  rw [describe, describe, stepLine, stepLine, hname, redactedArguments_eq, redactedArguments_eq,
    MaskedAlikeEntries.redacted_eq hargs]

/-- A step that is given a password, a secret somewhere in a list and a credential under a key that
looks harmless. -/
def Step.signingIn (password code header : Value) : Step Unit where
  name := "sign_in"
  args := [("password", password), ("codes", .list [.int 7, code]),
    ("headers", .dict [(.str "via", header)])]
  body := fun c => pure (.context c)

theorem Step.describe_of_maskedAlike_signingIn :
    (Step.signingIn (.str "hunter2") (.secret "1234") (.str "Bearer abc")).describe =
      (Step.signingIn (.list [.int 5]) (.secret "") (.str " bearer xyz.0= ")).describe :=
  describe_of_maskedAlike rfl <|
    .hidden (by decide +kernel) rfl rfl <|
      .cons _ (.list <| .cons (.same _) <| .cons (.secret _ _) .nil) <|
        .cons _ (.dict <| .cons _ (.credential (by decide +kernel) (by decide +kernel)) .nil) .nil

end BrowserFlow
