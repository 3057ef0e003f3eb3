import BrowserFlow.StepLine
import Mathlib.Algebra.Order.BigOperators.Group.List
import Mathlib.Algebra.Order.Ring.Nat
import Mathlib.Tactic.SplitIfs
import Mathlib.Tactic.Tauto

/-!
# Sizes of rendered arguments

How long an argument can get in the line of a step. A limit cuts the content, not what is shown of
it: containers and all plain values are cut after they are rendered and keep to the limit, but a
text is cut before it is quoted and escaped, and the name of a callable is not cut at all. So a text
keeps to the limit exactly if its whole written form does, which no cut helps with, and a callable
if its name leaves room for the brackets. The rest of a text's length is bounded by what escapes can
add to it.
-/
namespace BrowserFlow

namespace Text

/-- How many characters stand for one character inside quotes. -/
def width (quote c : Char) : Nat :=
  if c = quote ∨ c = '\\' ∨ c = '\n' ∨ c = '\r' ∨ c = '\t' then 2
  else if isPrintable c then 1
  else if c.toNat < 0x100 then 4
  else if c.toNat < 0x10000 then 6
  else 10

/-- How many characters a text takes with the quotes around it. -/
def quotedWidth (content : List Char) : Nat := (content.map (width (quoteFor content))).sum + 2

theorem length_hexDigits (count n : Nat) : (hexDigits count n).length = count := by
  induction count generalizing n with
  | zero => rfl
  | succ count ih => rw [hexDigits, List.length_append, ih, List.length_singleton]

theorem length_codeEscape (c : Char) :
    (codeEscape c).length = if c.toNat < 0x100 then 4 else if c.toNat < 0x10000 then 6 else 10 := by
  unfold codeEscape
  split
  · simp [length_hexDigits]
  · split <;> simp [length_hexDigits]

theorem length_escapeChar (quote c : Char) : (escapeChar quote c).length = width quote c := by
  unfold escapeChar width
  by_cases hquote : c = quote ∨ c = '\\'
  · have hescaped : c = quote ∨ c = '\\' ∨ c = '\n' ∨ c = '\r' ∨ c = '\t' := by tauto
    rw [if_pos hquote, if_pos hescaped]
    rfl
  · by_cases hcontrol : c = '\n' ∨ c = '\r' ∨ c = '\t'
    · have hescaped : c = quote ∨ c = '\\' ∨ c = '\n' ∨ c = '\r' ∨ c = '\t' := by tauto
      rw [if_neg hquote, if_pos hescaped]
      obtain rfl | rfl | rfl := hcontrol <;> rfl
    · have hplain : ¬ (c = quote ∨ c = '\\' ∨ c = '\n' ∨ c = '\r' ∨ c = '\t') := by tauto
      simp only [not_or] at hcontrol
      rw [if_neg hquote, if_neg hplain, if_neg hcontrol.1, if_neg hcontrol.2.1, if_neg hcontrol.2.2]
      split
      · rfl
      · exact length_codeEscape c

theorem length_quotedChars (content : List Char) :
    (quotedChars content).length = quotedWidth content := by
  have hwidth : (escapeChar (quoteFor content) · |>.length) = width (quoteFor content) :=
    funext (length_escapeChar _)
  simp [quotedChars, quotedWidth, List.length_flatMap, hwidth]

theorem length_quoted (s : String) : (quoted s).length = quotedWidth s.toList := by
  rw [quoted, String.length_ofList, length_quotedChars]

theorem one_le_width (quote c : Char) : 1 ≤ width quote c := by
  unfold width
  split_ifs <;> omega

theorem width_le (quote c : Char) : width quote c ≤ 10 := by
  unfold width
  split_ifs <;> omega

theorem length_add_two_le_quotedWidth (content : List Char) :
    content.length + 2 ≤ quotedWidth content := by
  have h := List.card_nsmul_le_sum (content.map (width (quoteFor content))) 1
    (by simpa using fun c _ => one_le_width _ c)
  rw [List.length_map, Nat.nsmul_eq_mul, Nat.mul_one] at h
  rw [quotedWidth]
  omega

theorem quotedWidth_le (content : List Char) : quotedWidth content ≤ 10 * content.length + 2 := by
  have h := List.sum_le_card_nsmul (content.map (width (quoteFor content))) 10
    (by simpa using fun c _ => width_le _ c)
  rw [List.length_map, Nat.nsmul_eq_mul] at h
  rw [quotedWidth]
  omega

end Text

variable {limit : Int}

theorem length_truncate (h : 3 ≤ limit) (s : String) :
    ((truncate limit s).length : Int) = min (s.length : Int) limit := by
  rw [truncate]
  split
  · omega
  · have hkept : (s.toList.take (limit - 3).toNat).length = (limit - 3).toNat := by
      rw [List.length_take, String.length_toList]
      omega
    have hdots : "...".length = 3 := rfl
    rw [String.length_append, String.length_ofList, hkept, hdots]
    omega

/-- Cutting a text does not make room for the quotes: what is too long stays too long. -/
theorem quotedWidth_truncate_le_iff (h : 3 ≤ limit) (s : String) :
    (Text.quotedWidth (truncate limit s).toList : Int) ≤ limit ↔
      (Text.quotedWidth s.toList : Int) ≤ limit := by
  by_cases hs : (s.length : Int) ≤ limit
  · rw [truncate, if_pos hs]
  · have hcut := length_truncate h s
    have hshown := Text.length_add_two_le_quotedWidth (truncate limit s).toList
    have hwhole := Text.length_add_two_le_quotedWidth s.toList
    rw [String.length_toList] at hshown hwhole
    omega

/-- The callable's name fits between the brackets; one without a name shows its type. -/
theorem length_bracketed_le_iff (h : 10 ≤ limit) (name kind : String) :
    ((bracketed name kind).length : Int) ≤ limit ↔
      ((if name.isEmpty then kind else name).length : Int) + 2 ≤ limit := by
  have hbrackets (s : String) : ("[" ++ s ++ "]").length = s.length + 2 := by
    have hopen : "[".length = 1 := rfl
    have hclose : "]".length = 1 := rfl
    rw [String.length_append, String.length_append, hopen, hclose]
    omega
  simp only [bracketed]
  generalize (if name.isEmpty then kind else name) = shown
  rw [hbrackets]
  split
  case isTrue hlambda =>
    subst hlambda
    have hlong : "<lambda>".length = 8 := rfl
    have hshort : "lambda".length = 6 := rfl
    omega
  case isFalse => omega

/-- What is shown of a value keeps to the limit: a text with its quotes and escapes, the name of a
callable with its brackets, and any other value always. -/
def Value.Fits (limit : Int) : Value → Prop
  | .str s => (Text.quotedWidth s.toList : Int) ≤ limit
  | .callable name => (name.length : Int) + 2 ≤ limit
  | .object kind => (kind.length : Int) + 2 ≤ limit
  | _ => True

theorem length_rendered_str (h : 10 ≤ limit) (s : String) :
    ((Value.str s).rendered limit).length = Text.quotedWidth (truncate limit s).toList := by
  rw [Value.rendered]
  split
  case isTrue hmask =>
    have hkept : truncate limit mask = mask := by
      have hlength : mask.length = 8 := rfl
      rw [truncate, if_pos (by omega)]
    subst hmask
    rw [hkept]
    decide
  case isFalse => exact Text.length_quoted _

/-- An argument is rendered within a limit of ten characters or more exactly if it fits. And unless
it is a callable, it never takes more than ten characters for each that the limit allows, and
quotes. -/
theorem Value.rendered_within_iff (h : 10 ≤ limit) (v : Value) :
    (((v.rendered limit).length : Int) ≤ limit ↔ v.Fits limit) ∧
      (v.isCallable = false → ((v.rendered limit).length : Int) ≤ 10 * limit + 2) := by
  cases v with
  | str s =>
    have hcut := length_truncate (by omega : 3 ≤ limit) s
    have hshown := Text.quotedWidth_le (truncate limit s).toList
    rw [String.length_toList] at hshown
    rw [length_rendered_str h]
    refine ⟨quotedWidth_truncate_le_iff (by omega) s, fun _ => ?_⟩
    omega
  | callable name =>
    refine ⟨(length_bracketed_le_iff h name "function").trans ?_, fun hv => by cases hv⟩
    by_cases hname : name.isEmpty
    · have hfunction : "function".length = 8 := rfl
      rw [String.isEmpty_iff] at hname
      subst hname
      exact iff_of_true (by simp; omega) (by simp [Fits]; omega)
    · rw [if_neg hname]
      rfl
  | object kind => exact ⟨length_bracketed_le_iff h "" kind, fun hv => by cases hv⟩
  | _ =>
    -- Everything else is cut after it is rendered.
    have hcut (s : String) : ((truncate limit s).length : Int) ≤ limit := by
      have hlength := length_truncate (by omega : 3 ≤ limit) s
      omega
    exact ⟨iff_of_true (hcut _) trivial, fun _ => (hcut _).trans (by omega)⟩

/-- Five tabs are within a limit of ten characters, and not what stands for them between quotes. -/
theorem Value.rendered_within_iff_tabs :
    (10 : Int) ≤ 10 ∧ ¬ (Value.str "\t\t\t\t\t").Fits 10 ∧
      ¬ (((Value.str "\t\t\t\t\t").rendered 10).length : Int) ≤ 10 := by
  have h : (10 : Int) ≤ 10 := by decide
  have hfits : ¬ (Value.str "\t\t\t\t\t").Fits 10 := by
    rw [Fits]
    decide
  exact ⟨h, hfits, fun hshort => hfits ((rendered_within_iff h _).1.1 hshort)⟩

/-- A text of as many characters as the limit allows takes two more with its quotes. -/
theorem Value.rendered_overlong :
    let v : Value := .str (String.ofList (List.replicate 64 'a'))
    argumentLimit = 64 ∧ (v.rendered argumentLimit).length = 66 ∧
      ¬ ((v.rendered argumentLimit).length : Int) ≤ argumentLimit := by
  intro v
  have hlength : (v.rendered argumentLimit).length = 66 := by decide +kernel
  exact ⟨rfl, hlength, by rw [hlength]; decide⟩

end BrowserFlow
