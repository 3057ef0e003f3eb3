import BrowserFlow.Decimal.Layout
import Mathlib.Data.List.Basic

/-!
# Texts of one kind of character

A text all of whose characters are of some kind stays so when it is cut and when others like it are
put beside it. Written numbers have digits, signs, a point and the mark of an exponent in them and
nothing else, so any kind that takes in these few characters takes in every number.
-/
namespace BrowserFlow.Text

/-- All characters of the text are of this kind. -/
def ConsistsOf (kind : Char → Bool) (s : String) : Prop := ∀ c ∈ s.toList, kind c = true

instance (kind : Char → Bool) : DecidablePred (ConsistsOf kind) := fun s =>
  List.decidableBAll (fun c => kind c = true) s.toList

variable {kind : Char → Bool} {s t : String}

namespace ConsistsOf

theorem mono {wider : Char → Bool} (h : ∀ c, kind c = true → wider c = true)
    (hs : ConsistsOf kind s) : ConsistsOf wider s :=
  fun c hc => h c (hs c hc)

theorem append (hs : ConsistsOf kind s) (ht : ConsistsOf kind t) : ConsistsOf kind (s ++ t) := by
  intro c hc
  rw [String.toList_append] at hc
  exact (List.mem_append.1 hc).elim (hs c) (ht c)

theorem ite {p : Prop} [Decidable p] (hs : ConsistsOf kind s) (ht : ConsistsOf kind t) :
    ConsistsOf kind (if p then s else t) := by
  split
  · exact hs
  · exact ht

/-- What is left of a text after a cut. -/
theorem ofList {l : List Char} (hs : ConsistsOf kind s) (h : l ⊆ s.toList) :
    ConsistsOf kind (String.ofList l) := by
  intro c hc
  rw [String.toList_ofList] at hc
  exact hs c (h hc)

theorem intercalate {parts : List String} (hs : ConsistsOf kind s)
    (h : ∀ part ∈ parts, ConsistsOf kind part) : ConsistsOf kind (s.intercalate parts) := by
  induction parts with
  | nil => exact List.forall_mem_nil _
  | cons part rest ih =>
    obtain ⟨hpart, hrest⟩ := List.forall_mem_cons.1 h
    cases rest with
    | nil => rwa [String.intercalate_singleton]
    | cons next rest =>
      rw [String.intercalate_cons_cons]
      exact (hpart.append hs).append (ih hrest)

end ConsistsOf

/-! ### Numbers -/

/-- A character that numbers are written with. -/
def isNumeral (c : Char) : Bool := c.isDigit || c ∈ ['.', '-', '+', 'e']

theorem consistsOf_nat (n : Nat) : ConsistsOf isNumeral (toString n) := by
  intro c hc
  rw [Nat.toString_eq_repr, Nat.toList_repr] at hc
  rw [isNumeral, Nat.isDigit_of_mem_toDigits (by decide) (by decide) hc, Bool.true_or]

theorem consistsOf_int (n : Int) : ConsistsOf isNumeral (toString n) := by
  rw [Int.toString_eq_repr, Int.repr_eq_if]
  split
  · exact consistsOf_nat _
  · exact .append (by decide) (consistsOf_nat _)

theorem consistsOf_zeros (n : Nat) : ConsistsOf isNumeral (Decimal.zeros n) := by
  intro c hc
  rw [Decimal.zeros, String.toList_ofList] at hc
  rw [List.eq_of_mem_replicate hc]
  decide

theorem consistsOf_padLeft (width : Nat) (hs : ConsistsOf isNumeral s) :
    ConsistsOf isNumeral (Decimal.padLeft width s) :=
  (consistsOf_zeros _).append hs

theorem consistsOf_writeDigits (layout : Decimal.Layout) (x : Decimal.Digits) :
    ConsistsOf isNumeral (layout.writeDigits x) := by
  have hdigits := consistsOf_nat x.digits
  have htake (k : Nat) := hdigits.ofList (List.take_subset k _)
  have hdrop (k : Nat) := hdigits.ofList (List.drop_subset k _)
  have hpoint : ConsistsOf isNumeral "." := by decide
  simp only [Decimal.Layout.writeDigits]
  split
  · split
    · exact (ConsistsOf.append (by decide) (consistsOf_zeros _)).append hdigits
    · split
      · exact (hdigits.append (consistsOf_zeros _)).append (by decide)
      · exact ((htake _).append hpoint).append (hdrop _)
  · refine .append (.append (.append (.append (htake 1) (.ite ?_ (hpoint.append (hdrop 1)))) ?_)
      (.ite ?_ ?_)) (consistsOf_padLeft _ (consistsOf_nat _)) <;> decide

/-- A written float is of a kind that the characters of numbers are of, if the words for what is not
finite are. -/
theorem consistsOf_write {layout : Decimal.Layout}
    (hkind : ∀ c, isNumeral c = true → kind c = true)
    (hinfinity : ConsistsOf kind layout.infinity) (hnan : ConsistsOf kind layout.notANumber)
    (x : Float) : ConsistsOf kind (layout.write x) := by
  have hsign : ConsistsOf kind (if Decimal.isNegative x then "-" else "") :=
    ConsistsOf.mono hkind (.ite (by decide) (by decide))
  have hzero : ConsistsOf kind "0.0" := ConsistsOf.mono hkind (by decide)
  simp only [Decimal.Layout.write]
  split
  · exact hnan
  · split
    · exact hsign.append hinfinity
    · split
      · exact hsign.append hzero
      · exact hsign.append ((consistsOf_writeDigits layout _).mono hkind)

end BrowserFlow.Text
