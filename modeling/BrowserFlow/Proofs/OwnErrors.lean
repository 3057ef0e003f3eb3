import BrowserFlow.Proofs.Recording
import BrowserFlow.Steps.Assert
import BrowserFlow.Steps.Branch
import BrowserFlow.Steps.Filter
import BrowserFlow.Steps.Retry
import Mathlib.Order.Defs.LinearOrder

/-!
# Errors of the library

The library raises ordinary errors with a text for a message, so that a failure can be built from
each of them. Shown here for everything that the bodies of its steps compute.
-/
namespace BrowserFlow

/-- Whatever error comes of a computation can be recorded. -/
def Raised.RecordableIn {α : Type} (x : Except Raised α) : Prop :=
  ∀ e, x = .error e → e.Recordable

namespace Raised.RecordableIn

variable {α β : Type}

theorem ok (a : α) : RecordableIn (.ok a) := fun _ h => by cases h

theorem error {e : Raised} (he : e.Recordable) : RecordableIn (.error e : Except Raised α) :=
  fun _ h => by cases h; exact he

theorem ite {p : Prop} [Decidable p] {x y : Except Raised α} (hx : RecordableIn x)
    (hy : RecordableIn y) : RecordableIn (if p then x else y) := by
  split
  · exact hx
  · exact hy

theorem bind {x : Except Raised α} {f : α → Except Raised β} (hx : RecordableIn x)
    (hf : ∀ a, RecordableIn (f a)) : RecordableIn (x >>= f) := by
  cases x with
  | error e => exact fun e' h => by cases h; exact hx e rfl
  | ok a => exact hf a

end Raised.RecordableIn

open Raised (RecordableIn recordable_typeError recordable_valueError recordable_step
  recordable_foreign)

theorem Raised.recordable_noAttribute (type member : String) :
    (noAttribute type member).Recordable :=
  recordable_foreign (by decide) _

theorem recordableIn_notAMember {α : Type} (v : Value) (type : String) :
    RecordableIn (.error (notAMember v type) : Except Raised α) := .error (recordable_valueError _)

namespace Focus

theorem recordableIn_through (operation : String) (f : Focus) :
    RecordableIn (f.through operation) := by
  cases f with
  | element l => exact .ok l
  | value v => exact .error (Raised.recordable_noAttribute _ _)

end Focus

namespace Value

theorem recordableIn_isPartOf (wanted : Value) (s : String) : RecordableIn (wanted.isPartOf s) := by
  unfold isPartOf
  split
  · exact .ok _
  · exact .error (recordable_typeError _)

mutual

theorem recordableIn_relate (r : Relation) (a b : Value) : RecordableIn (a.relate r b) := by
  fun_cases relate r a b with
  | case1 a b => exact .ok _
  | case2 a b => exact .ok _
  | case3 xs ys => exact recordableIn_relateAll r _ _
  | case4 xs ys => exact recordableIn_relateAll r _ _
  | case5 => exact .ok _
  | case6 => exact .error (recordable_typeError _)

theorem recordableIn_relateAll (r : Relation) (xs ys : List Value) :
    RecordableIn (relateAll r xs ys) := by
  fun_cases relateAll r xs ys with
  | case1 => exact .ok _
  | case2 => exact .ok _
  | case3 => exact .ok _
  | case4 x xs y ys h => exact recordableIn_relateAll r _ _
  | case5 x xs y ys h => exact recordableIn_relate r _ _

end

theorem recordableIn_read (s : List Char) (shown : String) :
    RecordableIn (Numeral.read s shown) := by
  unfold Numeral.read
  dsimp only
  split
  · exact .error (recordable_valueError _)
  · split
    · exact .error (recordable_valueError _)
    · split
      · split
        · exact .ok _
        · exact .error (recordable_valueError _)
      · exact .error (recordable_valueError _)

theorem recordableIn_toWhole (v : Value) : RecordableIn v.toWhole := by
  unfold toWhole
  split
  · exact .ok _
  · exact .ok _
  · split
    · exact .error (recordable_valueError _)
    · split
      · exact .error (recordable_foreign (by decide) _)
      · exact .ok _
  · exact recordableIn_read _ _
  · exact recordableIn_read _ _
  · exact .error (recordable_typeError _)

end Value

theorem recordableIn_floatOfInt (n : Int) : RecordableIn (floatOfInt n) := by
  unfold floatOfInt
  split
  · exact .error (recordable_foreign (by decide) _)
  · exact .ok _

namespace ItemStore

mutual

theorem recordableIn_checkKey (key : Value) : RecordableIn (checkKey key) := by
  unfold checkKey
  split
  · exact .error (recordable_typeError _)
  · exact .error (recordable_typeError _)
  · exact recordableIn_checkKeys _
  · exact .ok _

theorem recordableIn_checkKeys (keys : List Value) : RecordableIn (checkKeys keys) := by
  unfold checkKeys
  split
  · exact .ok _
  · exact (recordableIn_checkKey _).bind fun _ => recordableIn_checkKeys _

end

theorem recordableIn_put (store : ItemStore) (key value : Value) :
    RecordableIn (store.put key value) := by
  rw [put]
  refine RecordableIn.bind ?_ fun _ => (recordableIn_checkKey key).bind fun _ => .ok _
  rw [Value.readText]
  split
  · exact .error (recordable_typeError _)
  · exact .ok _

theorem recordableIn_get (store : ItemStore) (key : Value) : RecordableIn (store.get key) := by
  rw [get]
  split
  · exact .ok _
  · exact .error (recordable_step _ _)

theorem recordableIn_remove (store : ItemStore) (key : Value) :
    RecordableIn (store.remove key) := by
  rw [remove]
  split
  · exact .ok _
  · exact (recordableIn_checkKey key).bind fun _ => .ok _

end ItemStore

namespace Query

theorem recordableIn_requireSelector (selector : Value) (label : String) :
    RecordableIn (requireSelector selector label) := by
  unfold requireSelector
  dsimp only
  split
  · split
    · exact .error (recordable_step _ _)
    · exact .ok _
  · exact .error (recordable_step _ _)

theorem recordableIn_place (index : Value) (count : Int) (label : String) :
    RecordableIn (readIndex index >>= fun i => resolveIndex i count label) := by
  refine Raised.RecordableIn.bind ?_ fun i => ?_
  · unfold readIndex
    split
    · exact .ok _
    · exact .error (recordable_typeError _)
  · exact .ite (.error (recordable_step _ _)) (.ok _)

end Query

theorem Filter.recordableIn_requireCollection (c : Context) (label : String) :
    RecordableIn (requireCollection c label) := by
  unfold requireCollection
  split
  · exact .error (recordable_step _ _)
  · exact .error (recordable_step _ _)
  · exact .ok _

theorem Step.recordableIn_isExhausted (most : Value) (iterations : Nat) :
    RecordableIn (isExhausted most iterations) := by
  rw [isExhausted]
  split
  · exact .ok _
  · exact Value.recordableIn_relate _ _ _

namespace Retry

theorem recordableIn_readPolicy (word : Value) (s : Settings) :
    RecordableIn (readPolicy word s) := by
  unfold readPolicy
  split
  · exact .ok _
  · split
    · rename_i w _
      cases BackoffPolicy.ofWord? w with
      | none => exact recordableIn_notAMember _ _
      | some policy => exact .ok policy
    · exact recordableIn_notAMember _ _

theorem recordableIn_delay (unitMs : Value) (k : Nat) : RecordableIn (delay unitMs k) := by
  unfold delay
  split
  · exact (recordableIn_floatOfInt _).bind fun _ => .ok _
  · exact (recordableIn_floatOfInt _).bind fun _ => .ok _
  · exact .ok _
  · exact .error (recordable_typeError _)
  · exact .error (recordable_typeError _)
  · exact .error (recordable_typeError _)
  · exact .error (recordable_typeError _)
  · exact .error (recordable_typeError _)

theorem recordableIn_warning (p : Plan) (k : Nat) (e : Raised) : RecordableIn (warning p k e) := by
  rw [warning]
  exact Raised.RecordableIn.bind (fun _ h => Raised.recordable_of_readText h) fun _ => .ok _

end Retry

namespace Failure

theorem recordableIn_make (kind : FailureKind) (message step : Value) (errorType : Option String) :
    RecordableIn (make kind message step errorType) := fun _ h => make_error h

/-- Whatever payload a failure is built from, what goes wrong in it can itself be recorded. -/
theorem recordableIn_coerce (payload step : Value) (kind : FailureKind) :
    RecordableIn (coerce payload step (.ok kind)) := by
  unfold coerce
  split
  · exact .ok _
  · exact fun _ h => ofRaised_error h
  · exact recordableIn_make _ _ _ _
  · exact recordableIn_make _ _ _ _

end Failure

end BrowserFlow
