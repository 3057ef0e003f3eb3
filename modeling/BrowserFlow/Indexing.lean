import BrowserFlow.Failure.Raised

/-!
# Indexes

Which one of several matches an index means. An index that is missing or counts as false means the
first match, and a negative one counts from the end. A place past the last match has an error of its
own; an index with a fraction, or one that could have one, means no place at all.
-/
namespace BrowserFlow

/-- The index in force, zero unless there is another. -/
def effectiveIndex (index : Option Number) : Number := (index.filter Number.isTrue).getD (.whole 0)

/-- The match at an index; `absent` is the error for an index past the last one. -/
def atIndex {α : Type} (index : Option Number) (found : List α) (absent : Number → Raised) :
    Except Raised α :=
  let i := effectiveIndex index
  if i.relate .atLeast (.whole found.length) then .error (absent i)
  else
    match i.whole? with
    | none => .error (.typeError "list indices must be integers or slices, not float")
    | some n =>
      let place := if n < 0 then found.length + n else n
      if place < 0 then .error (.ofText (.foreign "IndexError") "list index out of range")
      else
        match found[place.toNat]? with
        | some a => .ok a
        | none => .error (absent i)

end BrowserFlow
