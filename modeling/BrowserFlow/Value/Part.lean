import BrowserFlow.Value.Order

/-!
# Parts of values

The part of a sequence at an index, or of a mapping under a key. A negative index counts from the
end. Each sort of sequence has its own words for an index that is past its ends or is no whole
number.
-/
namespace BrowserFlow

/-- The sorts of sequence. -/
inductive Sequence
  | list | tuple | text | bytes
deriving DecidableEq, Repr

namespace Sequence

def outside (kind : Sequence) : Raised :=
  .ofText (.foreign "IndexError") <|
    match kind with
    | list => "list index out of range"
    | tuple => "tuple index out of range"
    | text => "string index out of range"
    | bytes => "index out of range"

/-- The error of an index that is no whole number. -/
def unusable (kind : Sequence) (index : Value) : Raised :=
  let type := index.fullTypeName
  .typeError <|
    match kind with
    | list => "list indices must be integers or slices, not " ++ type
    | tuple => "tuple indices must be integers or slices, not " ++ type
    | text => "string indices must be integers, not '" ++ type ++ "'"
    | bytes => "byte indices must be integers or slices, not " ++ type

/-- The part at an index; a negative index counts from the end. -/
def pick {α : Type} (kind : Sequence) (parts : List α) (index : Value) : Except Raised α :=
  match index.number?.bind Number.whole? with
  | some n =>
    let place := if n < 0 then parts.length + n else n
    if place < 0 then .error kind.outside
    else
      match parts[place.toNat]? with
      | some part => .ok part
      | none => .error kind.outside
  | none => .error (kind.unusable index)

end Sequence

/-- The part of a value at an index or under a key. -/
def Value.part (v index : Value) : Except Raised Value :=
  match v with
  | .list vs => Sequence.list.pick vs index
  | .tuple vs => Sequence.tuple.pick vs index
  | .str s => do return .str (String.singleton (← Sequence.text.pick s.toList index))
  | .bytes bs => do return .int (← Sequence.bytes.pick bs index).toNat
  | .dict entries =>
    match entries.find? fun entry => entry.1.equals index with
    | some entry => .ok entry.2
    | .none => .error { cls := .foreign "KeyError", args := [index] }
  | v => .error (.typeError ("'" ++ v.fullTypeName ++ "' object is not subscriptable"))

end BrowserFlow
