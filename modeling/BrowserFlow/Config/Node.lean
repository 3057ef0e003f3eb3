import BrowserFlow.Config.Scalar
import BrowserFlow.ItemStore

/-!
# Nodes of documents

A node is a scalar, a list or a mapping, as it is written. Its value is worked out after the whole
document has been read, so that a mistake in the shape of a document wins over one in a scalar. A
mapping can take over the entries of others by the merge key; its own entries win over those, and
the first of several others wins over the rest.
-/
namespace BrowserFlow.Config

inductive Node
  | plain (text : String)
  | quoted (text : String)
  | list (items : List Node)
  | mapping (entries : List (Node × Node))
deriving Inhabited

namespace Node

/-- Adds an entry to a mapping; a key that is there already keeps its place. -/
def putEntry (key value : Value) : List (Value × Value) → List (Value × Value)
  | [] => [(key, value)]
  | (k, old) :: rest =>
    if k.sameKey key then (k, value) :: rest else (k, old) :: putEntry key value rest

def putAll (entries : List (Value × Value)) : List (Value × Value) :=
  entries.foldl (fun acc (key, value) => putEntry key value acc) []

/-- What a key stands for when it is no list and no mapping. -/
def keyOf : Node → Except DocumentError Value
  | plain "=" => .ok (.str "=")
  | plain s => Scalar.read s
  | quoted s => .ok (.str s)
  | list _ | mapping _ => .error .unhashable

def isMergeKey : Node → Bool
  | plain "<<" => true
  | _ => false

mutual

def value : Node → Except DocumentError Value
  | plain s => Scalar.read s
  | quoted s => .ok (.str s)
  | list items => (values items).map .list
  | mapping entries => (entriesOf entries).map fun (merged, own) => .dict (putAll (merged ++ own))

def values : List Node → Except DocumentError (List Value)
  | [] => .ok []
  | n :: rest => do
    let v ← n.value
    return v :: (← values rest)

/-- The entries that a mapping takes over, and its own. -/
def entriesOf :
    List (Node × Node) → Except DocumentError (List (Value × Value) × List (Value × Value))
  | [] => .ok ([], [])
  | (key, node) :: rest =>
    if key.isMergeKey then do
      let taken ← node.taken
      let (merged, own) ← entriesOf rest
      return (taken ++ merged, own)
    else do
      let key ← key.keyOf
      let v ← node.value
      let (merged, own) ← entriesOf rest
      return (merged, (key, v) :: own)

/-- What the merge key takes over from a mapping or from a list of mappings. -/
def taken : Node → Except DocumentError (List (Value × Value))
  | mapping entries => (entriesOf entries).map fun (merged, own) => merged ++ own
  | list items => takenAll items
  | plain _ | quoted _ => .error .unexpected

def takenAll : List Node → Except DocumentError (List (Value × Value))
  | [] => .ok []
  | mapping entries :: rest => do
    let (merged, own) ← entriesOf entries
    let others ← takenAll rest
    return others ++ (merged ++ own)
  | _ => .error .unexpected

end

end Node

end BrowserFlow.Config
