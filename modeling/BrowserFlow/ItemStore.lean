import BrowserFlow.Value.Order

/-!
# The item store

Texts kept under keys from step to step, in the order in which the keys were first set. Writing
keeps the text of the value; a key that is written again keeps its place. Values that the store
starts with are kept as they are. Reading never changes the store, nor does what goes wrong.
-/
namespace BrowserFlow

/-- Do two values name the same key? -/
def Value.sameKey (a b : Value) : Bool := a.equals b

theorem Value.sameKey_str {v : Value} {key : String} :
    v.sameKey (.str key) = true ↔ v = .str key := by
  cases v <;> simp [sameKey, equals, equals.numberEquals, number?]

theorem Value.str_sameKey {v : Value} {key : String} :
    (Value.str key).sameKey v = true ↔ .str key = v := by
  cases v <;> simp only [sameKey, equals, beq_iff_eq, str.injEq, reduceCtorEq, Bool.false_eq_true]

/-- Entries in the order of their keys' first writing. -/
structure ItemStore where
  entries : List (Value × Value)
deriving BEq, Repr

namespace ItemStore

def empty : ItemStore := ⟨[]⟩

/-- The raised error names the key by its text. -/
def missing (key : Value) : Raised :=
  .ofText (.step .missingItem) ("Context item '" ++ key.text ++ "' is not set")

mutual

/-- A list or a mapping cannot be a key, nor a tuple with one in it. -/
def checkKey (key : Value) : Except Raised Unit :=
  match key with
  | .list _ | .dict _ => .error (.typeError ("unhashable type: '" ++ key.typeName ++ "'"))
  | .tuple items => checkKeys items
  | _ => .ok ()

def checkKeys : List Value → Except Raised Unit
  | [] => .ok ()
  | key :: rest => do
    checkKey key
    checkKeys rest

end

def get? (store : ItemStore) (key : Value) : Option Value :=
  (store.entries.find? fun entry => entry.1.sameKey key).map (·.2)

def get (store : ItemStore) (key : Value) : Except Raised Value :=
  match store.get? key with
  | some v => .ok v
  | none => .error (missing key)

def getD (store : ItemStore) (key default : Value) : Value := (store.get? key).getD default

def contains (store : ItemStore) (key : Value) : Bool := (store.get? key).isSome

/-- Replaces the value of a key in place, or adds the key at the end. -/
def insertEntry (key value : Value) : List (Value × Value) → List (Value × Value)
  | [] => [(key, value)]
  | (k, old) :: rest =>
    if k.sameKey key then (k, value) :: rest else (k, old) :: insertEntry key value rest

/-- Keeps the text of a value under a key. -/
def set (store : ItemStore) (key value : Value) : ItemStore :=
  ⟨insertEntry key (.str value.text) store.entries⟩

def erase (store : ItemStore) (key : Value) : ItemStore :=
  ⟨store.entries.filter fun entry => !entry.1.sameKey key⟩

/-- Erases a key that has been checked; where there is nothing to erase no key is looked at. -/
def remove (store : ItemStore) (key : Value) : Except Raised ItemStore :=
  if store.entries.isEmpty then .ok store
  else do
    checkKey key
    return store.erase key

/-- Keeps the text of a value under a key, both of which are checked; a value that has no text
changes nothing. -/
def put (store : ItemStore) (key value : Value) : Except Raised ItemStore := do
  let text ← value.readText
  checkKey key
  return store.set key (.str text)

def size (store : ItemStore) : Nat := store.entries.length

def keys (store : ItemStore) : List Value := store.entries.map (·.1)

/-- A store that starts with values under keys. -/
def ofList (entries : List (Value × Value)) : ItemStore :=
  entries.foldl (fun store entry => ⟨insertEntry entry.1 entry.2 store.entries⟩) empty

/-- A copy of the entries as a mapping. -/
def snapshot (store : ItemStore) : Value := .dict store.entries

def sortedKeys (store : ItemStore) : Except Raised (List Value) := Value.sorted store.keys

/-- Shows the keys in order and no text. -/
def describe (store : ItemStore) : Except Raised String := do
  return "ItemStore(keys=" ++ (Value.list (← store.sortedKeys)).quoted ++ ")"

/-! ### Requests -/

/-- What a store can be asked; an item can be read and written by its index, too. -/
inductive Request
  | set (key value : Value)
  | setItem (key value : Value)
  | delete (key : Value)
  | clear
  | get (key : Value) (default : Option Value)
  | getItem (key : Value)
  | contains (key : Value)
  | size
  | keys
  | snapshot
  | describe

/-- The answer to a request that leaves another store; one that goes wrong leaves the store as it
is. -/
def change (store : ItemStore) : Except Raised ItemStore → Except Raised Value × ItemStore
  | .ok changed => (.ok .none, changed)
  | .error e => (.error e, store)

/-- The answer to a request that only looks something up under a key. -/
def look (store : ItemStore) (key : Value) (answer : Except Raised Value) :
    Except Raised Value × ItemStore :=
  (checkKey key >>= fun _ => answer, store)

/-- The answer to a request, and the store that it leaves. -/
def perform (store : ItemStore) : Request → Except Raised Value × ItemStore
  | .set key value | .setItem key value => store.change (store.put key value)
  | .delete key => store.change (store.remove key)
  | .clear => store.change (.ok .empty)
  | .get key (some default) => store.look key (.ok (store.getD key default))
  | .get key none | .getItem key => store.look key (store.get key)
  | .contains key => store.look key (.ok (.bool (store.contains key)))
  | .size => (.ok (.int store.size), store)
  | .keys => (.ok (.list store.keys), store)
  | .snapshot => (.ok store.snapshot, store)
  | .describe => (store.describe.map .str, store)

/-- The store that requests leave, one after the other. -/
def performAll (store : ItemStore) (requests : List Request) : ItemStore :=
  requests.foldl (fun store request => (store.perform request).2) store

end ItemStore

end BrowserFlow
