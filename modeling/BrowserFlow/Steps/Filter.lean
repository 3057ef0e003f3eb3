import BrowserFlow.Steps.Find

/-!
# Choosing from a collection

Steps that focus one of the collected elements: the one a callback picks, or the first or last one
whose text contains a given text or a stored item.
-/
namespace BrowserFlow

namespace Filter

variable {σ : Type}

/-- The elements collected, of which there is at least one. -/
def requireCollection (c : Context) (label : String) : Except Raised (List Locator) :=
  match c.collection with
  | none => .error (.usage (label ++ ": missing collection in context"))
  | some [] => .error (.resolution (label ++ ": empty collection"))
  | some ls => .ok ls

def matchesText (wanted : Value) (l : Locator) : Action σ Bool := do
  match ← Action.call (.text l) with
  | some s => Action.ofExcept (Value.isPartOf wanted s)
  | none => return false

/-- The first element whose text contains the wanted one; the elements after it are not read. -/
def firstMatch (wanted : Value) : List Locator → Action σ (Option Locator)
  | [] => pure none
  | l :: rest => do if ← matchesText wanted l then return some l else firstMatch wanted rest

/-- The last such element; every element is read. -/
def lastMatch (wanted : Value) : List Locator → Option Locator → Action σ (Option Locator)
  | [], found => pure found
  | l :: rest, found => do
    let hit ← matchesText wanted l
    lastMatch wanted rest (if hit then some l else found)

def noMatch (wanted : Value) : Raised :=
  .resolution ("Text '" ++ wanted.text ++ "' not found in the context collection.")

/-- Focuses what was found, if anything was. -/
def focusFound (wanted : Value) (c : Context) : Option Locator → Action σ Context
  | some l => pure (c.withFocus l)
  | none => Action.raise (noMatch wanted)

/-- The step that focuses an element by its text. -/
def byText (label : String) (args : List (String × Value)) (wanted : Context → Action σ Value)
    (last : Bool) : Step σ :=
  .ofBody label args fun c => do
    let ls ← Action.ofExcept (requireCollection c label)
    let wanted ← wanted c
    if wanted.isNone then Action.raise (.usage (label ++ ": text is required"))
    else focusFound wanted c (← if last then lastMatch wanted ls none else firstMatch wanted ls)

/-- Reads a stored item, which has to be there. -/
def storedItem (key : Value) (c : Context) : Action σ Value := do
  let store ← Action.items c.items
  Action.ofExcept (ItemStore.checkKey key)
  Action.ofExcept (store.get key)

end Filter

namespace Step

variable {σ : Type}

def firstContainingText (text : Value) : Step σ :=
  Filter.byText "first_containing_text" [("text", text)] (fun _ => pure text) false

def lastContainingText (text : Value) : Step σ :=
  Filter.byText "last_containing_text" [("text", text)] (fun _ => pure text) true

def firstContainingItem (key : Value) : Step σ :=
  Filter.byText "first_containing_item" [("key", key)] (Filter.storedItem key) false

def lastContainingItem (key : Value) : Step σ :=
  Filter.byText "last_containing_item" [("key", key)] (Filter.storedItem key) true

/-- Focuses what a callback picks, which should be an element. The step goes by the name it is
given, unless there is none. -/
def collectionFilter (pick : Option (Callback σ (List Locator) (Option Focus)))
    (name : Option String := some "collection_filter") : Step σ :=
  let label := name.getD "None"
  let shownName := name.getD ""
  .ofBody (if shownName.isEmpty then "body" else shownName)
    [("filter", Callback.shownOption pick)] fun c =>
    match pick with
    | none => Action.raise (.usage (label ++ ": None passed as filter"))
    | some pick => do
      let ls ← Action.ofExcept (Filter.requireCollection c label)
      match ← pick.invoke ls with
      | some picked => return c.withPicked picked
      | none =>
        Action.raise (.resolution (label ++ ": no matches in " ++ toString ls.length ++ " item(s)"))

end Step

end BrowserFlow
