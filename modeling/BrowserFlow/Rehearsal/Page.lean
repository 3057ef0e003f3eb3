import BrowserFlow.ItemStore
import BrowserFlow.Proc
import BrowserFlow.Rehearsal.Element

/-!
# Rehearsed pages

A page that flows can be rehearsed on without a browser. Elements may still be pending and are
attached batch by batch; the visibility and readiness of things can change from one reading to the
next; and each operation can be given faults, which are raised every time or used up one by one.
-/
namespace BrowserFlow.Rehearsal

/-- What goes wrong with an operation: always the same, or at each turn the next entry, if it is
there. -/
inductive Fault
  | always (e : Raised)
  | turns (entries : List (Option Raised))

/-- The faults of the operations by their names. -/
def Faults : Type := List (String × Fault)

/-- The error of this turn of an operation, and the faults that are left. -/
def Faults.take (faults : Faults) (operation : String) : Option Raised × Faults :=
  match (faults : List (String × Fault)) with
  | [] => (none, [])
  | (name, fault) :: rest =>
    if name = operation then
      match fault with
      | .always e => (some e, (name, fault) :: rest)
      | .turns [] => (none, (name, fault) :: rest)
      | .turns (e :: later) => (e, (name, .turns later) :: rest)
    else
      let (e, left) := take rest operation
      (e, (name, fault) :: left)

/-- A thing that reads differently from turn to turn; the last reading stays. -/
structure Readings (α : Type) where
  now : α
  later : List α

namespace Readings

variable {α : Type}

def constant (a : α) : Readings α := ⟨a, []⟩

def next (r : Readings α) : Readings α :=
  match r.later with
  | [] => r
  | a :: rest => ⟨a, rest⟩

end Readings

/-- What changes about an element. -/
structure Condition where
  value : Value := .none
  visible : Readings Bool := .constant true
  enabled : Readings Bool := .constant true
  faults : Faults := []

structure Page where
  root : Element
  pending : List (List Element) := []
  conditions : List (String × Condition) := []
  title : String := "Fake page"
  titles : List (String × String) := []
  ready : Readings String := .constant "complete"
  counts : List (Option Int) := []
  faults : Faults := []

namespace Page

variable {α : Type}

/-- The condition of an element, by its label. -/
def condition (page : Page) (label : String) : Condition := (page.conditions.lookup label).getD {}

def changeIn (label : String) (f : Condition → Condition) :
    List (String × Condition) → List (String × Condition)
  | [] => [(label, f {})]
  | (l, c) :: rest => if l = label then (l, f c) :: rest else (l, c) :: changeIn label f rest

def changeCondition (page : Page) (label : String) (f : Condition → Condition) : Page :=
  { page with conditions := changeIn label f page.conditions }

/-- Attaches the next pending batch, if there is one. -/
def attach (page : Page) : Page :=
  match page.pending with
  | [] => page
  | batch :: later => { page with root := page.root.append batch, pending := later }

/-- Shows the title that belongs to an address, if one does. -/
def visit (url : Value) : Proc Page Unit := do
  Proc.ofExcept (ItemStore.checkKey url)
  Proc.update fun page =>
    match page.titles.find? fun entry => url.isText (some entry.1) with
    | some (_, title) => { page with title }
    | none => page

/-- The attribute of an element with a name. -/
def readAttribute (e : Element) (name : Value) : Proc Page Value := do
  Proc.ofExcept (ItemStore.checkKey name)
  return .ofOption ((e.profile.attributes.find? fun entry => name.isText (some entry.1)).map (·.2))

/-- Is a value one of the options of an element? -/
def isOption (e : Element) (value : Value) : Bool :=
  e.profile.options.any fun o => value.isText (some o)

/-- Takes the turn of an operation of the page. -/
def turn (operation : String) : Proc Page Unit := fun page =>
  let (e, faults) := page.faults.take operation
  Proc.ofExcept (match e with | some e => .error e | none => .ok ()) { page with faults }

/-- Takes the turn of an operation of an element. -/
def turnOf (e : Element) (operation : String) : Proc Page Unit := fun page =>
  let (fault, faults) := (page.condition e.label).faults.take operation
  Proc.ofExcept (match fault with | some e => .error e | none => .ok ())
    (page.changeCondition e.label fun c => { c with faults })

def setValue (e : Element) (value : Value) : Proc Page Unit :=
  Proc.update fun page => page.changeCondition e.label fun c => { c with value }

def valueOf (e : Element) : Proc Page Value := do return ((← Proc.read).condition e.label).value

def readVisible (e : Element) : Proc Page Bool := fun page =>
  (.done (page.condition e.label).visible.now,
    page.changeCondition e.label fun c => { c with visible := c.visible.next })

def readEnabled (e : Element) : Proc Page Bool := fun page =>
  (.done (page.condition e.label).enabled.now,
    page.changeCondition e.label fun c => { c with enabled := c.enabled.next })

def readReady : Proc Page String :=
  fun page => (.done page.ready.now, { page with ready := page.ready.next })

/-- What a click on an element does to the page. -/
def clicked (e : Element) : Proc Page Unit :=
  Proc.update fun page =>
    match e.profile.clickTitle with
    | some title => { page with title }
    | none => page

end Page

end BrowserFlow.Rehearsal
