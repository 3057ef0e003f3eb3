import BrowserFlow.Indexing
import BrowserFlow.Remote.Work

/-!
# Looking elements up

A locator is looked up afresh at every use. Before a first look-up the browser is put into the frame
that the locator is confined to, starting from the top-level document, so it does not matter which
frame it was left in. A locator without an index leads to its first match.
-/
namespace BrowserFlow.Remote

namespace Line

variable {τ : Type} (line : Line τ)

/-- Puts the browser into a frame of the top-level document, or into that document itself. -/
def enterScope (scope : Option Frame) : Work τ Unit := do
  line.send .defaultContent
  match scope with
  | none => return ()
  | some frame =>
    let (how, value) := Selector.lookup frame.selector
    line.send (.enterFrame (← line.send (.findElement how value)))

/-- The match that a locator means among those found. -/
def pick (l : Locator) (index : Option Number) (found : List ElementRef) :
    Except Raised ElementRef :=
  atIndex index found fun _ =>
    .browser .noSuchElement
      ("'" ++ l.path ++ "' matched " ++ toString found.length ++ " element(s)")

def indexOf : Locator → Option Number
  | .root _ _ index => index
  | .child _ _ index => index

/-- All matches of a locator, its own index aside. -/
def elements : Locator → Work τ (List ElementRef)
  | .root scope selector _ => do
    line.enterScope scope
    let (how, value) := Selector.lookup selector
    line.send (.findElements how value)
  | .child parent selector _ => do
    let found ← elements parent
    let base ← Proc.ofExcept (pick parent (indexOf parent) found)
    let (how, value) := Selector.lookupUnder selector
    line.send (.findUnder base how value)

def element (l : Locator) : Work τ ElementRef := do
  let found ← line.elements l
  Proc.ofExcept (pick l (indexOf l) found)

/-- The one match at a place, if it is there; a place before the first match is none. -/
def sliceAt (place : Int) (found : List ElementRef) : List ElementRef :=
  let start := if place < 0 then max 0 (found.length + place) else place
  let stop := if place + 1 < 0 then max 0 (found.length + place + 1) else place + 1
  (found.drop start.toNat).take (stop - start).toNat

def slice (index : Number) (found : List ElementRef) : Except Raised (List ElementRef) :=
  match index.whole? with
  | some place => .ok (sliceAt place found)
  | none => .error (.typeError "slice indices must be integers or None or have an __index__ method")

/-- Is one of the elements displayed? Those after the first such one are not asked. -/
def anyDisplayed : List ElementRef → Work τ Bool
  | [] => pure false
  | el :: rest => do if ← line.send (.isDisplayed el) then return true else anyDisplayed rest

/-- Is something that a locator leads to there, or to be seen? -/
def present (l : Locator) (visible : Bool) : Work τ Bool := do
  match ← (line.elements l).attempt with
  | .error e => if e.cls = .browser .noSuchElement then return false else Proc.raise e
  | .ok found =>
    let found ← match indexOf l with
      | some i => Proc.ofExcept (slice i found)
      | none => pure found
    if visible then line.anyDisplayed found else return !found.isEmpty

end Line

end BrowserFlow.Remote
