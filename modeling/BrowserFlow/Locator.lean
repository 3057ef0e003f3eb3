import BrowserFlow.Number
import BrowserFlow.Selector

/-!
# Locators

A locator is a path to elements that is followed anew whenever it is used: a selector looked up in a
frame or in the page, then selectors looked up under what came before, each with the index of one
match or none for all of them.
-/
namespace BrowserFlow

/-- A frame of the page that look-ups can be confined to. -/
structure Frame where
  selector : String
deriving DecidableEq, Repr

inductive Locator
  | root (scope : Option Frame) (selector : String) (index : Option Number)
  | child (parent : Locator) (selector : String) (index : Option Number)
deriving DecidableEq, Repr

namespace Locator

/-- The same matches narrowed to one of them. -/
def nth (l : Locator) (i : Number) : Locator :=
  match l with
  | root scope selector _ => root scope selector (some i)
  | child parent selector _ => child parent selector (some i)

/-- Matches of a selector under the element that a locator leads to. -/
def under (parent : Locator) (selector : String) : Locator := child parent selector none

/-- The frame that the first look-up of a path is confined to. -/
def scope : Locator → Option Frame
  | root scope _ _ => scope
  | child parent _ _ => parent.scope

def indexMark : Option Number → String
  | some i => "[" ++ i.text ++ "]"
  | none => ""

/-- The written form of a locator. -/
def path : Locator → String
  | root _ selector index => selector ++ indexMark index
  | child parent selector index => parent.path ++ " >> " ++ selector ++ indexMark index

@[simp] theorem scope_nth (l : Locator) (i : Number) : (l.nth i).scope = l.scope := by
  cases l <;> rfl

@[simp] theorem scope_under (l : Locator) (selector : String) :
    (l.under selector).scope = l.scope := rfl

end Locator

end BrowserFlow
