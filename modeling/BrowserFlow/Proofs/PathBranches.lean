import BrowserFlow.Proofs.Parting
import BrowserFlow.Selector
import Mathlib.Data.List.Forall2

/-!
# Branches of path expressions

A path expression is a union of location paths, any of which can have blanks before it or stand in
parentheses. A branch that begins at the root of the document leaves the element under which it is
looked up. The look-up under an element makes such a path begin at the element only if it is the
first one and nothing stands before it; every other branch that begins at the root is passed on as
it is. An expression without such branches is passed on unchanged.
-/
namespace BrowserFlow

namespace Text

/-! ### Branches of a text -/

/-- Texts in path expressions stand in either kind of quotes; predicates stand in brackets. -/
def pathEnclosure : Enclosure := ⟨['"', '\''], none, ['['], [']']⟩

/-- The branches of the union that a path expression is. Parentheses do not keep a bar from parting
two branches. -/
def pathBranches (text : List Char) : List (List Char) := pathEnclosure.parts '|' text

/-- What can stand before a location path: blanks and opening parentheses. -/
def isPathLead (c : Char) : Bool := c ∈ [' ', '\t', '\n', '\r', '(']

/-- A branch that begins at the root of the document. -/
def IsRooted (branch : List Char) : Prop := (branch.dropWhile isPathLead).head? = some '/'

instance : DecidablePred IsRooted := fun branch =>
  inferInstanceAs (Decidable ((branch.dropWhile isPathLead).head? = some '/'))

/-- No branch of a path expression leaves the element under which it is looked up. -/
def Confined (text : List Char) : Prop := ∀ branch ∈ pathBranches text, ¬ IsRooted branch

instance : DecidablePred Confined := fun text =>
  List.decidableBAll (fun branch => ¬ IsRooted branch) (pathBranches text)

end Text

open Text

/-! ### Path expressions -/

/-- A location path as it is written: nothing stands before it, quotes and brackets are closed, and
bars stand within them. -/
structure LocationPath where
  first : Char
  rest : List Char
  first_not_lead : isPathLead first = false
  solid : pathEnclosure.Solid '|' .outside (first :: rest)

namespace LocationPath

def text (p : LocationPath) : List Char := p.first :: p.rest

/-- The path begins at the root of the document. -/
def IsAbsolute (p : LocationPath) : Prop := p.first = '/'

instance : DecidablePred IsAbsolute := fun p => inferInstanceAs (Decidable (p.first = '/'))

end LocationPath

/-- A union of location paths, in parentheses or not, with blanks before them, and with whatever
encloses no bar after them, such as blanks or a predicate on what is in parentheses. -/
inductive PathExpr
  | path (p : LocationPath)
  | blank (c : Char) (hc : c ∈ [' ', '\t', '\n', '\r']) (e : PathExpr)
  | group (e : PathExpr)
  | followed (e : PathExpr) (rest : List Char) (hrest : pathEnclosure.Solid '|' .outside rest)
  | union (left right : PathExpr)

namespace PathExpr

def text : PathExpr → List Char
  | path p => p.text
  | blank c _ e => c :: e.text
  | group e => '(' :: (e.text ++ [')'])
  | followed e rest _ => e.text ++ rest
  | union left right => left.text ++ '|' :: right.text

/-- The location paths of an expression in their order. -/
def paths : PathExpr → List LocationPath
  | path p => [p]
  | blank _ _ e | group e | followed e _ _ => e.paths
  | union left right => left.paths ++ right.paths

/-- The location path that an expression begins with, if nothing stands before it. -/
def leading? : PathExpr → Option LocationPath
  | path p => some p
  | blank .. | group _ => none
  | followed e _ _ => e.leading?
  | union left _ => left.leading?

/-- The location paths of an expression but for one that it begins with. -/
def others : PathExpr → List LocationPath
  | path _ => []
  | blank _ _ e | group e => e.paths
  | followed e _ _ => e.others
  | union left right => left.others ++ right.paths

theorem paths_eq (e : PathExpr) : e.paths = e.leading?.toList ++ e.others := by
  induction e with
  | path | blank | group => rfl
  | followed e _ _ ih => exact ih
  | union left right ihl _ =>
    rw [paths, ihl, leading?, others, List.append_assoc]

end PathExpr

/-! ### The branches of an expression are its paths -/

namespace PathExpr

/-- A branch is a location path with what may stand before it and after it. -/
def Wraps (branch : List Char) (p : LocationPath) : Prop :=
  ∃ lead trail, (∀ c ∈ lead, isPathLead c = true) ∧ branch = lead ++ p.text ++ trail

theorem Wraps.isRooted_iff {branch : List Char} {p : LocationPath} (h : Wraps branch p) :
    IsRooted branch ↔ p.IsAbsolute := by
  obtain ⟨lead, trail, hlead, rfl⟩ := h
  rw [IsRooted, List.append_assoc, List.dropWhile_append_of_pos hlead, LocationPath.text,
    List.cons_append, List.dropWhile_cons_of_neg (by simp [p.first_not_lead]), List.head?_cons,
    Option.some.injEq]
  rfl

theorem Wraps.cons {branch : List Char} {p : LocationPath} (h : Wraps branch p) {c : Char}
    (hc : isPathLead c = true) : Wraps (c :: branch) p := by
  obtain ⟨lead, trail, hlead, rfl⟩ := h
  exact ⟨c :: lead, trail, List.forall_mem_cons.2 ⟨hc, hlead⟩, rfl⟩

theorem Wraps.append {branch : List Char} {p : LocationPath} (h : Wraps branch p)
    (rest : List Char) : Wraps (branch ++ rest) p := by
  obtain ⟨lead, trail, hlead, rfl⟩ := h
  exact ⟨lead, trail ++ rest, hlead, by simp⟩

/-- A blank stands before a path, and has no other meaning. -/
theorem blank_leads {c : Char} (hc : c ∈ [' ', '\t', '\n', '\r']) :
    isPathLead c = true ∧ pathEnclosure.next .outside c = .outside ∧
      c ≠ '|' ∧ c ≠ '/' := by
  simp only [List.mem_cons, List.not_mem_nil, or_false] at hc
  obtain rfl | rfl | rfl | rfl := hc <;> decide

theorem next_bar : pathEnclosure.next .outside '|' = .outside := by decide

theorem wrap_cons {branches : List (List Char)} {paths : List LocationPath}
    (h : List.Forall₂ Wraps branches paths) {c : Char} (hc : isPathLead c = true) :
    List.Forall₂ Wraps (branches.modifyHead (c :: ·)) paths := by
  cases h with
  | nil => exact .nil
  | cons hfirst hrest => exact .cons (hfirst.cons hc) hrest

theorem wrap_append {branches : List (List Char)} {paths : List LocationPath}
    (h : List.Forall₂ Wraps branches paths) (hne : branches ≠ []) (rest : List Char) :
    List.Forall₂ Wraps (joinParts branches [rest]) paths := by
  induction h with
  | nil => exact absurd rfl hne
  | @cons branch p branches paths hfirst hrest ih =>
    cases branches with
    | nil =>
      cases hrest
      exact .cons (hfirst.append rest) .nil
    | cons next branches => exact .cons hfirst (ih (List.cons_ne_nil _ _))

theorem solid_close : pathEnclosure.Solid '|' .outside [')'] := by decide

theorem text_read (e : PathExpr) : pathEnclosure.read .outside e.text = .outside := by
  induction e with
  | path p => exact p.solid.read
  | blank c hc e ih =>
    obtain ⟨-, hnext, -⟩ := blank_leads hc
    exact (congrArg (pathEnclosure.read · e.text) hnext).trans ih
  | group e ih =>
    change pathEnclosure.read .outside (e.text ++ [')']) = _
    rw [Enclosure.read_append, ih]
    exact solid_close.read
  | followed e rest hrest ih => rw [text, Enclosure.read_append, ih, hrest.read]
  | union left right ihl ihr =>
    rw [text, Enclosure.read_append, ihl]
    exact ihr

theorem branches_ne_nil (text : List Char) : pathBranches text ≠ [] :=
  Enclosure.partsFrom_ne_nil _ _ _ _

theorem branches_cons {c : Char} {text : List Char} (hc : pathEnclosure.next .outside c = .outside)
    (hbar : c ≠ '|') : pathBranches (c :: text) = (pathBranches text).modifyHead (c :: ·) := by
  rw [pathBranches, Enclosure.parts, Enclosure.partsFrom_cons fun h => hbar h.1, hc]
  rfl

theorem branches_append (e : PathExpr) {rest : List Char}
    (hrest : pathEnclosure.Solid '|' .outside rest) :
    pathBranches (e.text ++ rest) = joinParts (pathBranches e.text) [rest] := by
  rw [pathBranches, Enclosure.parts, Enclosure.partsFrom_append next_bar, e.text_read, hrest.parts]
  rfl

/-- The branches of the text of an expression are its location paths, one by one. -/
theorem wraps (e : PathExpr) : List.Forall₂ Wraps (pathBranches e.text) e.paths := by
  induction e with
  | path p =>
    rw [pathBranches, Enclosure.parts, text, LocationPath.text, p.solid.parts]
    exact .cons ⟨[], [], by simp, by simp [LocationPath.text]⟩ .nil
  | blank c hc e ih =>
    obtain ⟨hlead, hnext, hbar, -⟩ := blank_leads hc
    rw [text, branches_cons hnext hbar]
    exact wrap_cons ih hlead
  | group e ih =>
    rw [text, branches_cons (by decide) (by decide), branches_append e solid_close]
    exact wrap_cons (wrap_append ih (branches_ne_nil _) _) (by decide)
  | followed e rest hrest ih =>
    rw [text, branches_append e hrest]
    exact wrap_append ih (branches_ne_nil _) _
  | union left right ihl ihr =>
    rw [pathBranches, text, Enclosure.parts_append_sep next_bar left.text_read]
    exact List.rel_append ihl ihr

/-- An expression begins at the root exactly if a path does that nothing stands before. -/
theorem text_head?_iff (e : PathExpr) :
    e.text.head? = some '/' ↔ ∃ p ∈ e.leading?, p.IsAbsolute := by
  have hne : ∀ e : PathExpr, e.text ≠ [] := by
    intro e
    induction e with
    | path | blank | group => exact List.cons_ne_nil _ _
    | followed e rest _ ih => exact List.append_ne_nil_of_left_ne_nil ih rest
    | union left right ihl _ => exact List.append_ne_nil_of_left_ne_nil ihl _
  induction e with
  | path p => simp [text, LocationPath.text, leading?, LocationPath.IsAbsolute]
  | blank c hc e =>
    obtain ⟨-, -, -, hslash⟩ := blank_leads hc
    simp [text, leading?, hslash]
  | group e => simp [text, leading?]
  | followed e rest _ ih => rwa [text, List.head?_append_of_ne_nil _ (hne e)]
  | union left right ihl _ => rwa [text, List.head?_append_of_ne_nil _ (hne left)]

/-! ### Look-up under an element -/

theorem confined_of_wraps {branches : List (List Char)} {paths : List LocationPath}
    (h : List.Forall₂ Wraps branches paths) :
    (∀ branch ∈ branches, ¬ IsRooted branch) ↔ ∀ p ∈ paths, ¬ p.IsAbsolute := by
  induction h with
  | nil => simp
  | cons hfirst _ ih => rw [List.forall_mem_cons, List.forall_mem_cons, hfirst.isRooted_iff, ih]

theorem confined_iff (e : PathExpr) : Confined e.text ↔ ∀ p ∈ e.paths, ¬ p.IsAbsolute :=
  confined_of_wraps e.wraps

/-- Once it begins at the element, an expression leaves it by none but its other paths. -/
theorem confined_dot_iff (e : PathExpr) {p : LocationPath} (hp : e.leading? = some p) :
    Confined ('.' :: e.text) ↔ ∀ p ∈ e.others, ¬ p.IsAbsolute := by
  have hwraps := e.wraps
  rw [paths_eq, hp] at hwraps
  rw [Confined, branches_cons (by decide) (by decide)]
  generalize pathBranches e.text = branches at hwraps ⊢
  cases hwraps with
  | @cons branch _ _ _ _ hrest =>
    have hdot : ¬ IsRooted ('.' :: branch) := by simp [IsRooted, isPathLead]
    rw [List.modifyHead_cons, List.forall_mem_cons, confined_of_wraps hrest]
    exact and_iff_right hdot

end PathExpr

/-- The look-up under an element passes on an expression with a branch that begins at the root of
the document exactly if one of its location paths begins there other than a first path that nothing
stands before. An expression of which no path begins at the root is passed on as it is. -/
theorem Selector.lookupUnder_confined_iff (e : PathExpr) :
    let found := Selector.lookupUnder (Selector.ofPath (String.ofList e.text))
    found.1 = .path ∧
      (Confined found.2.toList ↔ ∀ p ∈ e.others, ¬ p.IsAbsolute) ∧
      ((∀ p ∈ e.paths, ¬ p.IsAbsolute) → found.2 = String.ofList e.text) := by
  intro found
  have hrooted : "/".toList.isPrefixOf e.text = true ↔ ∃ p ∈ e.leading?, p.IsAbsolute := by
    rw [← e.text_head?_iff]
    cases e.text with
    | nil => simp
    | cons c rest =>
      change ('/' == c && List.isPrefixOf [] rest) = true ↔ some c = some '/'
      rw [List.isPrefixOf_nil_left, Bool.and_true, beq_iff_eq, Option.some.injEq]
      exact eq_comm
  have hfound : found = (.path, if "/".toList.isPrefixOf e.text then
      "." ++ String.ofList e.text else String.ofList e.text) := by
    simp only [found, lookupUnder, split_ofPath, String.toList_ofList]
  rw [hfound]
  refine ⟨rfl, ?_, fun hpaths => ?_⟩
  · by_cases h : "/".toList.isPrefixOf e.text = true
    · obtain ⟨p, hp, -⟩ := hrooted.1 h
      have hdot : ("." ++ String.ofList e.text).toList = '.' :: e.text := by
        rw [String.toList_append]
        exact congrArg ('.' :: ·) String.toList_ofList
      rw [if_pos h, hdot]
      exact e.confined_dot_iff hp
    · simp only [if_neg h, String.toList_ofList]
      rw [e.confined_iff, e.paths_eq, List.forall_mem_append]
      refine and_iff_right fun p hp habsolute => h (hrooted.2 ⟨p, ?_, habsolute⟩)
      simpa using hp
  · refine if_neg fun h => ?_
    obtain ⟨p, hp, habsolute⟩ := hrooted.1 h
    refine hpaths p ?_ habsolute
    rw [e.paths_eq]
    exact List.mem_append_left _ (by simpa using hp)

/-- Of two paths that begin at the root the second is passed on as it is. -/
theorem Selector.lookupUnder_unconfined :
    ∃ a b : LocationPath, (PathExpr.union (.path a) (.path b)).text = "//a|//b".toList ∧
      Selector.lookupUnder (Selector.ofPath "//a|//b") = (.path, ".//a|//b") ∧
      ¬ Confined ".//a|//b".toList := by
  refine ⟨⟨'/', ['/', 'a'], by decide, by decide⟩,
    ⟨'/', ['/', 'b'], by decide, by decide⟩, ?_⟩
  decide +kernel

end BrowserFlow
