import Mathlib.Data.List.Basic

/-!
# Parts of a text

A text in a notation with quotes and brackets falls into parts at the separators that stand outside
of all of them. Reading a text is a walk from place to place; a text is solid at a place if the walk
comes back to where it began and meets no separator outside on its way. What is put together from
solid texts, or put between a bracket and the one that closes it, is solid again, and texts with a
separator between them fall into the parts of each.
-/
namespace BrowserFlow.Text

/-- What encloses in a notation: quotes, in which there may be a mark that takes the next character
as it is, and brackets. -/
structure Enclosure where
  quotes : List Char
  escape : Option Char
  opening : List Char
  closing : List Char

/-- Where the reader of a text is: in which quote, if in any, whether the next character there is
taken as it is, and how many brackets are open. -/
structure Place where
  quote : Option Char
  escaped : Bool
  depth : Nat
deriving DecidableEq, Repr

namespace Place

/-- In no quote, with some brackets open. -/
def within (depth : Nat) : Place := ⟨none, false, depth⟩

def outside : Place := within 0

/-- In a quote, with some brackets open. -/
def quoted (quote : Char) (depth : Nat) : Place := ⟨some quote, false, depth⟩

theorem within_ne_outside {depth : Nat} (h : 0 < depth) : within depth ≠ outside := by
  intro heq
  exact Nat.ne_of_gt h (congrArg Place.depth heq)

theorem quoted_ne_outside (quote : Char) (depth : Nat) : quoted quote depth ≠ outside := by
  intro heq
  cases congrArg Place.quote heq

end Place

/-- Puts texts together, the last part of the first with the first part of the second. -/
def joinParts : List (List Char) → List (List Char) → List (List Char)
  | [], ys => ys
  | [x], ys => ys.modifyHead (x ++ ·)
  | x :: y :: xs, ys => x :: joinParts (y :: xs) ys

theorem joinParts_nil_cons (xs ys : List (List Char)) (hxs : xs ≠ []) :
    joinParts xs ([] :: ys) = xs ++ ys := by
  induction xs with
  | nil => exact absurd rfl hxs
  | cons x xs ih =>
    cases xs with
    | nil => simp [joinParts]
    | cons y xs => rw [joinParts, ih (List.cons_ne_nil y xs)]; rfl

theorem joinParts_cons (c : Char) (xs ys : List (List Char)) (hxs : xs ≠ []) :
    joinParts (xs.modifyHead (c :: ·)) ys = (joinParts xs ys).modifyHead (c :: ·) := by
  obtain ⟨x, xs, rfl⟩ := List.exists_cons_of_ne_nil hxs
  cases xs with
  | nil => cases ys <;> rfl
  | cons y xs => rfl

namespace Enclosure

def next (n : Enclosure) (p : Place) (c : Char) : Place :=
  match p.quote with
  | some q =>
    if p.escaped then { p with escaped := false }
    else if n.escape = some c then { p with escaped := true }
    else if c = q then { p with quote := none }
    else p
  | none =>
    if c ∈ n.quotes then { p with quote := some c }
    else if c ∈ n.opening then { p with depth := p.depth + 1 }
    else if c ∈ n.closing then { p with depth := p.depth - 1 }
    else p

def read (n : Enclosure) (p : Place) (text : List Char) : Place := text.foldl n.next p

/-- The parts of a text that is read from a place on. -/
def partsFrom (n : Enclosure) (sep : Char) (p : Place) : List Char → List (List Char)
  | [] => [[]]
  | c :: rest =>
    if c = sep ∧ p = .outside then [] :: n.partsFrom sep p rest
    else (n.partsFrom sep (n.next p c) rest).modifyHead (c :: ·)

/-- The parts of a text between the separators that are outside. -/
def parts (n : Enclosure) (sep : Char) (text : List Char) : List (List Char) :=
  n.partsFrom sep .outside text

variable {n : Enclosure} {sep c : Char} {p q : Place} {s t : List Char}

theorem read_append (p : Place) (s t : List Char) :
    n.read p (s ++ t) = n.read (n.read p s) t :=
  List.foldl_append

theorem partsFrom_ne_nil (n : Enclosure) (sep : Char) (p : Place) (s : List Char) :
    n.partsFrom sep p s ≠ [] := by
  induction s generalizing p with
  | nil => exact List.cons_ne_nil _ _
  | cons c rest ih =>
    rw [partsFrom]
    split
    · exact List.cons_ne_nil _ _
    · obtain ⟨x, xs, hx⟩ := List.exists_cons_of_ne_nil (ih (n.next p c))
      simp [hx]

theorem partsFrom_cons (h : ¬ (c = sep ∧ p = .outside)) :
    n.partsFrom sep p (c :: s) = (n.partsFrom sep (n.next p c) s).modifyHead (c :: ·) :=
  if_neg h

section Separating

-- a separator does not move a reader who is outside
variable (hsep : n.next .outside sep = .outside)

include hsep

/-- Reading on from where a text ends. -/
theorem partsFrom_append (p : Place) (s t : List Char) :
    n.partsFrom sep p (s ++ t) =
      joinParts (n.partsFrom sep p s) (n.partsFrom sep (n.read p s) t) := by
  induction s generalizing p with
  | nil =>
    obtain ⟨x, xs, hx⟩ := List.exists_cons_of_ne_nil (n.partsFrom_ne_nil sep p t)
    simp [partsFrom, read, joinParts, hx]
  | cons c rest ih =>
    have hread : n.read p (c :: rest) = n.read (n.next p c) rest := rfl
    by_cases h : c = sep ∧ p = .outside
    · obtain ⟨rfl, rfl⟩ := h
      obtain ⟨x, xs, hx⟩ := List.exists_cons_of_ne_nil (n.partsFrom_ne_nil c .outside rest)
      have hhere : ∀ u, n.partsFrom c .outside (c :: u) = [] :: n.partsFrom c .outside u :=
        fun u => if_pos ⟨rfl, rfl⟩
      rw [List.cons_append, hhere, hhere, ih, hread, hsep, hx]
      rfl
    · rw [List.cons_append, partsFrom_cons h, partsFrom_cons h, ih, hread,
        joinParts_cons _ _ _ (n.partsFrom_ne_nil _ _ _)]

/-- The parts of texts with a separator between them. -/
theorem parts_append_sep (hs : n.read .outside s = .outside) :
    n.parts sep (s ++ sep :: t) = n.parts sep s ++ n.parts sep t := by
  have hhere : n.partsFrom sep .outside (sep :: t) = [] :: n.partsFrom sep .outside t :=
    if_pos ⟨rfl, rfl⟩
  rw [parts, partsFrom_append hsep, hs, hhere, joinParts_nil_cons _ _ (n.partsFrom_ne_nil _ _ _)]
  rfl

end Separating

/-- A text that leads back to where it began, without a separator outside on its way. -/
structure Solid (n : Enclosure) (sep : Char) (p : Place) (text : List Char) : Prop where
  read : n.read p text = p
  parts : n.partsFrom sep p text = [text]

instance : Decidable (n.Solid sep p t) :=
  decidable_of_iff (n.read p t = p ∧ n.partsFrom sep p t = [t])
    ⟨fun ⟨hread, hparts⟩ => ⟨hread, hparts⟩,
      fun ⟨hread, hparts⟩ => ⟨hread, hparts⟩⟩

namespace Solid

theorem nil : n.Solid sep p [] := ⟨rfl, rfl⟩

/-- A character that leads nowhere. -/
theorem single (hc : n.next p c = p) (h : ¬ (c = sep ∧ p = .outside)) : n.Solid sep p [c] :=
  ⟨hc, by rw [partsFrom_cons h]; rfl⟩

variable (hsep : n.next .outside sep = .outside)

include hsep

theorem append (hs : n.Solid sep p s) (ht : n.Solid sep p t) : n.Solid sep p (s ++ t) := by
  refine ⟨?_, ?_⟩
  · rw [read_append, hs.read, ht.read]
  · rw [partsFrom_append hsep, hs.read, hs.parts, ht.parts]
    rfl

theorem flatMap {α : Type} {f : α → List Char} {xs : List α}
    (h : ∀ x ∈ xs, n.Solid sep p (f x)) : n.Solid sep p (xs.flatMap f) := by
  induction xs with
  | nil => exact nil
  | cons x xs ih =>
    obtain ⟨hx, hxs⟩ := List.forall_mem_cons.1 h
    exact hx.append hsep (ih hxs)

/-- A text between two characters, the first of which leads to a place and the second back. -/
theorem enclosed {o : Char} (hopen : n.next p o = q) (hclose : n.next q c = p)
    (ho : ¬ (o = sep ∧ p = .outside)) (hc : ¬ (c = sep ∧ q = .outside))
    (h : n.Solid sep q t) : n.Solid sep p (o :: (t ++ [c])) := by
  have hlast : n.partsFrom sep q [c] = [[c]] := by rw [partsFrom_cons hc]; rfl
  refine ⟨?_, ?_⟩
  · change n.read (n.next p o) (t ++ [c]) = p
    rw [hopen, read_append, h.read]
    exact hclose
  · rw [partsFrom_cons ho, hopen, partsFrom_append hsep, h.read, h.parts, hlast]
    rfl

end Solid

end Enclosure

end BrowserFlow.Text
