import BrowserFlow.Proofs.Characters
import BrowserFlow.Proofs.Redacting
import BrowserFlow.Proofs.Sizing
import BrowserFlow.Step

/-!
# Step lines that print

A step line is one line of printable characters, whatever the texts and bytes in the arguments are.
Quoting escapes everything that does not print, and each way to show an argument either quotes the
texts in it or shows words of the program, the names of arguments and callables. Cuts come before
quoting or after it; they keep characters as they are and only add dots, so they let nothing through
that was escaped. The cut of all arguments together also bounds the line.
-/
namespace BrowserFlow

namespace Text

/-- Every character of the text shows as itself. -/
def Prints (s : String) : Prop := ConsistsOf isPrintable s

instance : DecidablePred Prints := fun s => inferInstanceAs (Decidable (ConsistsOf isPrintable s))

/-! ### What does not print -/

/-- The control characters: those below the space, delete, and those that follow on it. -/
def isControl (c : Char) : Bool := c.toNat < 0x20 || 0x7f ≤ c.toNat && c.toNat < 0xa0

section

variable {c : Char} (h : isPrintable c = true)

include h

theorem bounds_of_isPrintable : 0x20 ≤ c.toNat ∧ c.toNat ≠ 0x7f := by
  rw [isPrintable] at h
  split at h
  case isTrue hlow => exact ⟨of_decide_eq_true h, by omega⟩
  case isFalse hlow =>
    rw [Bool.and_eq_true, bne_iff_ne] at h
    exact ⟨by omega, h.1⟩

/-- What prints is outside of each of the ranges that do not. -/
theorem outside_of_isPrintable (first last : Nat) (hrange : (first, last) ∈ unprintableRanges)
    (hfirst : 0x7f ≤ first) : c.toNat < first ∨ last < c.toNat := by
  by_contra hin
  have hany : unprintableRanges.any (fun r => r.1 ≤ c.toNat && c.toNat ≤ r.2) = true := by
    refine List.any_eq_true.2 ⟨_, hrange, ?_⟩
    rw [Bool.and_eq_true, decide_eq_true_eq, decide_eq_true_eq]
    omega
  rw [isPrintable, if_neg (by omega), hany] at h
  simp at h

theorem isControl_of_isPrintable : isControl c = false := by
  have hlow := bounds_of_isPrintable h
  have hhigh := outside_of_isPrintable h 0x80 0xa0 (by decide) (by decide)
  simp only [isControl, Bool.or_eq_false_iff, Bool.and_eq_false_iff, decide_eq_false_iff_not]
  omega

/-- The space is the only blank that prints, so what prints has no line end in it. -/
theorem eq_space_of_isPrintable (hblank : isBlank c = true) : c = ' ' := by
  have hlow := bounds_of_isPrintable h
  have outside := outside_of_isPrintable h
  have hnextLine := outside 0x80 0xa0 (by decide +kernel) (by decide)
  have hogham := outside 0x1680 0x1680 (by decide +kernel) (by decide)
  have hspaces := outside 0x1fff 0x200f (by decide +kernel) (by decide)
  have hseparators := outside 0x2028 0x202f (by decide +kernel) (by decide)
  have hmathematical := outside 0x205f 0x206f (by decide +kernel) (by decide)
  have hideographic := outside 0x2ffc 0x3000 (by decide +kernel) (by decide)
  simp only [isBlank, Bool.or_eq_true, Bool.and_eq_true, decide_eq_true_eq, beq_iff_eq] at hblank
  exact Char.toNat_inj.1 (by change c.toNat = 0x20; omega)

end

/-! ### Quoted texts -/

theorem isPrintable_hexDigits (width n : Nat) :
    ∀ d ∈ hexDigits width n, isPrintable d = true := by
  induction width generalizing n with
  | zero => exact List.forall_mem_nil _
  | succ width ih =>
    have hdigit : ∀ d < 16, isPrintable (hexDigit d) = true := by decide
    rw [hexDigits, List.forall_mem_append, List.forall_mem_singleton]
    exact ⟨ih _, hdigit _ (Nat.mod_lt n (by decide))⟩

/-- An escape that is a character with a backslash before it. -/
theorem isPrintable_marked {c : Char} (hc : isPrintable c = true) :
    ∀ d ∈ ['\\', c], isPrintable d = true :=
  List.forall_mem_cons.2 ⟨rfl, List.forall_mem_singleton.2 hc⟩

/-- An escape with a mark for its width and the digits of a number. -/
theorem isPrintable_escape {mark : Char} (hmark : isPrintable mark = true) (width n : Nat) :
    ∀ d ∈ '\\' :: mark :: hexDigits width n, isPrintable d = true :=
  List.forall_mem_cons.2
    ⟨rfl, List.forall_mem_cons.2 ⟨hmark, isPrintable_hexDigits width n⟩⟩

theorem isPrintable_codeEscape (c : Char) : ∀ d ∈ codeEscape c, isPrintable d = true := by
  rw [codeEscape]
  split
  · exact isPrintable_escape rfl 2 _
  · split
    · exact isPrintable_escape rfl 4 _
    · exact isPrintable_escape rfl 8 _

theorem isPrintable_escapeChar {quote : Char} (hquote : isPrintable quote = true) (c : Char) :
    ∀ d ∈ escapeChar quote c, isPrintable d = true := by
  rw [escapeChar]
  split
  case isTrue hescaped =>
    obtain rfl | rfl := hescaped
    · exact isPrintable_marked hquote
    · exact isPrintable_marked rfl
  case isFalse =>
    -- line ends and tabs are escaped by a letter
    iterate 3
      split
      · exact isPrintable_marked rfl
    split
    case isTrue hc => exact List.forall_mem_singleton.2 hc
    case isFalse => exact isPrintable_codeEscape c

theorem isPrintable_escapeByte {quote : Char} (hquote : isPrintable quote = true) (b : UInt8) :
    ∀ d ∈ escapeByte quote b, isPrintable d = true := by
  rw [escapeByte]
  split
  · exact isPrintable_escapeChar hquote _
  · exact isPrintable_escape rfl 2 _

theorem isPrintable_quoteFor (content : List Char) : isPrintable (quoteFor content) = true := by
  rw [quoteFor]
  split <;> rfl

/-- What stands in quotes prints if each part of it is escaped in printable characters. -/
theorem isPrintable_enclosed {α : Type} {quote : Char} {escape : α → List Char}
    (hquote : isPrintable quote = true) (hescape : ∀ a, ∀ d ∈ escape a, isPrintable d = true)
    (content : List α) :
    ∀ d ∈ quote :: content.flatMap escape ++ [quote], isPrintable d = true := by
  rw [List.forall_mem_append, List.forall_mem_cons, List.forall_mem_singleton]
  refine ⟨⟨hquote, fun d hd => ?_⟩, hquote⟩
  obtain ⟨a, -, hd⟩ := List.mem_flatMap.1 hd
  exact hescape a d hd

/-- A quoted text prints whatever is in it. -/
theorem prints_quoted (s : String) : Prints (quoted s) := by
  have hquote := isPrintable_quoteFor s.toList
  intro c hc
  rw [quoted, String.toList_ofList] at hc
  exact isPrintable_enclosed hquote (isPrintable_escapeChar hquote) s.toList c hc

example : quoted "it's\na\u2028" = "\"it's\\na\\u2028\"" := by decide +kernel

theorem prints_quotedBytes (bs : List UInt8) : Prints (quotedBytes bs) := by
  have hquote := isPrintable_quoteFor (bs.map fun b => Char.ofNat b.toNat)
  intro c hc
  rw [quotedBytes, String.toList_ofList, List.cons_append, List.mem_cons] at hc
  obtain rfl | hc := hc
  · rfl
  · exact isPrintable_enclosed hquote (isPrintable_escapeByte hquote) bs c hc

/-! ### Numbers, lists and cuts -/

theorem isPrintable_of_isNumeral (c : Char) (h : isNumeral c = true) : isPrintable c = true := by
  rw [isNumeral, Bool.or_eq_true, decide_eq_true_eq] at h
  rcases h with hdigit | hmark
  · have hrange : 48 ≤ c.toNat ∧ c.toNat ≤ 57 := by
      simpa [Char.isDigit, UInt32.le_iff_toNat_le] using hdigit
    exact isPrintable_of_ascii (by omega) (by omega)
  · simp only [List.mem_cons, List.not_mem_nil, or_false] at hmark
    obtain rfl | rfl | rfl | rfl := hmark <;> rfl

theorem prints_int (n : Int) : Prints (toString n) :=
  (consistsOf_int n).mono isPrintable_of_isNumeral

theorem prints_float (x : Float) : Prints (Decimal.Layout.plain.write x) :=
  consistsOf_write isPrintable_of_isNumeral (by decide) (by decide) x

theorem prints_commaSeparated {parts : List String} (h : ∀ part ∈ parts, Prints part) :
    Prints (", ".intercalate parts) :=
  .intercalate (by decide) h

/-- A list or a mapping, from the texts of its members. -/
theorem prints_bracketedParts {o c : String} (ho : Prints o) (hc : Prints c) {parts : List String}
    (h : ∀ part ∈ parts, Prints part) : Prints (o ++ ", ".intercalate parts ++ c) :=
  (ho.append (prints_commaSeparated h)).append hc

theorem prints_tupleForm {parts : List String} (h : ∀ part ∈ parts, Prints part) :
    Prints (Value.tupleForm parts) := by
  rw [Value.tupleForm.eq_def]
  split
  · have hopen : Prints "(" := by decide
    exact (hopen.append (List.forall_mem_singleton.1 h)).append (by decide)
  · exact prints_bracketedParts (by decide) (by decide) h

end Text

open Text (Prints)

theorem prints_truncate (limit : Int) {s : String} (h : Prints s) : Prints (truncate limit s) := by
  rw [truncate]
  split
  · exact h
  · exact (h.ofList (List.take_subset _ _)).append (by decide)

theorem prints_bracketed {name kind : String} (hname : Prints name) (hkind : Prints kind) :
    Prints (bracketed name kind) := by
  simp only [bracketed]
  have hopen : Prints "[" := by decide
  exact (hopen.append (.ite (by decide) (.ite hkind hname))).append (by decide)

namespace Value

/-! ### Arguments -/

/-- Data: nothing at any depth of it can be called or belongs to a page. -/
inductive IsData : Value → Prop
  | none : IsData .none
  | bool (b : Bool) : IsData (.bool b)
  | int (n : Int) : IsData (.int n)
  | float (x : Float) : IsData (.float x)
  | str (s : String) : IsData (.str s)
  | bytes (bs : List UInt8) : IsData (.bytes bs)
  | secret (s : String) : IsData (.secret s)
  | secretBytes (bs : List UInt8) : IsData (.secretBytes bs)
  | list {items : List Value} (h : ∀ v ∈ items, IsData v) : IsData (.list items)
  | tuple {items : List Value} (h : ∀ v ∈ items, IsData v) : IsData (.tuple items)
  | dict {entries : List (Value × Value)} (hkeys : ∀ entry ∈ entries, IsData entry.1)
    (hvalues : ∀ entry ∈ entries, IsData entry.2) : IsData (.dict entries)

/-- Data and callables whose names print. A callable may stand in lists and tuples at any depth, but
in no mapping, which would show more of it than its name. -/
inductive IsArgument : Value → Prop
  | data {v : Value} (h : v.IsData) : IsArgument v
  | callable {name : String} (h : Prints name) : IsArgument (.callable name)
  | object {kind : String} (h : Prints kind) : IsArgument (.object kind)
  | list {items : List Value} (h : ∀ v ∈ items, IsArgument v) : IsArgument (.list items)
  | tuple {items : List Value} (h : ∀ v ∈ items, IsArgument v) : IsArgument (.tuple items)

theorem prints_quotedAll {vs : List Value} (h : ∀ v ∈ vs, Prints v.quoted) :
    ∀ part ∈ quotedAll vs, Prints part := by
  induction vs with
  | nil => exact List.forall_mem_nil _
  | cons v vs ih =>
    obtain ⟨hv, hvs⟩ := List.forall_mem_cons.1 h
    exact List.forall_mem_cons.2 ⟨hv, ih hvs⟩

theorem prints_quotedEntries {entries : List (Value × Value)}
    (hkeys : ∀ entry ∈ entries, Prints entry.1.quoted)
    (hvalues : ∀ entry ∈ entries, Prints entry.2.quoted) :
    ∀ part ∈ quotedEntries entries, Prints part := by
  induction entries with
  | nil => exact List.forall_mem_nil _
  | cons entry rest ih =>
    obtain ⟨hkey, hkeys⟩ := List.forall_mem_cons.1 hkeys
    obtain ⟨hvalue, hvalues⟩ := List.forall_mem_cons.1 hvalues
    have hcolon : Prints ": " := by decide
    exact List.forall_mem_cons.2 ⟨(hkey.append hcolon).append hvalue, ih hkeys hvalues⟩

/-- Data prints in its quoted form. -/
theorem IsData.prints_quoted {v : Value} (h : v.IsData) : Prints v.quoted := by
  induction h with
  | none => decide
  | bool b => cases b <;> decide
  | int n => exact Text.prints_int n
  | float x => exact Text.prints_float x
  | str s => exact Text.prints_quoted s
  | bytes bs => exact Text.prints_quotedBytes bs
  | secret s =>
    have hopen : Prints "SecretStr(" := by decide
    have hstars := Text.prints_quoted (stars s.isEmpty)
    exact (hopen.append hstars).append (by decide)
  | secretBytes bs =>
    have hopen : Prints "SecretBytes(" := by decide
    have hstars := Text.prints_quotedBytes (stars bs.isEmpty).toUTF8.toList
    exact (hopen.append hstars).append (by decide)
  | list _ ih => exact Text.prints_bracketedParts (by decide) (by decide) (prints_quotedAll ih)
  | tuple _ ih => exact Text.prints_tupleForm (prints_quotedAll ih)
  | dict _ _ ihkeys ihvalues =>
    exact Text.prints_bracketedParts (by decide) (by decide) (prints_quotedEntries ihkeys ihvalues)

/-! ### Redaction -/

theorem redactedAll_eq_map (vs : List Value) : redactedAll vs = vs.map redacted := by
  induction vs with
  | nil => rfl
  | cons v vs ih => rw [redactedAll, ih, List.map_cons]

theorem redactedEntries_eq_map (entries : List (Value × Value)) :
    redactedEntries entries = entries.map fun entry =>
      (entry.1, if Redaction.masksEntry entry.1 entry.2 then .str mask else entry.2.redacted) := by
  induction entries with
  | nil => rfl
  | cons entry rest ih => rw [redactedEntries, ih, List.map_cons]

/-- The mask is data, and so may stand in the place of any. -/
theorem IsData.maskedIf {p : Prop} [Decidable p] {v : Value} (h : v.IsData) :
    (if p then .str mask else v : Value).IsData := by
  split
  · exact .str mask
  · exact h

theorem IsArgument.maskedIf {p : Prop} [Decidable p] {v : Value} (h : v.IsArgument) :
    (if p then .str mask else v : Value).IsArgument := by
  split
  · exact .data (.str mask)
  · exact h

theorem IsData.redacted {v : Value} (h : v.IsData) : v.redacted.IsData := by
  induction h with
  | list _ ih =>
    rw [Value.redacted, redactedAll_eq_map]
    exact .list (List.forall_mem_map.2 ih)
  | tuple _ ih =>
    rw [Value.redacted, redactedAll_eq_map]
    exact .tuple (List.forall_mem_map.2 ih)
  | dict hkeys _ _ ihvalues =>
    rw [Value.redacted, redactedEntries_eq_map]
    exact .dict (List.forall_mem_map.2 hkeys)
      (List.forall_mem_map.2 fun entry hentry => (ihvalues entry hentry).maskedIf)
  | none | bool | int | float | str | bytes | secret | secretBytes =>
    rw [Redaction.redacted_of_not_isContainer rfl]
    exact maskedIf (by constructor)

theorem IsArgument.redacted {v : Value} (h : v.IsArgument) : v.redacted.IsArgument := by
  induction h with
  | data h => exact .data h.redacted
  | callable h => exact .callable h
  | object h => exact .object h
  | list _ ih =>
    rw [Value.redacted, redactedAll_eq_map]
    exact .list (List.forall_mem_map.2 ih)
  | tuple _ ih =>
    rw [Value.redacted, redactedAll_eq_map]
    exact .tuple (List.forall_mem_map.2 ih)

/-! ### Rendering -/

theorem renderedAll_eq_map (limit : Int) (vs : List Value) :
    renderedAll limit vs = vs.map (rendered limit) := by
  induction vs with
  | nil => rfl
  | cons v vs ih => rw [renderedAll, ih, List.map_cons]

/-- A list of members that print, each with its own cut, and with the cut of the list. -/
theorem prints_renderedMembers {limit : Int} {items : List Value}
    (h : ∀ v ∈ items, Prints (v.rendered limit)) :
    Prints (truncate limit ("[" ++ ", ".intercalate (renderedAll limit items) ++ "]")) := by
  rw [renderedAll_eq_map]
  exact prints_truncate limit
    (Text.prints_bracketedParts (by decide) (by decide) (List.forall_mem_map.2 h))

theorem IsData.prints_rendered (limit : Int) {v : Value} (h : v.IsData) :
    Prints (v.rendered limit) := by
  induction h with
  | str s =>
    rw [rendered]
    split
    · decide
    · exact Text.prints_quoted _
  | list _ ih => exact prints_renderedMembers ih
  | tuple _ ih => exact prints_renderedMembers ih
  | none | bool | int | float | bytes | secret | secretBytes =>
    exact prints_truncate limit (prints_quoted (by constructor))
  | dict hkeys hvalues => exact prints_truncate limit (IsData.dict hkeys hvalues).prints_quoted

theorem IsArgument.prints_rendered (limit : Int) {v : Value} (h : v.IsArgument) :
    Prints (v.rendered limit) := by
  induction h with
  | data h => exact h.prints_rendered limit
  | callable h => exact prints_bracketed h (by decide)
  | object h => exact prints_bracketed (by decide) h
  | list _ ih => exact prints_renderedMembers ih
  | tuple _ ih => exact prints_renderedMembers ih

end Value

/-! ### Lines -/

/-- Arguments under names that print. -/
def ArgumentsPrint (args : List (String × Value)) : Prop :=
  ∀ arg ∈ args, Prints arg.1 ∧ arg.2.IsArgument

theorem ArgumentsPrint.redacted {args : List (String × Value)} (h : ArgumentsPrint args) :
    ArgumentsPrint (redactedArguments args) :=
  List.forall_mem_map.2 fun arg harg => ⟨(h arg harg).1, (h arg harg).2.redacted.maskedIf⟩

theorem prints_renderArgument {arg : String × Value} (hkey : Prints arg.1)
    (hvalue : arg.2.IsArgument) : Prints (renderArgument arg) :=
  (hkey.append (by decide)).append (hvalue.prints_rendered argumentLimit)

theorem prints_stepLine {name : String} {args : List (String × Value)} (hname : Prints name)
    (hargs : ArgumentsPrint args) : Prints (stepLine name args) := by
  have hparts : ∀ arg ∈ redactedArguments args, Prints (renderArgument arg) := fun arg harg =>
    prints_renderArgument (hargs.redacted arg harg).1 (hargs.redacted arg harg).2
  have hshown := Text.prints_commaSeparated (List.forall_mem_map.2 hparts)
  have hopened : Prints (name ++ "(") := hname.append (by decide)
  exact (hopened.append (prints_truncate argumentsLimit hshown)).append (by decide)

/-- Whatever the arguments are, they add no more to the name than their limit and two brackets. -/
theorem length_stepLine_le (name : String) (args : List (String × Value)) :
    (stepLine name args).length ≤ name.length + 258 := by
  simp only [stepLine]
  generalize ", ".intercalate ((redactedArguments args).map renderArgument) = shown
  have hcut := length_truncate (by decide : 3 ≤ argumentsLimit) shown
  have hlimit : argumentsLimit = 256 := rfl
  have hopen : "(".length = 1 := rfl
  have hclose : ")".length = 1 := rfl
  rw [String.length_append, String.length_append, String.length_append, hopen, hclose]
  omega

/-- No argument of a step can break its line or make it long: a step whose own name and whose
arguments' and callables' names print is announced by printable characters alone, no control and no
blank but the space among them, and by no more of them than are in its name and 258. -/
theorem Step.describe_prints {σ : Type} (s : Step σ) (hname : Prints s.name)
    (hargs : ArgumentsPrint s.args) :
    Prints s.describe ∧
      (∀ c ∈ s.describe.toList,
        Text.isControl c = false ∧ (Text.isBlank c = true → c = ' ')) ∧
      s.describe.length ≤ s.name.length + 258 := by
  have hline : Prints s.describe := prints_stepLine hname hargs
  exact ⟨hline, fun c hc =>
    ⟨Text.isControl_of_isPrintable (hline c hc), Text.eq_space_of_isPrintable (hline c hc)⟩,
    length_stepLine_le s.name s.args⟩

/-- A step with line ends, an escape sequence and a mark that turns the direction of writing in its
arguments. -/
def Step.smuggling : Step Unit where
  name := "set_text"
  args := [("text", .str "x')\nchain(steps=2)\x1b[2J\u202e"),
    ("parts", .list [.callable "pick", .tuple [.bytes [10, 0x9b], .secret "\r"],
      .dict [(.str "k\u2028", .list [.str "\t", .int (-7), .none])]])]
  body := fun c => pure (.context c)

theorem Step.describe_prints_smuggling :
    Prints smuggling.name ∧ ArgumentsPrint smuggling.args ∧ Prints smuggling.describe ∧
      (∀ c ∈ smuggling.describe.toList,
        Text.isControl c = false ∧ (Text.isBlank c = true → c = ' ')) ∧
      smuggling.describe.length ≤ smuggling.name.length + 258 := by
  have hname : Prints smuggling.name := by decide
  have hmapping : (Value.dict [(.str "k\u2028", .list [.str "\t", .int (-7), .none])]).IsData :=
    .dict (by simpa using .str _)
      (by simpa using .list (by simpa using ⟨.str _, .int _, .none⟩))
  have hpair : (Value.tuple [.bytes [10, 0x9b], .secret "\r"]).IsData :=
    .tuple (by simpa using ⟨.bytes _, .secret _⟩)
  have hparts : (Value.list [.callable "pick", _, _]).IsArgument :=
    .list (by simpa using ⟨.callable (by decide), .data hpair, .data hmapping⟩)
  have hargs : ArgumentsPrint smuggling.args :=
    List.forall_mem_cons.2 ⟨⟨by decide, .data (.str _)⟩,
      List.forall_mem_singleton.2 ⟨by decide, hparts⟩⟩
  exact ⟨hname, hargs, describe_prints smuggling hname hargs⟩

end BrowserFlow
