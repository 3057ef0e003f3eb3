import BrowserFlow.Proofs.Characters
import BrowserFlow.Proofs.Parting
import BrowserFlow.Proofs.Redacting
import BrowserFlow.Text.Json

/-!
# Reading object notation

Which values can be written in object notation, and what is read of what was written. A value can be
written exactly if nothing at any depth of it stands in the way: a key without a written form, an
error without a text, or a whole number of too many digits. A written object falls apart into its
members at the separators that stand outside of texts and of inner brackets, and these are the
entries of the mapping one by one, each with the written forms of its key and of its whole value. So
no key and no value can pass for another member, whatever characters are in it.
-/
namespace BrowserFlow

namespace Text

/-! ### Taking an object apart -/

/-- Texts stand in quotes, in which a backslash takes the next character as it is; lists and objects
stand in brackets. -/
def objectEnclosure : Enclosure := ⟨['"'], some '\\', ['\x7b', '['], ['\x7d', ']']⟩

/-- A text without a blank that it begins with. -/
def afterBlank : List Char → List Char
  | ' ' :: rest => rest
  | text => text

/-- The key and the value of a member, as they are written. -/
def member? (text : List Char) : Option (String × String) :=
  match objectEnclosure.parts ':' (afterBlank text) with
  | [key, value] => some (String.ofList key, String.ofList (afterBlank value))
  | _ => none

/-- The members of an object in their order. -/
def members? (text : String) : Option (List (String × String)) :=
  match text.toList with
  | '\x7b' :: rest =>
    if rest.getLast? ≠ some '\x7d' then none
    else if rest.dropLast.isEmpty then some []
    else (objectEnclosure.parts ',' rest.dropLast).mapM member?
  | _ => none

/-! ### Texts that stay in one piece -/

/-- What parts members, or a key from its value. -/
def IsSeparator (c : Char) : Prop := c = ',' ∨ c = ':'

/-- A character that encloses nothing and parts nothing. -/
def isPlain (c : Char) : Bool := c ∉ ['"', '\\', '\x7b', '[', '\x7d', ']', ',', ':']

/-- A text that is in one piece wherever it stands outside of quotes. -/
def Whole (text : List Char) : Prop :=
  ∀ sep, IsSeparator sep → ∀ depth, objectEnclosure.Solid sep (.within depth) text

/-- A text that is in one piece wherever it stands in brackets. -/
def WholeWithin (text : List Char) : Prop :=
  ∀ sep, IsSeparator sep → ∀ depth, objectEnclosure.Solid sep (.within (depth + 1)) text

variable {sep c : Char} {s t : List Char} {depth : Nat}

theorem next_separator (h : IsSeparator sep) : objectEnclosure.next .outside sep = .outside := by
  obtain rfl | rfl := h <;> decide

theorem Whole.within (h : Whole t) : WholeWithin t := fun sep hsep depth => h sep hsep (depth + 1)

theorem Whole.append (hs : Whole s) (ht : Whole t) : Whole (s ++ t) := fun sep hsep depth =>
  (hs sep hsep depth).append (next_separator hsep) (ht sep hsep depth)

theorem WholeWithin.append (hs : WholeWithin s) (ht : WholeWithin t) : WholeWithin (s ++ t) :=
  fun sep hsep depth => (hs sep hsep depth).append (next_separator hsep) (ht sep hsep depth)

theorem next_of_isPlain (hc : isPlain c = true) (depth : Nat) :
    objectEnclosure.next (.within depth) c = .within depth := by
  simp only [isPlain, decide_eq_true_eq, List.mem_cons, not_or] at hc
  simp [Enclosure.next, Place.within, objectEnclosure, hc]

theorem whole_single (hc : isPlain c = true) : Whole [c] := by
  intro sep hsep depth
  refine .single (next_of_isPlain hc depth) fun h => ?_
  obtain ⟨rfl, -⟩ := h
  obtain rfl | rfl := hsep <;> cases hc

theorem whole_of_plain (h : ∀ c ∈ t, isPlain c = true) : Whole t := by
  induction t with
  | nil => exact fun _ _ _ => .nil
  | cons c t ih =>
    obtain ⟨hc, ht⟩ := List.forall_mem_cons.1 h
    exact (whole_single hc).append (ih ht)

/-- A separator that stands in brackets parts nothing. -/
theorem wholeWithin_separator (h : IsSeparator c) : WholeWithin [c] := by
  intro sep hsep depth
  refine .single ?_ fun hout => Place.within_ne_outside (Nat.succ_pos depth) hout.2
  obtain rfl | rfl := h <;> rfl

/-- Between brackets a text is in one piece, whatever separators are in it. -/
theorem whole_bracketed {o : Char} (ho : o ∈ objectEnclosure.opening)
    (hc : c ∈ objectEnclosure.closing) (h : WholeWithin t) : Whole (o :: (t ++ [c])) := by
  intro sep hsep depth
  have hopen : objectEnclosure.next (.within depth) o = .within (depth + 1) := by
    revert o
    simp [objectEnclosure, Enclosure.next, Place.within]
  have hclose : objectEnclosure.next (.within (depth + 1)) c = .within depth := by
    revert c
    simp [objectEnclosure, Enclosure.next, Place.within]
  have hkeeps : o ≠ sep := by
    rintro rfl
    obtain rfl | rfl := hsep <;> revert ho <;> decide
  exact .enclosed (next_separator hsep) hopen hclose (fun heq => hkeeps heq.1)
    (fun hout => Place.within_ne_outside (Nat.succ_pos depth) hout.2) (h sep hsep depth)

/-! ### Texts in quotes -/

/-- A character that is in one piece in quotes, as it is. -/
theorem solid_quoted (hquote : c ≠ '"') (hescape : c ≠ '\\') (sep : Char) (depth : Nat) :
    objectEnclosure.Solid sep (.quoted '"' depth) [c] := by
  refine .single ?_ fun h => Place.quoted_ne_outside _ _ h.2
  simp [Enclosure.next, Place.quoted, objectEnclosure, hquote, hescape.symm]

/-- Any character is in one piece with a backslash before it. -/
theorem solid_escaped (sep c : Char) (depth : Nat) :
    objectEnclosure.Solid sep (.quoted '"' depth) ['\\', c] := by
  have hescaped : ({ quote := some '"', escaped := true, depth } : Place) ≠ .outside := by
    intro h
    cases congrArg Place.quote h
  refine ⟨rfl, ?_⟩
  rw [Enclosure.partsFrom_cons fun h => Place.quoted_ne_outside _ _ h.2]
  change (objectEnclosure.partsFrom sep ⟨some '"', true, depth⟩ [c]).modifyHead _ = _
  rw [Enclosure.partsFrom_cons fun h => hescaped h.2]
  rfl

section Quoted

variable (hsep : IsSeparator sep)

include hsep

theorem solid_hexDigits (count n depth : Nat) :
    objectEnclosure.Solid sep (.quoted '"' depth) (hexDigits count n) := by
  induction count generalizing n with
  | zero => exact .nil
  | succ count ih =>
    refine (ih _).append (next_separator hsep) ?_
    have hdigit : ∀ d < 16, hexDigit d ≠ '"' ∧ hexDigit d ≠ '\\' := by decide
    obtain ⟨hquote, hescape⟩ := hdigit (n % 16) (Nat.mod_lt n (by decide))
    exact solid_quoted hquote hescape sep depth

theorem solid_jsonUnit (n depth : Nat) :
    objectEnclosure.Solid sep (.quoted '"' depth) (jsonUnit n) :=
  (solid_escaped sep 'u' depth).append (next_separator hsep) (solid_hexDigits hsep 4 n depth)

theorem solid_jsonChar (c : Char) (depth : Nat) :
    objectEnclosure.Solid sep (.quoted '"' depth) (jsonChar c) := by
  rw [jsonChar]
  split
  · exact solid_escaped sep c depth
  · next hplain =>
    rw [not_or] at hplain
    iterate 5
      split
      · exact solid_escaped sep _ depth
    split
    · exact solid_quoted hplain.1 hplain.2 sep depth
    · split
      · exact solid_jsonUnit hsep _ depth
      · exact (solid_jsonUnit hsep _ depth).append (next_separator hsep)
          (solid_jsonUnit hsep _ depth)

end Quoted

theorem whole_jsonString (s : String) : Whole (jsonString s).toList := by
  intro sep hsep depth
  have hquote : '"' ≠ sep := by
    rintro rfl
    obtain h | h := hsep <;> cases h
  rw [jsonString, String.toList_ofList]
  exact .enclosed (next_separator hsep) rfl rfl (fun h => hquote h.1)
    (fun h => Place.quoted_ne_outside _ _ h.2)
    (.flatMap (next_separator hsep) fun c _ => solid_jsonChar hsep c depth)

/-! ### Numbers -/

/-- A text without anything that encloses or parts. -/
def PlainText (s : String) : Prop := ∀ c ∈ s.toList, isPlain c = true

instance : DecidablePred PlainText := fun s =>
  List.decidableBAll (fun c => isPlain c = true) s.toList

theorem isPlain_of_isNumeral (c : Char) (h : isNumeral c = true) : isPlain c = true := by
  rw [isPlain, decide_eq_true_eq]
  simp only [List.mem_cons, List.not_mem_nil, or_false]
  rintro (rfl | rfl | rfl | rfl | rfl | rfl | rfl | rfl) <;> revert h <;> decide

theorem plainText_int (n : Int) : PlainText (toString n) :=
  (consistsOf_int n).mono isPlain_of_isNumeral

/-- A float has no character that encloses or parts, if the words for what is not finite have
none. -/
theorem plainText_write {layout : Decimal.Layout} (hinfinity : PlainText layout.infinity)
    (hnan : PlainText layout.notANumber) (x : Float) : PlainText (layout.write x) :=
  consistsOf_write isPlain_of_isNumeral hinfinity hnan x

/-! ### Lists and objects -/

theorem whole_of_plainText {s : String} (h : PlainText s) : Whole s.toList := whole_of_plain h

theorem wholeWithin_comma : WholeWithin ", ".toList :=
  (wholeWithin_separator (.inl rfl)).append (whole_single rfl).within

theorem wholeWithin_colon : WholeWithin ": ".toList :=
  (wholeWithin_separator (.inr rfl)).append (whole_single rfl).within

theorem wholeWithin_intercalate {parts : List String}
    (h : ∀ part ∈ parts, WholeWithin part.toList) :
    WholeWithin (", ".intercalate parts).toList := by
  induction parts with
  | nil => exact fun _ _ _ => .nil
  | cons part rest ih =>
    obtain ⟨hpart, hrest⟩ := List.forall_mem_cons.1 h
    cases rest with
    | nil => rwa [String.intercalate_singleton]
    | cons next rest =>
      rw [String.intercalate_cons_cons, String.toList_append, String.toList_append]
      exact (hpart.append wholeWithin_comma).append (ih hrest)

theorem whole_list {parts : List String} (h : ∀ part ∈ parts, WholeWithin part.toList) :
    Whole ("[" ++ ", ".intercalate parts ++ "]").toList := by
  rw [String.toList_append, String.toList_append, List.append_assoc]
  exact whole_bracketed (by decide) (by decide) (wholeWithin_intercalate h)

theorem whole_object {parts : List String} (h : ∀ part ∈ parts, WholeWithin part.toList) :
    Whole ("\x7b" ++ ", ".intercalate parts ++ "\x7d").toList := by
  rw [String.toList_append, String.toList_append, List.append_assoc]
  exact whole_bracketed (by decide) (by decide) (wholeWithin_intercalate h)

/-- A key and its value with what stands between them. -/
def memberText (pair : String × String) : String := pair.1 ++ ": " ++ pair.2

theorem toList_memberText (pair : String × String) :
    (memberText pair).toList = pair.1.toList ++ ':' :: ' ' :: pair.2.toList := by
  rw [memberText, String.toList_append, String.toList_append, List.append_assoc]
  rfl

theorem wholeWithin_member {key value : String} (hkey : Whole key.toList)
    (hvalue : Whole value.toList) : WholeWithin (key ++ ": " ++ value).toList := by
  rw [String.toList_append, String.toList_append]
  exact (hkey.within.append wholeWithin_colon).append hvalue.within

/-! ### Members -/

/-- What is written for a member of a mapping: a text as the key, and a value in one piece. -/
structure IsMember (pair : String × String) : Prop where
  key : ∃ s, pair.1 = jsonString s
  value : Whole pair.2.toList

theorem IsMember.whole_key {pair : String × String} (h : IsMember pair) : Whole pair.1.toList := by
  obtain ⟨s, hs⟩ := h.key
  exact hs ▸ whole_jsonString s

/-- What can stand before a member. -/
def IsLead (lead : List Char) : Prop := lead = [] ∨ lead = [' ']

variable {pair : String × String} {lead : List Char}

theorem IsLead.whole (h : IsLead lead) : Whole lead := by
  obtain rfl | rfl := h
  · exact fun _ _ _ => .nil
  · exact whole_single rfl

theorem afterBlank_member (hpair : IsMember pair) (hlead : IsLead lead) :
    afterBlank (lead ++ (memberText pair).toList) = (memberText pair).toList := by
  obtain rfl | rfl := hlead
  · obtain ⟨s, hs⟩ := hpair.key
    rw [toList_memberText, hs, jsonString, String.toList_ofList]
    rfl
  · rfl

/-- A member falls into its key and its value. -/
theorem member?_memberText (hpair : IsMember pair) (hlead : IsLead lead) :
    member? (lead ++ (memberText pair).toList) = some pair := by
  have hcolon : IsSeparator ':' := .inr rfl
  have hkey := hpair.whole_key
  have hvalue : Whole (' ' :: pair.2.toList) := (whole_single rfl).append hpair.value
  have hparts : objectEnclosure.parts ':' (memberText pair).toList =
      [pair.1.toList, ' ' :: pair.2.toList] := by
    rw [toList_memberText,
      Enclosure.parts_append_sep (next_separator hcolon) (hkey _ hcolon 0).read, Enclosure.parts,
      Enclosure.parts]
    exact congrArg₂ (· ++ ·) (hkey _ hcolon 0).parts (hvalue _ hcolon 0).parts
  rw [member?, afterBlank_member hpair hlead, hparts]
  simp only [afterBlank, String.ofList_toList]

theorem solid_member (hpair : IsMember pair) (hlead : IsLead lead) :
    objectEnclosure.Solid ',' .outside (lead ++ (memberText pair).toList) := by
  have hcomma : IsSeparator ',' := .inl rfl
  have hkey := hpair.whole_key
  have hcolon : objectEnclosure.Solid ',' .outside [':'] := by decide
  have hvalue : Whole (' ' :: pair.2.toList) := (whole_single rfl).append hpair.value
  have hnext := next_separator hcomma
  rw [toList_memberText]
  exact (hlead.whole _ hcomma 0).append hnext
    ((hkey _ hcomma 0).append hnext (hcolon.append hnext (hvalue _ hcomma 0)))

theorem mapM_member? (pair : String × String) (rest : List (String × String))
    (hpairs : ∀ p ∈ pair :: rest, IsMember p) (hlead : IsLead lead) :
    (objectEnclosure.parts ','
      (lead ++ (", ".intercalate ((pair :: rest).map memberText)).toList)).mapM member? =
        some (pair :: rest) := by
  induction rest generalizing pair lead with
  | nil =>
    have hpair := hpairs pair List.mem_cons_self
    rw [List.map_cons, List.map_nil, String.intercalate_singleton, Enclosure.parts,
      (solid_member hpair hlead).parts, List.mapM_cons, member?_memberText hpair hlead]
    rfl
  | cons next rest ih =>
    obtain ⟨hpair, hrest⟩ := List.forall_mem_cons.1 hpairs
    have hsolid := solid_member hpair hlead
    have htext : lead ++ (", ".intercalate ((pair :: next :: rest).map memberText)).toList =
        (lead ++ (memberText pair).toList) ++
          ',' :: ([' '] ++ (", ".intercalate ((next :: rest).map memberText)).toList) := by
      rw [List.map_cons, List.map_cons, String.intercalate_cons_cons, String.toList_append,
        String.toList_append, List.append_assoc, List.append_assoc]
      rfl
    rw [htext, Enclosure.parts_append_sep (next_separator (.inl rfl)) hsolid.read, Enclosure.parts,
      hsolid.parts, List.singleton_append, List.mapM_cons, member?_memberText hpair hlead,
      ih next hrest (.inr rfl)]
    rfl

/-- The members of an object are what stands between its brackets, taken apart. -/
theorem members?_object {pairs : List (String × String)} (hpairs : ∀ p ∈ pairs, IsMember p) :
    members? ("\x7b" ++ ", ".intercalate (pairs.map memberText) ++ "\x7d") = some pairs := by
  have htext : ("\x7b" ++ ", ".intercalate (pairs.map memberText) ++ "\x7d").toList =
      '\x7b' :: ((", ".intercalate (pairs.map memberText)).toList ++ ['\x7d']) := by
    rw [String.toList_append, String.toList_append, List.append_assoc]
    rfl
  rw [members?, htext]
  simp only [List.getLast?_concat, List.dropLast_concat, ne_eq, not_true_eq_false, if_false]
  cases pairs with
  | nil => rfl
  | cons pair rest =>
    have hmembers := mapM_member? pair rest hpairs (.inl rfl)
    rw [List.nil_append] at hmembers
    refine (if_neg fun hempty => ?_).trans hmembers
    -- an empty text has no member
    rw [List.isEmpty_iff.1 hempty] at hmembers
    cases hmembers

end Text

open Text (Whole WholeWithin memberText)

/-- A whole number of no more digits than are written. -/
def Numeral.IsShort (n : Int) : Prop := (toString n.natAbs).length ≤ digitLimit

instance : DecidablePred Numeral.IsShort := fun n =>
  inferInstanceAs (Decidable ((toString n.natAbs).length ≤ Numeral.digitLimit))

theorem Numeral.toOption_write (n : Int) :
    (write n).toOption = if IsShort n then some (toString n) else none := by
  have hlength : (toString n).length - (if n < 0 then 1 else 0) = (toString n.natAbs).length := by
    rw [Int.toString_eq_repr, Int.repr_eq_if, Nat.toString_eq_repr]
    by_cases hn : 0 ≤ n
    · rw [if_pos hn, if_neg (Int.not_lt.2 hn), show n.toNat = n.natAbs by omega]
      rfl
    · rw [if_neg hn, if_pos (Int.not_le.1 hn), String.length_append,
        show (-n).toNat = n.natAbs by omega]
      exact Nat.add_sub_cancel_left _ _
  by_cases h : IsShort n
  · rw [if_pos h, write, hlength, if_neg (Nat.not_lt.2 h)]
    rfl
  · rw [if_neg h, write, hlength, if_pos (Nat.not_le.1 h)]
    rfl

namespace Value

/-- The written forms of the keys and of the values of a mapping, if all have one. -/
def jsonPairs? (entries : List (Value × Value)) : Option (List (String × String)) :=
  entries.mapM fun (k, v) => do return (← k.jsonKey?, ← v.json?)

theorem jsonPairs?_cons (k v : Value) (rest : List (Value × Value)) :
    jsonPairs? ((k, v) :: rest) = (do
      let pair ← (do return (← k.jsonKey?, ← v.json?))
      return pair :: (← jsonPairs? rest)) :=
  List.mapM_cons

theorem jsonPairs?_append (entries rest : List (Value × Value)) :
    jsonPairs? (entries ++ rest) = (do return (← jsonPairs? entries) ++ (← jsonPairs? rest)) :=
  List.mapM_append

theorem jsonEntries?_eq (entries : List (Value × Value)) :
    jsonEntries? entries = (jsonPairs? entries).map (·.map memberText) := by
  induction entries with
  | nil => rfl
  | cons entry rest ih =>
    obtain ⟨k, v⟩ := entry
    rw [jsonEntries?, ih, jsonPairs?_cons]
    cases k.jsonKey? <;> cases v.json? <;> cases jsonPairs? rest <;> rfl

theorem jsonKey?_eq {v : Value} {text : String} (h : v.jsonKey? = some text) :
    ∃ s, text = Text.jsonString s := by
  cases v with
  | int n =>
    obtain ⟨s, -, rfl⟩ := Option.map_eq_some_iff.1 h
    exact ⟨s, rfl⟩
  | none | bool | float | str => exact ⟨_, (Option.some.inj h).symm⟩
  | _ => cases h

theorem whole_jsonKey {v : Value} {text : String} (h : v.jsonKey? = some text) :
    Whole text.toList := by
  obtain ⟨s, rfl⟩ := jsonKey?_eq h
  exact Text.whole_jsonString s

mutual

/-- What a value is written as is in one piece wherever it stands. -/
theorem whole_json {v : Value} {text : String} (h : v.json? = some text) : Whole text.toList := by
  match v with
  | .none =>
    cases h
    exact Text.whole_of_plainText (by decide)
  | .bool b =>
    cases h
    exact Text.whole_of_plainText (by cases b <;> decide)
  | .int n =>
    rw [json?, Numeral.toOption_write] at h
    split at h
    · cases h
      exact Text.whole_of_plainText (Text.plainText_int n)
    · cases h
  | .float x =>
    rw [← Option.some.inj h]
    exact Text.whole_of_plainText (Text.plainText_write (by decide) (by decide) x)
  | .list items | .tuple items =>
    obtain ⟨parts, hparts, rfl⟩ := Option.map_eq_some_iff.1 h
    exact Text.whole_list fun part hpart => (whole_jsonAll hparts part hpart).within
  | .dict entries =>
    obtain ⟨parts, hparts, rfl⟩ := Option.map_eq_some_iff.1 h
    exact Text.whole_object (whole_jsonEntries hparts)
  | .raised cls args step =>
    rw [json?] at h
    split at h
    · cases h
    · rw [← Option.some.inj h]
      exact Text.whole_jsonString _
  | .str _ | .bytes _ | .secret _ | .secretBytes _ | .callable _ | .object _ | .failure ..
  | .locator _ | .element _ | .other .. =>
    rw [← Option.some.inj h]
    exact Text.whole_jsonString _

theorem whole_jsonAll {vs : List Value} {parts : List String} (h : jsonAll? vs = some parts) :
    ∀ part ∈ parts, Whole part.toList := by
  match vs with
  | [] =>
    cases h
    exact List.forall_mem_nil _
  | v :: vs =>
    rw [jsonAll?] at h
    split at h
    · next part parts hpart hparts =>
      obtain rfl := Option.some.inj h
      exact List.forall_mem_cons.2 ⟨whole_json hpart, whole_jsonAll hparts⟩
    · cases h

theorem whole_jsonEntries {entries : List (Value × Value)} {parts : List String}
    (h : jsonEntries? entries = some parts) : ∀ part ∈ parts, WholeWithin part.toList := by
  match entries with
  | [] =>
    cases h
    exact List.forall_mem_nil _
  | (k, v) :: rest =>
    rw [jsonEntries?] at h
    split at h
    · next key part parts hkey hpart hparts =>
      obtain rfl := Option.some.inj h
      exact List.forall_mem_cons.2
        ⟨Text.wholeWithin_member (whole_jsonKey hkey) (whole_json hpart),
          whole_jsonEntries hparts⟩
    · cases h

end

/-! ### The members of a written mapping -/

theorem isMember_of_jsonPairs? {entries : List (Value × Value)} {pairs : List (String × String)}
    (h : jsonPairs? entries = some pairs) : ∀ pair ∈ pairs, Text.IsMember pair := by
  induction entries generalizing pairs with
  | nil =>
    cases h
    exact List.forall_mem_nil _
  | cons entry rest ih =>
    obtain ⟨k, v⟩ := entry
    rw [jsonPairs?_cons] at h
    rcases hkey : k.jsonKey? with _ | key
    · rw [hkey] at h
      cases h
    rcases hvalue : v.json? with _ | value
    · rw [hkey, hvalue] at h
      cases h
    rcases hrest : jsonPairs? rest with _ | pairs
    · rw [hkey, hvalue, hrest] at h
      cases h
    rw [hkey, hvalue, hrest] at h
    cases h
    exact List.forall_mem_cons.2 ⟨⟨jsonKey?_eq hkey, whole_json hvalue⟩, ih hrest⟩

/-- The members of a written mapping are its entries, one by one and in their order. -/
theorem members?_of_json? {entries : List (Value × Value)} {text : String}
    (h : (dict entries).json? = some text) :
    ∃ pairs, jsonPairs? entries = some pairs ∧ Text.members? text = some pairs := by
  obtain ⟨parts, hparts, rfl⟩ := Option.map_eq_some_iff.1 h
  rw [jsonEntries?_eq] at hparts
  obtain ⟨pairs, hpairs, rfl⟩ := Option.map_eq_some_iff.1 hparts
  exact ⟨pairs, hpairs, Text.members?_object (isMember_of_jsonPairs? hpairs)⟩

/-! ### Which values can be written -/

/-- A value that can be written as a key. -/
def CanName : Value → Prop
  | none | bool _ | float _ | str _ => True
  | int n => Numeral.IsShort n
  | _ => False

/-- Nothing at the top of a value keeps it from being written. -/
def Writable : Value → Prop
  | int n => Numeral.IsShort n
  | raised cls args step => (raised cls args step).textObstacle = .none
  | dict entries => ∀ entry ∈ entries, entry.1.CanName
  | _ => True

/-- Nothing at any depth of a value keeps it from being written. -/
def WritableThroughout (v : Value) : Prop := ∀ w, v.Contains w → w.Writable

theorem writableThroughout_of_not_isContainer {v : Value} (hv : v.isContainer = false) :
    v.WritableThroughout ↔ v.Writable := by
  refine ⟨fun h => h v (.self v), fun h w hw => ?_⟩
  cases hw with
  | self => exact h
  | list | tuple | dict => cases hv

theorem writableThroughout_list {items : List Value} :
    (list items).WritableThroughout ↔ ∀ v ∈ items, v.WritableThroughout := by
  refine ⟨fun h v hv w hw => h w (.list hv hw), fun h w hw => ?_⟩
  cases hw with
  | self => trivial
  | list hv hw => exact h _ hv _ hw

theorem writableThroughout_tuple {items : List Value} :
    (tuple items).WritableThroughout ↔ ∀ v ∈ items, v.WritableThroughout := by
  refine ⟨fun h v hv w hw => h w (.tuple hv hw), fun h w hw => ?_⟩
  cases hw with
  | self => trivial
  | tuple hv hw => exact h _ hv _ hw

theorem writableThroughout_dict {entries : List (Value × Value)} :
    (dict entries).WritableThroughout ↔
      ∀ entry ∈ entries, entry.1.CanName ∧ entry.2.WritableThroughout := by
  constructor
  · exact fun h entry hentry =>
      ⟨h _ (.self _) entry hentry, fun w hw => h w (.dict hentry hw)⟩
  · intro h w hw
    cases hw with
    | self => exact fun entry hentry => (h entry hentry).1
    | dict hentry hw => exact (h _ hentry).2 _ hw

theorem jsonKey?_isSome_iff (v : Value) : v.jsonKey?.isSome = true ↔ v.CanName := by
  cases v with
  | int n =>
    rw [jsonKey?, Numeral.toOption_write, CanName]
    split <;> simp_all
  | _ => simp [jsonKey?, CanName]

mutual

/-- A value can be written exactly if nothing at any depth of it keeps it from being written. -/
theorem json?_isSome_iff (v : Value) : v.json?.isSome = true ↔ v.WritableThroughout := by
  match v with
  | .list items =>
    rw [json?, Option.isSome_map, jsonAll?_isSome_iff, writableThroughout_list]
  | .tuple items =>
    rw [json?, Option.isSome_map, jsonAll?_isSome_iff, writableThroughout_tuple]
  | .dict entries =>
    rw [json?, Option.isSome_map, jsonEntries?_isSome_iff, writableThroughout_dict]
  | .int n =>
    rw [json?, Numeral.toOption_write, writableThroughout_of_not_isContainer rfl, Writable]
    split <;> simp_all
  | .raised cls args step =>
    rw [json?, writableThroughout_of_not_isContainer rfl, Writable]
    cases (raised cls args step).textObstacle <;> simp
  | .none | .bool _ | .float _ | .str _ | .bytes _ | .secret _ | .secretBytes _ | .callable _
  | .object _ | .failure .. | .locator _ | .element _ | .other .. =>
    rw [writableThroughout_of_not_isContainer rfl]
    exact iff_of_true rfl trivial

theorem jsonAll?_isSome_iff (vs : List Value) :
    (jsonAll? vs).isSome = true ↔ ∀ v ∈ vs, v.WritableThroughout := by
  match vs with
  | [] => simp [jsonAll?]
  | v :: vs =>
    rw [jsonAll?, List.forall_mem_cons, ← json?_isSome_iff v, ← jsonAll?_isSome_iff vs]
    cases v.json? <;> cases jsonAll? vs <;> simp

theorem jsonEntries?_isSome_iff (entries : List (Value × Value)) :
    (jsonEntries? entries).isSome = true ↔
      ∀ entry ∈ entries, entry.1.CanName ∧ entry.2.WritableThroughout := by
  match entries with
  | [] => simp [jsonEntries?]
  | (k, v) :: rest =>
    rw [jsonEntries?, List.forall_mem_cons, ← jsonKey?_isSome_iff k, ← json?_isSome_iff v,
      ← jsonEntries?_isSome_iff rest]
    cases k.jsonKey? <;> cases v.json? <;> cases jsonEntries? rest <;> simp

end

end Value

end BrowserFlow
