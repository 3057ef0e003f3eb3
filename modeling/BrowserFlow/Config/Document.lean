import BrowserFlow.Config.BlockText
import BrowserFlow.Config.Node
import BrowserFlow.Config.Quotation
import BrowserFlow.Text.LineEnd

/-!
# Configuration documents

A document is a node: a mapping of keys to nodes, a list of nodes, a list or a mapping in brackets,
a quoted text, a block of text, or a plain scalar. Outside brackets the column in which a node
starts tells what it belongs to; a key stands on one line. Comments run from a number sign at the
start of a word to the end of the line. Tabs have no place outside quotes and comments. An empty
document is nothing, and there is only one document in a text.

Anchors and what refers to them, tags, keys after a question mark and directives are not read: a
text with any of them is refused. A configuration names the reader that it goes by, so that nothing
else depends on what this one leaves out.
-/
namespace BrowserFlow.Config

/-- A place in a text: what comes after it, its line and its column. -/
structure Place where
  rest : List Char
  line : Nat := 0
  column : Nat := 0

namespace Place

/-- The place before what is left of the text after this place. -/
def upTo (p : Place) (left : List Char) : Place :=
  let passed := p.rest.take (p.rest.length - left.length)
  let breaks := passed.count '\n'
  if breaks = 0 then { p with rest := left, column := p.column + passed.length }
  else ⟨left, p.line + breaks, (passed.reverse.takeWhile (· != '\n')).length⟩

end Place

namespace Document

/-- The end of the text, of a line, or a blank: what sets an indicator off. -/
def isSetOff (rest : List Char) : Bool := rest.head?.all fun c => c == ' ' || c == '\t' || c == '\n'

/-- Passes over blanks, line ends and comments. -/
def skipped (inComment : Bool) : List Char → List Char
  | [] => []
  | c :: rest =>
    if c = '\n' then skipped false rest
    else if inComment then skipped true rest
    else if c = ' ' then skipped false rest
    else if c = '#' then skipped true rest
    else c :: rest

def skip (s : List Char) : List Char := skipped false s

/-- The characters that no plain text starts with, blanks after them or not. -/
def isIndicator (c : Char) : Bool := ",[]\x7b\x7d#&*!|>'\"%@\x60\t".toList.contains c

/-- Can a plain text start here? A dash, a question mark or a colon starts one only in front of
something. -/
def startsPlain (inBrackets : Bool) : List Char → Bool
  | [] => false
  | c :: rest =>
    if c = '-' then !isSetOff rest
    else if c = '?' ∨ c = ':' then !inBrackets && !isSetOff rest
    else !isIndicator c

/-- Do the blanks here end a plain text on its line? -/
def endsWords (s : List Char) : Bool :=
  (s.dropWhile (· == ' ')).head?.all fun c => c == '\n' || c == '\t' || c == '#'

/-- What of a plain text stands on this line, and what comes after it. -/
def plainLine (inBrackets : Bool) : List Char → List Char × List Char
  | [] => ([], [])
  | c :: rest =>
    let ends :=
      if c = '\n' ∨ c = '\t' then true
      else if c = ' ' then endsWords rest
      else if c = ':' then
        isSetOff rest || (inBrackets && rest.head?.any ",[]\x7b\x7d".toList.contains)
      else inBrackets && ",?[]\x7b\x7d".toList.contains c
    if ends then ([], c :: rest)
    else
      let (words, after) := plainLine inBrackets rest
      (c :: words, after)

def withoutEndBlanks (s : List Char) : List Char := (s.reverse.dropWhile (· == ' ')).reverse

/-- Blanks and line ends, up to a marker at the start of a line. -/
def skipLines (atStart : Bool) : List Char → List Char
  | [] => []
  | c :: rest =>
    if atStart && Quotation.isMarker (c :: rest) then c :: rest
    else if c = '\n' then skipLines true rest
    else if c = ' ' then skipLines false rest
    else c :: rest

/-- Does a plain text that goes on from one place to another go on there? It does after a line end,
in any column past that of its parent, if it is in no brackets, and not at a comment or a marker. -/
def goesOn (inBrackets : Bool) (parent : Int) (p : Place) : Bool :=
  (inBrackets || parent < p.column) && p.rest.head?.any (· != '#') &&
    !(p.column == 0 && Quotation.isMarker p.rest)

/-- A plain text with its further lines, of which there are no more than characters. -/
def plainLines (inBrackets : Bool) (parent : Int) : Nat → Place → List Quotation.Piece × Place
  | 0, p => ([], p)
  | fuel + 1, p =>
    let (line, after) := plainLine inBrackets p.rest
    let words := (withoutEndBlanks line).map Quotation.Piece.escaped
    let next := p.upTo (skipLines false after)
    if line.isEmpty then ([], p)
    else if (after.dropWhile (· == ' ')).head? == some '\n' && goesOn inBrackets parent next then
      let (more, last) := plainLines inBrackets parent fuel next
      if more.isEmpty then (words, p.upTo after)
      else
        let between := after.take (after.length - next.rest.length)
        (words ++ between.map Quotation.Piece.written ++ more, last)
    else (words, p.upTo after)

/-- A plain text: its scalar, and the place after it. -/
def readPlain (inBrackets : Bool) (parent : Int) (p : Place) : Node × Place :=
  let (pieces, after) := plainLines inBrackets parent (p.rest.length + 1) p
  (.plain (Quotation.text pieces), after)

abbrev Result : Type := Except DocumentError (Node × List Char)

def quotedNode (r : Quotation.Result) : Result :=
  r.map fun (pieces, rest) => (.quoted (Quotation.text pieces), rest)

def blockNode (r : Except DocumentError (String × List Char)) : Result :=
  r.map fun (text, rest) => (.quoted text, rest)

/-- The most characters in front of the colon of a key. -/
def keyLimit : Nat := 1024

/-- Can what was here, up to what is left, be a key? It has to stand on one line and cannot be too
long. -/
def isKeyLength (s rest : List Char) : Bool :=
  let passed := s.take (s.length - rest.length)
  !passed.contains '\n' && passed.length ≤ keyLimit

mutual

/-- A node inside brackets and what comes after it. -/
def readFlow : Nat → List Char → Result
  | 0, _ => .error .unclosed
  | fuel + 1, s =>
    match s with
    | [] => .error .unclosed
    | '[' :: rest => readItems fuel (skip rest) []
    | '\x7b' :: rest => readEntries fuel (skip rest) []
    | '\'' :: rest => quotedNode (Quotation.readSingle rest)
    | '"' :: rest => quotedNode (Quotation.readDouble rest)
    | s =>
      if startsPlain true s then
        let (node, after) := readPlain true (-1) ⟨s, 0, 0⟩
        .ok (node, after.rest)
      else .error .unexpected

/-- What stands after the colon of a key inside brackets, if there is one: its value, or nothing. -/
def readFlowValue :
    Nat → List Char → List Char → Except DocumentError (Option Node × List Char)
  | 0, _, _ => .error .unclosed
  | fuel + 1, key, rest =>
    match skip rest with
    | ':' :: after =>
      if !isKeyLength key (':' :: after) then .error .unexpected
      else
        let after := skip after
        if after.head?.any fun c => c == ',' || c == ']' || c == '\x7d' then
          .ok (some (.plain ""), after)
        else (readFlow fuel after).map fun (node, rest) => (some node, rest)
    | rest => .ok (none, rest)

/-- The rest of a list in brackets; `items` are those read so far, the last one first. A pair is a
mapping of one. -/
def readItems : Nat → List Char → List Node → Result
  | 0, _, _ => .error .unclosed
  | fuel + 1, s, items =>
    match s with
    | [] => .error .unclosed
    | ']' :: rest => .ok (.list items.reverse, rest)
    | s => do
      let (item, rest) ← readFlow fuel s
      let (value, rest) ← readFlowValue fuel s rest
      let item := match value with
        | some v => Node.mapping [(item, v)]
        | none => item
      match skip rest with
      | ',' :: rest => readItems fuel (skip rest) (item :: items)
      | ']' :: rest => return (.list (item :: items).reverse, rest)
      | [] => .error .unclosed
      | _ => .error .unexpected

/-- The rest of a mapping in brackets; a key without a colon has no value. -/
def readEntries : Nat → List Char → List (Node × Node) → Result
  | 0, _, _ => .error .unclosed
  | fuel + 1, s, entries =>
    match s with
    | [] => .error .unclosed
    | '\x7d' :: rest => .ok (.mapping entries.reverse, rest)
    | s => do
      let (key, rest) ← readFlow fuel s
      let (value, rest) ← readFlowValue fuel s rest
      let entries := (key, value.getD (.plain "")) :: entries
      match skip rest with
      | ',' :: rest => readEntries fuel (skip rest) entries
      | '\x7d' :: rest => return (.mapping entries.reverse, rest)
      | [] => .error .unclosed
      | _ => .error .unexpected

end

/-- A key with the colon after it, both on one line, and the place after them. -/
def readKey? (p : Place) : Option (Node × Place) :=
  let coloned (node : Node) (after : List Char) : Option (Node × Place) :=
    match after.dropWhile (· == ' ') with
    | ':' :: rest =>
      if isKeyLength p.rest (':' :: rest) && isSetOff rest then some (node, p.upTo rest) else none
    | _ => none
  let ofResult (r : Result) : Option (Node × Place) :=
    match r with
    | .ok (node, after) => coloned node after
    | .error _ => none
  match p.rest with
  | '\'' :: rest => ofResult (quotedNode (Quotation.readSingle rest))
  | '"' :: rest => ofResult (quotedNode (Quotation.readDouble rest))
  | '[' :: _ | '\x7b' :: _ => ofResult (readFlow (2 * p.rest.length + 2) p.rest)
  | s =>
    if startsPlain false s || s.head? == some ':' then
      let (line, after) := plainLine false s
      coloned (.plain (String.ofList (withoutEndBlanks line))) after
    else none

/-- A node that is not told by columns: quoted, in brackets, in a block or plain. -/
def readInline (parent : Int) (p : Place) : Except DocumentError (Node × Place) :=
  let placed (r : Result) : Except DocumentError (Node × Place) :=
    r.map fun (node, rest) => (node, p.upTo rest)
  match p.rest with
  | '\'' :: rest => placed (quotedNode (Quotation.readSingle rest))
  | '"' :: rest => placed (quotedNode (Quotation.readDouble rest))
  | '[' :: _ | '\x7b' :: _ => placed (readFlow (2 * p.rest.length + 2) p.rest)
  | '|' :: rest => placed (blockNode (BlockText.read false parent rest))
  | '>' :: rest => placed (blockNode (BlockText.read true parent rest))
  | s => if startsPlain false s then .ok (readPlain false parent p) else .error .unexpected

def isItem (p : Place) : Bool :=
  match p.rest with
  | '-' :: rest => isSetOff rest
  | _ => false

/-- The place of the next word. -/
def next (p : Place) : Place := p.upTo (skip p.rest)

/-- Is there nothing more of the document? -/
def isOver (p : Place) : Bool := p.rest.isEmpty || (p.column == 0 && Quotation.isMarker p.rest)

mutual

/-- A node that starts here. -/
def readNode : Nat → Int → Place → Except DocumentError (Node × Place)
  | 0, _, _ => .error .misplaced
  | fuel + 1, parent, p =>
    if isItem p then readList fuel p.column p []
    else if (readKey? p).isSome then readMapping fuel p.column p []
    else readInline parent p

/-- The items of a list in a column; those read so far have the last one first. -/
def readList : Nat → Nat → Place → List Node → Except DocumentError (Node × Place)
  | 0, _, _, _ => .error .misplaced
  | fuel + 1, column, p, items => do
    let dash := p.upTo (p.rest.drop 1)
    let q := next dash
    let (item, after) ←
      if isOver q || (dash.line < q.line && q.column ≤ column) then pure (Node.plain "", dash)
      else readNode fuel column q
    let items := item :: items
    let q := next after
    if !isOver q && q.column == column && isItem q && after.line < q.line then
      readList fuel column q items
    else return (.list items.reverse, after)

/-- The entries of a mapping in a column; those read so far have the last one first. A list can
stand in the column of the key that it belongs to. -/
def readMapping :
    Nat → Nat → Place → List (Node × Node) → Except DocumentError (Node × Place)
  | 0, _, _, _ => .error .misplaced
  | fuel + 1, column, p, entries =>
    match readKey? p with
    | none => .error .misplaced
    | some (key, colon) => do
      let q := next colon
      let (value, after) ←
        if isOver q then pure (Node.plain "", colon)
        else if q.line = colon.line then readInline column q
        else if column < q.column then readNode fuel column q
        else if q.column = column ∧ isItem q then readList fuel column q []
        else pure (Node.plain "", colon)
      let entries := (key, value) :: entries
      let q := next after
      if isOver q || q.column < column then return (.mapping entries.reverse, after)
      else if q.column = column ∧ after.line < q.line then readMapping fuel column q entries
      else .error .misplaced

end

/-- The characters that a document may hold. -/
def isAllowed (c : Char) : Bool :=
  let n := c.toNat
  n == 0x09 || n == 0x0a || (0x20 ≤ n && n ≤ 0x7e) || n == 0x85 ||
    (0xa0 ≤ n && n ≤ 0xfffd) || 0x10000 ≤ n

/-- The separators of lines and paragraphs, and next line, end a line too. -/
def unifyLineEnds (s : String) : List Char :=
  (Text.unifyLineEnds s.toList).map fun c =>
    if c.toNat = 0x85 ∨ c.toNat = 0x2028 ∨ c.toNat = 0x2029 then '\n' else c

def markOf (p : Place) : Option Char :=
  if p.column == 0 && Quotation.isMarker p.rest then p.rest.head? else none

/-- What may come after the node of a document: a marker of its end, and nothing more. -/
def checkEnd (p : Place) : Except DocumentError Unit :=
  let p := next p
  if p.rest.isEmpty then .ok ()
  else if markOf p = some '.' then
    if (skip (p.rest.drop 3)).isEmpty then .ok () else .error .unexpected
  else .error .misplaced

/-- The node of a document, after the marker of its start if there is one. -/
def readStart (p : Place) : Except DocumentError (Node × Place) :=
  let p := next p
  let fuel := 2 * p.rest.length + 2
  if markOf p = some '-' then
    let q := next (p.upTo (p.rest.drop 3))
    if isOver q then .ok (.plain "", q)
    else if q.line = p.line then readInline (-1) q
    else readNode fuel (-1) q
  else if p.rest.isEmpty then .ok (.plain "", p)
  else if isOver p then .error .unexpected
  else readNode fuel (-1) p

/-- The value that a document holds. -/
def read (s : String) : Except DocumentError Value := do
  let content := unifyLineEnds s
  if !content.all isAllowed then throw .unprintable
  let (node, after) ← readStart ⟨Text.withoutMark content, 0, 0⟩
  checkEnd after
  node.value

end Document

end BrowserFlow.Config
