import TexWeave.Text.Lines
import TexWeave.Yaml.Cursor

/-!
# From text to tokens

Collections in blocks have no marks of their own: a deeper column opens one and a lesser column
closes it.  A key shows only by the colon behind it, so every token that could start a key is kept
in mind, one for each depth of brackets, and the tokens of a key and of a mapping are put in front
of it when the colon comes.

* `KeyStart` — a token that may turn out to be a key.
* `Scanner.step` — reads one token.
* `tokensOf` — all tokens of a text, or nothing if it has none.
-/

set_option autoImplicit false

namespace TexWeave
namespace Yaml

/-- A token that may turn out to be a key: its number, where it stands, and whether it can be
nothing else. -/
structure KeyStart where
  number : Nat
  required : Bool
  index : Nat
  line : Nat
  column : Nat

/-- How far the colon of a key may be from its start. -/
def keyReach : Nat := 1024

/-- A state of reading.  Columns of collections that are open stand in `columns`, the innermost
first; `keys` has a place for each open bracket and one for the text around them, the innermost
first. -/
structure Scanner where
  cursor : Cursor
  tokens : Array Token := #[]
  columns : List Nat := []
  keys : List (Option KeyStart) := [none]
  /-- Whether a key may start here. -/
  keyAllowed : Bool := true

namespace Scanner

/-- Whether the cursor is inside brackets. -/
def inFlow (s : Scanner) : Bool := 1 < s.keys.length

/-- The column of the innermost open collection. -/
def column : Scanner → Int
  | ⟨_, _, c :: _, _, _⟩ => c
  | _ => -1

/-- The scanner with one more token. -/
def emit (s : Scanner) (t : Token) : Scanner := { s with tokens := s.tokens.push t }

/-- The scanner with the cursor a number of characters further. -/
def skip (s : Scanner) (n : Nat) : Scanner := { s with cursor := s.cursor.skip n }

/-- The scanner with or without leave for a key. -/
def allowing (s : Scanner) (b : Bool) : Scanner := { s with keyAllowed := b }

/-! ## Keys -/

/-- Forgets the innermost possible key; one that can be nothing else must not be forgotten. -/
def forgetKey (s : Scanner) : Option Scanner :=
  match s.keys with
  | some k :: r => if k.required then none else some { s with keys := none :: r }
  | _ => some s

/-- Keeps in mind that the next token may be a key. -/
def noteKey (s : Scanner) : Option Scanner :=
  if !s.keyAllowed then some s
  else do
    let t ← s.forgetKey
    let c := s.cursor
    let required := !s.inFlow && s.column == c.column
    return { t with keys := some ⟨s.tokens.size, required, c.index, c.line, c.column⟩
                      :: t.keys.drop 1 }

/-- Whether a key that may start at `k` can no longer be one at a cursor. -/
def isStale (c : Cursor) (k : KeyStart) : Bool := k.line != c.line || k.index + keyReach < c.index

/-- Forgets all keys that can no longer be keys. -/
def forgetStale (s : Scanner) : Option Scanner := do
  let keys ← s.keys.mapM fun
    | none => some none
    | some k =>
      if !isStale s.cursor k then some (some k) else if k.required then none else some none
  return { s with keys := keys }

/-! ## Collections in blocks -/

/-- Closes the collections whose column is greater than the one given. -/
def closeBeyond (column : Int) : List Nat → Array Token → List Nat × Array Token
  | [], ts => ([], ts)
  | c :: r, ts => if column < c then closeBeyond column r (ts.push .blockEnd) else (c :: r, ts)

/-- Closes the collections that a column ends; inside brackets columns do not count. -/
def closeTo (column : Int) (s : Scanner) : Scanner :=
  if s.inFlow then s
  else
    let (columns, tokens) := closeBeyond column s.columns s.tokens
    { s with columns := columns, tokens := tokens }

/-- Opens a collection at a column unless one is open there; its token gets a number. -/
def openAt (column number : Nat) (t : Token) (s : Scanner) : Scanner :=
  if s.column < column then
    { s with columns := column :: s.columns, tokens := s.tokens.insertIdxIfInBounds number t }
  else s

/-- Opens a collection at the cursor, outside brackets only and where a key may start. -/
def openHere (t : Token) (s : Scanner) : Option Scanner :=
  if s.inFlow then some s
  else if s.keyAllowed then some (s.openAt s.cursor.column s.tokens.size t)
  else none

/-! ## Tokens -/

/-- Passes blanks, comments and line breaks.  A new line outside brackets may start with a key. -/
def skipBlank : Nat → Scanner → Scanner
  | 0, s => s
  | fuel + 1, s =>
    let c := s.cursor.skipSpaces
    let c := if c.peek == some '#' then (c.takeWhile fun x ↦ !isBreak x).2 else c
    if (c.peek.map isBreak).getD false then
      skipBlank fuel { s with cursor := c.lineBreak.2, keyAllowed := s.keyAllowed || !s.inFlow }
    else { s with cursor := c }

/-- A token at the edge of a document, which closes everything. -/
def documentEdge (s : Scanner) (t : Token) : Option Scanner := do
  let s ← (s.closeTo (-1)).forgetKey
  return ((s.allowing false).emit t).skip 3

/-- A bracket that opens. -/
def openBracket (s : Scanner) (t : Token) : Option Scanner := do
  let s ← s.noteKey
  return ({ s with keys := none :: s.keys, keyAllowed := true }.emit t).skip 1

/-- A bracket that closes. -/
def closeBracket (s : Scanner) (t : Token) : Option Scanner := do
  let s ← s.forgetKey
  if !s.inFlow then none
  else return ({ s with keys := s.keys.drop 1, keyAllowed := false }.emit t).skip 1

/-- A comma. -/
def comma (s : Scanner) : Option Scanner := do
  let s ← (s.allowing true).forgetKey
  return (s.emit .comma).skip 1

/-- The mark of a member of a sequence. -/
def entry (s : Scanner) : Option Scanner := do
  let s ← s.openHere .blockSequence
  let s ← (s.allowing true).forgetKey
  return (s.emit .entry).skip 1

/-- The mark of a key. -/
def key (s : Scanner) : Option Scanner := do
  let s ← s.openHere .blockMapping
  let s ← (s.allowing !s.inFlow).forgetKey
  return (s.emit .key).skip 1

/-- The mark of a value.  It settles whether a key was before it. -/
def value (s : Scanner) : Option Scanner :=
  match s.keys with
  | some k :: r =>
    let t := { s with keys := none :: r, tokens := s.tokens.insertIdxIfInBounds k.number .key }
    let t := if s.inFlow then t else t.openAt k.column k.number .blockMapping
    some (((t.allowing false).emit .value).skip 1)
  | _ => do
    let s ← s.openHere .blockMapping
    let s ← (s.allowing !s.inFlow).forgetKey
    return (s.emit .value).skip 1

/-- A token that may start a key and is read from the cursor. -/
def word (s : Scanner) (read : Cursor → Option (Token × Cursor)) : Option Scanner := do
  let s ← s.noteKey
  let (t, c) ← read s.cursor
  return { s.allowing false with cursor := c, tokens := s.tokens.push t }

/-- A quoted scalar. -/
def quoted (s : Scanner) (double : Bool) : Option Scanner :=
  s.word fun c ↦ (Cursor.quoted double (c.rest.length + 1) [] c.next).map fun (cs, d) ↦
    (.scalar (String.ofList cs) false, d)

/-- A block of lines. -/
def block (s : Scanner) (folded : Bool) : Option Scanner := do
  let s ← (s.allowing true).forgetKey
  let (cs, c) ← Cursor.block folded s.column s.cursor.next
  return { s.emit (.scalar (String.ofList cs) false) with cursor := c }

/-- A plain scalar.  Where a line broke behind it a key may start. -/
def plain (s : Scanner) : Option Scanner := do
  let s ← s.noteKey
  let indent := (s.column + 1).toNat
  let (cs, broke, c) :=
    Cursor.plain s.inFlow indent (s.cursor.rest.length + 1) [] [] false s.cursor
  return { s.emit (.scalar (String.ofList cs) true) with cursor := c, keyAllowed := broke }

/-- Whether a plain scalar may start here. -/
def opensPlain (s : Scanner) (x : Char) : Bool :=
  !(endsWord (some x) || "-?:,[]\x7b\x7d#&*!|>'\"%@\x60".toList.contains x)
    || (!endsWord (s.cursor.peekAt 1) && (x == '-' || (!s.inFlow && (x == '?' || x == ':'))))

/-- The words of a directive, up to a comment. -/
def directive (s : Scanner) : Option Scanner := do
  let s ← (s.closeTo (-1)).forgetKey
  let (line, c) := s.cursor.next.takeWhile fun x ↦ !isBreak x
  let words := ((Text.splitAt ' ' line).filter fun w ↦ !w.isEmpty).takeWhile fun w ↦
    w.head? != some '#'
  match words.map String.ofList with
  | name :: arguments =>
    return { (s.allowing false).emit (.directive name arguments) with cursor := c }
  | [] => none

/-- Reads one token that starts with a given character, blanks being passed. -/
def tokenAt (s : Scanner) (x : Char) : Option Scanner :=
  let c := s.cursor
  let marked := c.column == 0 && c.atDocumentMark
  let ends := endsWord (c.peekAt 1)
  if x == '%' && c.column == 0 then s.directive
  else if marked && x == '-' then s.documentEdge .documentStart
  else if marked && x == '.' then s.documentEdge .documentEnd
  else if x == '[' then s.openBracket .openSequence
  else if x == '{' then s.openBracket .openMapping
  else if x == ']' then s.closeBracket .closeSequence
  else if x == '}' then s.closeBracket .closeMapping
  else if x == ',' then s.comma
  else if x == '-' && ends then s.entry
  else if x == '?' && (s.inFlow || ends) then s.key
  else if x == ':' && (s.inFlow || ends) then s.value
  else if x == '*' then s.word fun c ↦ (c.next.anchorName).map fun (n, d) ↦ (.alias n, d)
  else if x == '&' then s.word fun c ↦ (c.next.anchorName).map fun (n, d) ↦ (.anchor n, d)
  else if x == '!' then s.word fun c ↦ c.tag.map fun (t, d) ↦ (.tag t, d)
  else if x == '|' && !s.inFlow then s.block false
  else if x == '>' && !s.inFlow then s.block true
  else if x == '\'' then s.quoted false
  else if x == '"' then s.quoted true
  else if s.opensPlain x then s.plain
  else none

/-- Reads one token; at the end of the text everything is closed. -/
def step (s : Scanner) : Option (Scanner × Bool) := do
  let s := s.skipBlank (s.cursor.rest.length + 1)
  let s ← s.forgetStale
  let s := s.closeTo s.cursor.column
  match s.cursor.peek with
  | some x => return (← s.tokenAt x, false)
  | none => return (← (s.closeTo (-1)).forgetKey, true)

/-- Reads at most a number of tokens. -/
def run : Nat → Scanner → Option (Array Token)
  | 0, _ => none
  | fuel + 1, s =>
    match s.step with
    | some (t, false) => run fuel t
    | some (t, true) => some t.tokens
    | none => none

end Scanner

/-- The tokens of a text.  A mark of the encoding at its start is passed over. -/
def tokensOf (text : List Char) : Option (List Token) :=
  if !text.all fun c ↦ isAllowed c then none
  else
    let start : Cursor := { rest := text }
    let start := if start.peek == some '\uFEFF' then start.next else start
    (Scanner.run (text.length + 2) { cursor := start }).map Array.toList

end Yaml
end TexWeave
