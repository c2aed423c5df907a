import TexWeave.Yaml.Token

/-!
# Scalars of a settings file

Reading single scalars: plain, quoted, and blocks of lines.  A cursor is a place in the text; every
function here takes one and gives the text of a scalar with the cursor behind it.
-/

set_option autoImplicit false

namespace TexWeave
namespace Yaml

/-- A place in a text. -/
structure Cursor where
  rest : List Char
  index : Nat := 0
  line : Nat := 0
  column : Nat := 0

namespace Cursor

/-- The next character. -/
def peek (c : Cursor) : Option Char := c.rest.head?

/-- The character a number of places further. -/
def peekAt (c : Cursor) (n : Nat) : Option Char := (c.rest.drop n).head?

/-- The cursor one character further. -/
def next (c : Cursor) : Cursor :=
  match c.rest with
  | [] => c
  | x :: r =>
    let broken := x == '\n' || x == '\x85' || x == '\u2028' || x == '\u2029'
      || (x == '\r' && r.head? != some '\n')
    if broken then ⟨r, c.index + 1, c.line + 1, 0⟩
    else ⟨r, c.index + 1, c.line, if x == '\uFEFF' then c.column else c.column + 1⟩

/-- The cursor several characters further. -/
def skip (c : Cursor) : Nat → Cursor
  | 0 => c
  | n + 1 => c.next.skip n

/-- The characters that satisfy a test, and the cursor behind them. -/
def takeWhile (c : Cursor) (p : Char → Bool) : List Char × Cursor :=
  let cs := c.rest.takeWhile p
  (cs, c.skip cs.length)

/-- The cursor behind spaces. -/
def skipSpaces (c : Cursor) : Cursor := (c.takeWhile (· == ' ')).2

/-- A line break as it counts in a text, and the cursor behind it. -/
def lineBreak (c : Cursor) : List Char × Cursor :=
  match c.rest with
  | '\r' :: '\n' :: _ => (['\n'], c.skip 2)
  | x :: _ =>
    if x == '\n' || x == '\r' || x == '\x85' then (['\n'], c.next)
    else if x == '\u2028' || x == '\u2029' then ([x], c.next)
    else ([], c)
  | [] => ([], c)

/-- Whether the mark of a document's start or end stands here. -/
def atDocumentMark (c : Cursor) : Bool :=
  (c.rest.take 3 == ['-', '-', '-'] || c.rest.take 3 == ['.', '.', '.']) && endsWord (c.peekAt 3)

/-! ## Plain scalars -/

/-- Line breaks and spaces inside a plain scalar after its first line break; nothing if a document's
mark is met. -/
def plainBreaks : Nat → List Char → Cursor → Option (List Char) × Cursor
  | 0, acc, c => (some acc, c)
  | fuel + 1, acc, c =>
    match c.peek with
    | some ' ' => plainBreaks fuel acc c.next
    | some x =>
      if isBreak x then
        let (b, d) := c.lineBreak
        if d.atDocumentMark then (none, d) else plainBreaks fuel (acc ++ b) d
      else (some acc, c)
    | none => (some acc, c)

/-- A single line break counts as a space when text follows directly, and is dropped before
others. -/
def foldBreaks (first breaks : List Char) : List Char :=
  if first != ['\n'] then first ++ breaks else if breaks.isEmpty then [' '] else breaks

/-- What stands between two stretches of a plain scalar, whether a line broke, and the cursor behind
it; nothing if the scalar ends here. -/
def plainGap (c : Cursor) : Option (List Char) × Bool × Cursor :=
  let (spaces, d) := c.takeWhile (· == ' ')
  match d.peek with
  | none => (if spaces.isEmpty then none else some spaces, false, d)
  | some x =>
    if isBreak x then
      let (first, e) := d.lineBreak
      if e.atDocumentMark then (none, true, e)
      else match plainBreaks e.rest.length [] e with
        | (some breaks, g) => (some (foldBreaks first breaks), true, g)
        | (none, g) => (none, true, g)
    else (if spaces.isEmpty then none else some spaces, false, d)

/-- The characters of a plain scalar up to where it may end. -/
def plainRun (flow : Bool) : List Char → List Char
  | [] => []
  | c :: r =>
    let next := r.head?
    let closes := match next with
      | some n => flow && (n == ',' || n == '[' || n == ']' || n == '\x7b' || n == '\x7d')
      | none => false
    if endsWord (some c) || (c == ':' && (endsWord next || closes))
        || (flow && (c == ',' || c == '?' || c == '[' || c == ']' || c == '\x7b' || c == '\x7d'))
    then []
    else c :: plainRun flow r

/-- A plain scalar that stands at least `indent` deep: its text, whether a line broke behind its
last stretch, and the cursor behind it. -/
def plain (flow : Bool) (indent : Nat) : Nat → List Char → List Char → Bool → Cursor →
    List Char × Bool × Cursor
  | 0, acc, _, broke, c => (acc, broke, c)
  | fuel + 1, acc, gap, broke, c =>
    if c.peek == some '#' then (acc, broke, c)
    else
      let run := plainRun flow c.rest
      if run.isEmpty then (acc, broke, c)
      else
        let acc := acc ++ gap ++ run
        match (c.skip run.length).plainGap with
        | (none, broke, d) => (acc, broke, d)
        | (some gap, broke, d) =>
          if d.peek == some '#' || (!flow && d.column < indent) then (acc, broke, d)
          else plain flow indent fuel acc gap broke d

/-! ## Quoted scalars -/

/-- Characters that a letter after a backslash stands for. -/
def escapes : List (Char × Char) :=
  [('0', '\x00'), ('a', '\x07'), ('b', '\x08'), ('t', '\t'), ('\t', '\t'), ('n', '\n'),
    ('v', '\x0b'), ('f', '\x0c'), ('r', '\r'), ('e', '\x1b'), (' ', ' '), ('"', '"'),
    ('\\', '\\'), ('/', '/'), ('N', '\x85'), ('_', '\xA0'), ('L', '\u2028'), ('P', '\u2029')]

/-- How many hexadecimal digits follow a letter after a backslash. -/
def escapeLength? (c : Char) : Option Nat :=
  if c = 'x' then some 2 else if c = 'u' then some 4 else if c = 'U' then some 8 else none

/-- The number a run of hexadecimal digits stands for. -/
def hexadecimal? (cs : List Char) : Option Nat :=
  if cs.all fun c ↦ c.isDigit || ('a' ≤ c && c ≤ 'f') || ('A' ≤ c && c ≤ 'F') then
    some (cs.foldl (fun n c ↦ n * 16 + (if c.isDigit then c.toNat - '0'.toNat
      else c.toLower.toNat - 'a'.toNat + 10)) 0)
  else none

/-- Line breaks inside a quoted scalar, where no document's mark may stand. -/
def quotedBreaks : Nat → List Char → Cursor → Option (List Char × Cursor)
  | 0, acc, c => some (acc, c)
  | fuel + 1, acc, c =>
    if c.atDocumentMark then none
    else
      let d := (c.takeWhile fun x ↦ x == ' ' || x == '\t').2
      match d.peek with
      | some x =>
        if isBreak x then
          let (b, e) := d.lineBreak
          quotedBreaks fuel (acc ++ b) e
        else some (acc, d)
      | none => some (acc, d)

/-- A scalar after its opening quote: its text and the cursor behind the closing one. -/
def quoted (double : Bool) : Nat → List Char → Cursor → Option (List Char × Cursor)
  | 0, _, _ => none
  | fuel + 1, acc, c =>
    match c.peek with
    | none => none
    | some x =>
      if !double && x == '\'' then
        if c.peekAt 1 == some '\'' then quoted double fuel (acc ++ ['\'']) (c.skip 2)
        else some (acc, c.next)
      else if double && x == '"' then some (acc, c.next)
      else if double && x == '\\' then
        let d := c.next
        match d.peek with
        | none => none
        | some e =>
          match escapes.find? fun p ↦ p.1 == e, escapeLength? e with
          | some p, _ => quoted double fuel (acc ++ [p.2]) d.next
          | none, some n =>
            let digits := d.next.rest.take n
            if digits.length == n then
              (hexadecimal? digits).bind fun k ↦
                if 0x10FFFF < k then none
                else quoted double fuel (acc ++ [Char.ofNat k]) (d.next.skip n)
            else none
          | none, none =>
            if isBreak e then
              let (_, g) := d.lineBreak
              (quotedBreaks (g.rest.length + 1) [] g).bind fun (breaks, h) ↦
                quoted double fuel (acc ++ breaks) h
            else none
      else if x == ' ' || x == '\t' || isBreak x then
        let (spaces, d) := c.takeWhile fun y ↦ y == ' ' || y == '\t'
        match d.peek with
        | none => none
        | some y =>
          if isBreak y then
            let (first, e) := d.lineBreak
            (quotedBreaks (e.rest.length + 1) [] e).bind fun (breaks, g) ↦
              quoted double fuel (acc ++ foldBreaks first breaks) g
          else quoted double fuel (acc ++ spaces) d
      else quoted double fuel (acc ++ [x]) c.next

/-! ## Blocks of lines -/

/-- What the header of a block says: whether the line breaks at its end are kept or dropped, and how
deep it stands. -/
structure BlockHeader where
  keep : Option Bool := none
  depth : Option Nat := none

/-- A digit that is not zero. -/
def depthDigit? (c : Option Char) : Option Nat :=
  match c with
  | some d => if '1' ≤ d && d ≤ '9' then some (d.toNat - '0'.toNat) else none
  | none => none

/-- Whether a character is a digit. -/
def isDigit? (c : Option Char) : Bool := (c.map Char.isDigit).getD false

/-- The header of a block, and the cursor behind it. -/
def blockHeader (c : Cursor) : Option (BlockHeader × Cursor) :=
  let sign? (c : Cursor) : Option Bool :=
    if c.peek == some '+' then some true else if c.peek == some '-' then some false else none
  match sign? c with
  | some keep =>
    let d := c.next
    if isDigit? d.peek then (depthDigit? d.peek).map fun n ↦ (⟨some keep, some n⟩, d.next)
    else some (⟨some keep, none⟩, d)
  | none =>
    if isDigit? c.peek then
      (depthDigit? c.peek).map fun n ↦
        let d := c.next
        match sign? d with
        | some keep => (⟨some keep, some n⟩, d.next)
        | none => (⟨none, some n⟩, d)
    else some ({}, c)

/-- The rest of a header's line, which holds at most a comment. -/
def endHeader (c : Cursor) : Option Cursor :=
  let d := c.skipSpaces
  let d := if d.peek == some '#' then (d.takeWhile fun x ↦ !isBreak x).2 else d
  if endsLine d.peek then some d.lineBreak.2 else none

/-- Empty lines at the start of a block, and the depth of the deepest. -/
def blockIndentation : Nat → List Char → Nat → Cursor → List Char × Nat × Cursor
  | 0, acc, deepest, c => (acc, deepest, c)
  | fuel + 1, acc, deepest, c =>
    match c.peek with
    | some x =>
      if x == ' ' then blockIndentation fuel acc (max deepest c.next.column) c.next
      else if isBreak x then
        let (b, d) := c.lineBreak
        blockIndentation fuel (acc ++ b) deepest d
      else (acc, deepest, c)
    | none => (acc, deepest, c)

/-- The cursor behind at most as many spaces as lead to a column. -/
def skipTo (column : Nat) : Nat → Cursor → Cursor
  | 0, c => c
  | fuel + 1, c =>
    if c.column < column && c.peek == some ' ' then skipTo column fuel c.next else c

/-- Empty lines inside a block of a given depth. -/
def blockBreaks (depth : Nat) : Nat → List Char → Cursor → List Char × Cursor
  | 0, acc, c => (acc, c)
  | fuel + 1, acc, c =>
    let d := skipTo depth depth c
    match d.peek with
    | some x =>
      if isBreak x then
        let (b, e) := d.lineBreak
        blockBreaks depth fuel (acc ++ b) e
      else (acc, d)
    | none => (acc, d)

/-- Whether a line starts with a blank. -/
def opensBlank (c : Cursor) : Bool := c.peek == some ' ' || c.peek == some '\t'

/-- The lines of a block: their text, the last line break, the empty lines at the end, and the
cursor behind them. -/
def blockLines (folded : Bool) (depth : Nat) : Nat → List Char → List Char → Cursor →
    List Char × List Char × List Char × Cursor
  | 0, acc, breaks, c => (acc, [], breaks, c)
  | fuel + 1, acc, breaks, c =>
    let flush := !c.opensBlank
    let (line, d) := c.takeWhile fun x ↦ !isBreak x
    let acc := acc ++ breaks ++ line
    let (lineEnd, e) := d.lineBreak
    let (breaks, g) := blockBreaks depth (e.rest.length + 1) [] e
    if g.column = depth && g.peek.isSome then
      if folded && lineEnd == ['\n'] && flush && !g.opensBlank then
        blockLines folded depth fuel (if breaks.isEmpty then acc ++ [' '] else acc) breaks g
      else blockLines folded depth fuel (acc ++ lineEnd) breaks g
    else (acc, lineEnd, breaks, g)

/-- A block after its opening mark, inside a collection that stands `indent` deep. -/
def block (folded : Bool) (indent : Int) (c : Cursor) : Option (List Char × Cursor) := do
  let (header, c) ← c.blockHeader
  if !(endsWord c.peek && c.peek != some '\t') then none
  let c ← c.endHeader
  let least := (max (indent + 1) 1).toNat
  let fuel := c.rest.length + 1
  let (breaks, depth, c) := match header.depth with
    | none =>
      let (breaks, deepest, d) := blockIndentation fuel [] 0 c
      (breaks, max least deepest, d)
    | some n =>
      let depth := least + n - 1
      let (breaks, d) := blockBreaks depth fuel [] c
      (breaks, depth, d)
  let (text, lineEnd, breaks, c) :=
    if c.column = depth && c.peek.isSome then blockLines folded depth fuel [] breaks c
    else ([], [], breaks, c)
  let text := if header.keep == some false then text else text ++ lineEnd
  return (if header.keep == some true then text ++ breaks else text, c)

/-! ## Marks of other kinds -/

/-- Characters of the name of an anchor. -/
def isNameChar (c : Char) : Bool := c.isAlphanum || c == '-' || c == '_'

/-- The name of an anchor or of a reference to one, after its mark. -/
def anchorName (c : Cursor) : Option (String × Cursor) :=
  let (name, d) := c.takeWhile isNameChar
  let ends := endsWord d.peek
    || ((d.peek.map fun x ↦ ['?', ':', ',', ']', '\x7d', '%', '@', '\x60'].contains x).getD false)
  if name.isEmpty || !ends then none else some (String.ofList name, d)

/-- Characters that may stand in a tag. -/
def isTagChar (c : Char) : Bool :=
  c.isAlphanum || "-;/?:@&=+$,_.!~*'()[]%".toList.contains c

/-- A tag. -/
def tag (c : Cursor) : Option (TagText × Cursor) := do
  if c.peekAt 1 == some '<' then
    let (suffix, d) := (c.skip 2).takeWhile isTagChar
    if suffix.isEmpty || d.peek != some '>' then none
    else finish ⟨none, String.ofList suffix⟩ d.next
  else if endsWord (c.peekAt 1) then finish ⟨none, "!"⟩ c.next
  else
    let word := c.next.rest.takeWhile fun x ↦ !(x == ' ' || isBreak x)
    if word.contains '!' then
      let (handle, d) := c.next.takeWhile isNameChar
      if d.peek != some '!' then none
      else
        let (suffix, e) := d.next.takeWhile isTagChar
        if suffix.isEmpty then none
        else finish ⟨some (String.ofList ('!' :: handle ++ ['!'])), String.ofList suffix⟩ e
    else
      let (suffix, d) := c.next.takeWhile isTagChar
      if suffix.isEmpty then none else finish ⟨some "!", String.ofList suffix⟩ d
where
  /-- A tag has to be followed by a blank. -/
  finish (t : TagText) (c : Cursor) : Option (TagText × Cursor) :=
    if endsWord c.peek && c.peek != some '\t' then some (t, c) else none

end Cursor

end Yaml
end TexWeave
