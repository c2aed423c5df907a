import TexWeave.Source.Literal
import TexWeave.Source.Number

/-!
# Scanning source text

A text becomes a list of tokens.  Indentation is made visible: a line that stands deeper than the
one before opens a block with an `indent` token, and lines that stand less deep close blocks with
`dedent` tokens.  Inside brackets neither indentation nor line breaks count.

* `scan` — the tokens of a text, up to the first fault if there is one.
* `Scanned.sentence?` — the tokens the grammar reads, if there is no fault.
-/

set_option autoImplicit false

namespace TexWeave
namespace Source

/-- The depth of a line, measured twice: with tabs reaching to the next multiple of eight, and with
tabs as wide as a space.  Lines whose two measures disagree are in disorder. -/
structure Depth where
  wide : Nat
  narrow : Nat
  deriving DecidableEq, Repr

/-- The depth of a line without indentation. -/
def Depth.zero : Depth := ⟨0, 0⟩

/-- The deepest that blocks may be nested. -/
def deepest : Nat := 100

/-- The deepest that brackets may be nested. -/
def deepestBracket : Nat := 200

/-- A scan under way. -/
structure Scanner where
  rest : List Char
  line : Nat := 1
  column : Nat := 0
  /-- Whether the indentation of a line comes next. -/
  atLineStart : Bool := true
  /-- The depths of the blocks under way, the innermost first. -/
  depths : List Depth := []
  /-- The brackets under way, the innermost first. -/
  brackets : List Char := []
  /-- The tokens so far, the latest first. -/
  found : List Token := []

/-- The tokens of a text and whether scanning reached its end. -/
structure Scanned where
  tokens : List Token
  complete : Bool

namespace Scanner

/-- The scan behind characters it has passed, which are given. -/
def advance (s : Scanner) (passed : List Char) (rest : List Char) : Scanner :=
  passed.foldl (fun s c ↦
    if c = '\n' then { s with line := s.line + 1, column := 0 }
    else { s with column := s.column + 1 }) { s with rest := rest }

/-- The scan with one more token, made of the characters given, which it passes. -/
def emit (s : Scanner) (kind : TokenKind) (passed rest : List Char) : Scanner :=
  let t := s.advance passed rest
  { t with found := ⟨kind, String.ofList passed, s.line, s.column, t.line⟩ :: s.found }

/-- The scan with one more token that takes no room. -/
def mark (s : Scanner) (kind : TokenKind) : Scanner :=
  { s with found := ⟨kind, "", s.line, s.column, s.line⟩ :: s.found }

/-! ## Indentation -/

/-- Measures the indentation of a line: the depth, the depth at the first backslash that continues
the line within its indentation, and the scan behind it. -/
def measure : Nat → Depth → Option Depth → Scanner → Option (Depth × Option Depth × Scanner)
  | 0, _, _, _ => none
  | fuel + 1, d, held, s =>
    match s.rest with
    | ' ' :: r => measure fuel ⟨d.wide + 1, d.narrow + 1⟩ held (s.advance [' '] r)
    | '\t' :: r => measure fuel ⟨(d.wide / 8 + 1) * 8, d.narrow + 1⟩ held (s.advance ['\t'] r)
    | '\x0c' :: r => measure fuel .zero held (s.advance ['\x0c'] r)
    | '\\' :: '\n' :: c :: r =>
      let first := match held with
        | some h => if h.wide = 0 then some ⟨d.wide, d.wide⟩ else some h
        | none => some ⟨d.wide, d.wide⟩
      measure fuel d first (s.advance ['\\', '\n'] (c :: r))
    | '\\' :: _ => none
    | _ => some (d, held, s)

/-- Closes blocks until the innermost is no deeper than `d`. -/
def closeBlocks (d : Depth) : List Depth → Scanner → List Depth × Scanner
  | [], s => ([], s)
  | top :: below, s =>
    if d.wide < top.wide then closeBlocks d below (s.mark .dedent) else (top :: below, s)

/-- Opens or closes blocks for a line of the depth given. -/
def arrange (d : Depth) (s : Scanner) : Option Scanner :=
  let top := s.depths.headD .zero
  if d.wide = top.wide then if d.narrow = top.narrow then some s else none
  else if top.wide < d.wide then
    if deepest ≤ s.depths.length + 1 || d.narrow ≤ top.narrow then none
    else some { s.mark .indent with depths := d :: s.depths }
  else
    let (depths, t) := closeBlocks d s.depths s
    let top := depths.headD .zero
    if d.wide = top.wide ∧ d.narrow = top.narrow then some { t with depths := depths } else none

/-- Passes a comment up to the end of its line. -/
def comment (s : Scanner) : Scanner :=
  match s.rest with
  | '#' :: r => s.emit .comment ('#' :: r.takeWhile (· != '\n')) (r.dropWhile (· != '\n'))
  | _ => s

/-- The start of a line: its indentation, or all of it if it holds nothing else. -/
def lineStart (s : Scanner) : Option Scanner := do
  let (depth, held, t) ← measure (s.rest.length + 1) .zero none s
  let alone := t.rest.head? == some '#' || t.rest.head? == some '\n'
  if alone then
    let t := t.comment
    match t.rest with
    | '\n' :: r => some (t.emit .gap ['\n'] r)
    | _ => some { t with atLineStart := false }
  else if !t.brackets.isEmpty then some { t with atLineStart := false }
  else
    let depth := match held with
      | some h => if h.wide = 0 then depth else h
      | none => depth
    (arrange depth t).map fun u ↦ { u with atLineStart := false }

/-! ## Tokens -/

/-- A bracket that opens. -/
def isOpening (o : String) : Bool := o == "(" || o == "[" || o == "\x7b"

/-- A bracket that closes. -/
def isClosing (o : String) : Bool := o == ")" || o == "]" || o == "\x7d"

/-- An operator, with the brackets under way brought up to date. -/
def operator (o : String) (s : Scanner) : Option Scanner :=
  let t := s.emit .operator o.toList (s.rest.drop o.length)
  if isOpening o then
    if deepestBracket ≤ s.brackets.length then none
    else some { t with brackets := o.toList.headD '(' :: s.brackets }
  else if isClosing o then
    match s.brackets with
    | [] => none
    | b :: below =>
      if bracketsMatch b (o.toList.headD ')') then some { t with brackets := below } else none
  else some t

/-- A word: a keyword or a name. -/
def word (cs : List Char) (s : Scanner) : Option Scanner :=
  let kind := if keywords.contains (String.ofList cs) then TokenKind.keyword else .name
  if (cs.all fun c ↦ c.toNat < 128) || Text.isIdentifier cs then
    some (s.emit kind cs (s.rest.drop cs.length))
  else none

/-- A line break outside brackets ends a statement; inside them it is passed over. -/
def lineBreak (s : Scanner) (r : List Char) : Scanner :=
  let kind := if s.brackets.isEmpty then TokenKind.newline else .gap
  { s.emit kind ['\n'] r with atLineStart := true }

end Scanner

/-- Whether two neighbouring strings are of sorts that do not go together. -/
def stringsClash (left right : Token) : Bool :=
  left.closesString && right.opensString
    && ((left.kind == .bytes) != (right.kind == .bytes))

/-- Whether strings that stand side by side are all of one sort. -/
def stringsAgree : List Token → Bool
  | a :: b :: r => !stringsClash a b && stringsAgree (b :: r)
  | _ => true

namespace Scanner

mutual

/-- One token, and for a string with fields the tokens of its expressions. -/
def token (fuel : Nat) (s : Scanner) : Option Scanner :=
  match fuel with
  | 0 => none
  | fuel + 1 =>
    match s.rest with
    | [] => none
    | c :: r =>
      if c = ' ' || c = '\t' || c = '\x0c' then some (s.advance [c] r)
      else if c = '#' then some s.comment
      else if c = '\n' then some (s.lineBreak r)
      else if c = '\\' then
        match r with
        | '\n' :: d :: t => some (s.advance ['\\', '\n'] (d :: t))
        | _ => none
      else if isWordLikeStart c then
        let w := s.rest.takeWhile isWordLike
        match s.rest.drop w.length with
        | q :: t =>
          if q = '\'' || q = '"' then
            match StringSort.ofLetters? w with
            | some sort => string fuel sort (w ++ [q]) q t s
            | none => s.word w
          else s.word w
        | [] => s.word w
      else if c = '\'' || c = '"' then string fuel {} [c] c r s
      else if c.isDigit then number (scanNumber s.rest) s
      else if c = '.' && (r.head?.map Char.isDigit).getD false then
        number (fractionTail (['.'], r)) s
      else match operatorAt? s.rest with
        | some o => s.operator o
        | none => some (s.emit .stray [c] r)

/-- A number whose extent is known. -/
def number (split : Option Split) (s : Scanner) : Option Scanner :=
  split.map fun p ↦ s.emit .number p.1.reverse p.2

/-- A string whose letters and first quote are known. -/
def string (fuel : Nat) (sort : StringSort) (opening : List Char) (q : Char) (r : List Char)
    (s : Scanner) : Option Scanner :=
  match fuel with
  | 0 => none
  | fuel + 1 =>
    (closeString q r).bind fun (body, rest) ↦
      let used := opening ++ r.take (r.length - rest.length)
      if sort.bytes then
        if bytesOk sort.raw body then some (s.emit .bytes used rest) else none
      else if sort.fields then do
        let expressions ← fieldExpressions sort.raw body
        let inner ← fields fuel s.line expressions
        let t := s.advance used rest
        return { t with
          found := ⟨.fieldsClose, "", t.line, t.column, t.line⟩
            :: (inner ++ (s.emit .fieldsOpen used rest).found) }
      else if sort.raw || escapesOk body then some (s.emit .string used rest)
      else none

/-- The tokens of the expressions of fields, each in parentheses, the latest first. -/
def fields (fuel : Nat) (line : Nat) (expressions : List (List Char)) : Option (List Token) :=
  match fuel with
  | 0 => none
  | fuel + 1 =>
    match expressions with
    | [] => some []
    | e :: es => do
      let tokens ← inside fuel
        { rest := '(' :: (e ++ [')']), line := line, atLineStart := false }
      return (← fields fuel line es) ++ tokens

/-- Scans a text without line starts to its end; brackets have to be closed by then. -/
def inside (fuel : Nat) (s : Scanner) : Option (List Token) :=
  match fuel with
  | 0 => none
  | fuel + 1 =>
    if s.rest.isEmpty then if s.brackets.isEmpty then some s.found else none
    else (token fuel s).bind fun t ↦ inside fuel { t with atLineStart := false }

end

/-- The scan behind what comes next: the start of a line, or one token.  The fuel of a token is more
than its characters can use up. -/
def next (s : Scanner) : Option Scanner :=
  if s.atLineStart then s.lineStart else token (2 * s.rest.length + 4) s

/-- Scans to the end of the text or to the first fault. -/
def run : Nat → Scanner → Scanned
  | 0, s => ⟨s.found.reverse, false⟩
  | fuel + 1, s =>
    if s.rest.isEmpty && !s.atLineStart then finish s
    else match s.next with
      | some t => run fuel t
      | none => ⟨s.found.reverse, false⟩
where
  /-- The end of the text, which must not lie inside brackets. -/
  finish (s : Scanner) : Scanned :=
    ⟨(s.mark .finish).found.reverse, s.brackets.isEmpty⟩

end Scanner

/-- The tokens of a text.  A line feed is added if the text does not end with one. -/
def scan (text : List Char) : Scanned :=
  let closed := if text.getLast? == some '\n' || text.isEmpty then text else text ++ ['\n']
  Scanner.run (2 * closed.length + 4) { rest := closed }

/-- The tokens the grammar reads, if scanning found no fault. -/
def Scanned.sentence? (s : Scanned) : Option (List Token) :=
  let tokens := s.tokens.filter fun t ↦ !t.isTrivia
  if s.complete && stringsAgree tokens then some tokens else none

end Source
end TexWeave
