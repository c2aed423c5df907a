import TexWeave.Console.Emoji
import TexWeave.Failure
import TexWeave.Text.Word

/-!
# Tags in console text

Console text may hold tags in brackets, which style what follows until they are closed.  Styles do
not show here, so tags are only removed; but a tag that closes nothing is a fault.  Backslashes in
front of a bracket keep it from opening a tag.

* `piecesOf` — the stretches of text and the tags between them.
* `styleName` — the one name that all spellings of a style share.
* `plainText` — a text without its tags.
-/

set_option autoImplicit false

namespace TexWeave
namespace Console

/-- A stretch of text, or the inside of a tag with its place. -/
inductive Piece
  | text (cs : List Char)
  | tag (position : Nat) (cs : List Char)
  deriving DecidableEq, Repr

/-- Whether a character after an opening bracket makes it a tag. -/
def opensTag (c : Char) : Bool := Text.isAsciiLower c || c == '#' || c == '/' || c == '@'

/-- The inside of the tag whose opening bracket stands in front, and what follows it.  There is no
bracket inside a tag. -/
def tagAt? : List Char → Option (List Char × List Char)
  | [] => none
  | c :: r =>
    if opensTag c then
      let inside := r.takeWhile fun x ↦ x != ']' && x != '['
      match r.drop inside.length with
      | ']' :: rest => some (c :: inside, rest)
      | _ => none
    else none

/-- A stretch of text, unless it is empty. -/
def textPiece (cs : List Char) : List Piece := if cs.isEmpty then [] else [.text cs]

/-- The pieces of a text from a place on; `held` is the text before it since the last tag, in
reverse, and `slashes` counts the backslashes directly before it. -/
def piecesFrom : Nat → Nat → List Char → Nat → List Char → List Piece
  | 0, _, _, _, _ => []
  | _ + 1, _, held, slashes, [] => textPiece (List.replicate slashes '\\' ++ held).reverse
  | fuel + 1, n, held, slashes, '\\' :: r => piecesFrom fuel (n + 1) held (slashes + 1) r
  | fuel + 1, n, held, slashes, '[' :: r =>
    match tagAt? r with
    | none => piecesFrom fuel (n + 1) ('[' :: (List.replicate slashes '\\' ++ held)) 0 r
    | some (inside, rest) =>
      let next := n + inside.length + 2
      textPiece held.reverse ++ textPiece (List.replicate (slashes / 2) '\\')
        ++ (if slashes % 2 = 0 then Piece.tag n inside else .text ('[' :: inside ++ [']']))
        :: piecesFrom fuel next [] 0 rest
  | fuel + 1, n, held, slashes, c :: r =>
    piecesFrom fuel (n + 1) (c :: (List.replicate slashes '\\' ++ held)) 0 r

/-- The stretches of text and the tags between them. -/
def piecesOf (cs : List Char) : List Piece := piecesFrom (cs.length + 1) 0 [] 0 cs

/-! ## Styles -/

/-- The attributes of a style in the order in which they are named, with their other names. -/
def attributeNames : List (String × List String) :=
  [("bold", ["b"]), ("dim", ["d"]), ("italic", ["i"]), ("underline", ["u"]), ("blink", []),
    ("blink2", []), ("reverse", ["r"]), ("conceal", ["c"]), ("strike", ["s"]),
    ("underline2", ["uu"]), ("frame", []), ("encircle", []), ("overline", ["o"])]

/-- The full name of an attribute. -/
def fullName? (word : String) : Option String :=
  (attributeNames.find? fun a ↦ a.1 == word || a.2.contains word).map (·.1)

/-- The names of the basic colours. -/
def colourNames : List String :=
  let basic := ["black", "red", "green", "yellow", "blue", "magenta", "cyan", "white"]
  "default" :: basic ++ basic.map ("bright_" ++ ·)

/-- Whether a word names a colour, or gives one by six hexadecimal digits. -/
def isColour (word : String) : Bool :=
  colourNames.contains word || (match word.toList with
    | '#' :: ds => ds.length == 6 && ds.all fun c ↦ c.isDigit || ('a' ≤ c && c ≤ 'f')
    | _ => false)

/-- A style: its attributes, set or not, its colour and its ground. -/
structure Style where
  attributes : List (String × Bool) := []
  colour : Option String := none
  ground : Option String := none

/-- The style that words describe, if they do. -/
def styleOf? (s : Style) : List String → Option Style
  | [] => some s
  | "on" :: w :: r => if isColour w then styleOf? { s with ground := some w } r else none
  | "not" :: w :: r => do
    let a ← fullName? w
    styleOf? { s with attributes := (a, false) :: s.attributes.filter (·.1 != a) } r
  | w :: r =>
    match fullName? w with
    | some a => styleOf? { s with attributes := (a, true) :: s.attributes.filter (·.1 != a) } r
    | none => if isColour w then styleOf? { s with colour := some w } r else none

/-- The words of a style in their order. -/
def Style.words (s : Style) : List String :=
  attributeNames.filterMap (fun a ↦ (s.attributes.find? fun b ↦ b.1 == a.1).map fun b ↦
    if b.2 then b.1 else "not " ++ b.1)
  ++ s.colour.toList ++ (s.ground.toList.map ("on " ++ ·))

/-- The words between blanks. -/
def wordsOf (cs : List Char) : List (List Char) := go [] cs
where
  /-- The words from here on, the letters of the first being given in reverse. -/
  go (held : List Char) : List Char → List (List Char)
    | [] => if held.isEmpty then [] else [held.reverse]
    | c :: r =>
      if Text.isBlank c then (if held.isEmpty then go [] r else held.reverse :: go [] r)
      else go (c :: held) r

/-- The one name that all spellings of a style share; what is no style keeps its own name. -/
def styleName (cs : List Char) : String :=
  let name := String.ofList (Text.asciiLower (Text.trim cs))
  let ws := (wordsOf cs).map fun w ↦ String.ofList (Text.asciiLower w)
  if ws.isEmpty || ws == ["none"] then "none"
  else match styleOf? {} ws with
    | some s => String.intercalate " " s.words
    | none => name

/-! ## Text without tags -/

/-- A stretch of text as it shows: a backslash before a bracket is dropped. -/
def unescaped : List Char → List Char
  | '\\' :: '[' :: r => '[' :: unescaped r
  | c :: r => c :: unescaped r
  | [] => []

/-- Closes the innermost open style of a name; nothing if there is none. -/
def close? (name : String) : List String → Option (List String)
  | [] => none
  | s :: r => if s == name then some r else (close? name r).map (s :: ·)

/-- What shows of pieces while styles are open. -/
def shown (emoji : EmojiTable) (styles : List String) : List Piece → Except Failure (List Char)
  | [] => .ok []
  | .text cs :: r => do return replaceEmoji emoji (unescaped cs) ++ (← shown emoji styles r)
  | .tag position cs :: r =>
    let name := cs.takeWhile (· != '=')
    match name with
    | '/' :: style =>
      if (Text.trim style).isEmpty then
        match styles with
        | [] => .error (.unmatchedTag "[/]" position)
        | _ :: outer => shown emoji outer r
      else match close? (styleName (Text.trim style)) styles with
        | some others => shown emoji others r
        | none => .error (.unmatchedTag (String.ofList ('[' :: cs ++ [']'])) position)
    | _ => shown emoji (styleName name :: styles) r

/-- Whether a character does not reach the console: the bell and those that move the cursor. -/
def isControl (c : Char) : Bool := [7, 8, 11, 12, 13].contains c.toNat

/-- A text without its tags. -/
def plainText (emoji : EmojiTable) (s : String) : Except Failure (List Char) := do
  return (← shown emoji [] (piecesOf s.toList)).filter fun c ↦ !isControl c

/-- A text with emoji for their names, whose brackets are no tags. -/
def verbatim (emoji : EmojiTable) (s : String) : List Char :=
  (replaceEmoji emoji s.toList).filter fun c ↦ !isControl c

/-- A text in which nothing is a tag, for use inside a text that has tags.  Every backslash before
what would be a tag is doubled, and one more goes in front. -/
def escape (s : String) : String :=
  let cs := go (s.length + 1) 0 s.toList
  String.ofList (if cs.getLast? == some '\\' && cs.dropLast.getLast? != some '\\'
    then cs ++ ['\\'] else cs)
where
  /-- The text from here on, after a number of backslashes. -/
  go : Nat → Nat → List Char → List Char
    | 0, _, _ => []
    | _ + 1, n, [] => List.replicate n '\\'
    | fuel + 1, n, '\\' :: r => go fuel (n + 1) r
    | fuel + 1, n, '[' :: r =>
      match tagAt? r with
      | some (inside, rest) =>
        List.replicate (2 * n + 1) '\\' ++ '[' :: inside ++ ']' :: go fuel 0 rest
      | none => List.replicate n '\\' ++ '[' :: go fuel 0 r
    | fuel + 1, n, c :: r => List.replicate n '\\' ++ c :: go fuel 0 r

end Console
end TexWeave
