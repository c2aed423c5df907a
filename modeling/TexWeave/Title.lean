import TexWeave.Text.Case
import TexWeave.Text.Lines
import TexWeave.Text.Word

/-!
# Titles made from names

The title of a section is read off the name of a definition.  A name is cut into words at low lines
and at camel-case boundaries; each word starts with a capital.

* `isBoundary` — where camel case cuts: before a capital that follows a small letter or a digit, and
  before a capital and a small letter that follow a capital.
* `splitWords` — the words of a name.
* `deriveTitle` — the title.
-/

set_option autoImplicit false

namespace TexWeave

open Text

/-- Whether a word ends after `a` when `b` and then `rest` follow. -/
def isBoundary (a b : Char) (rest : List Char) : Bool :=
  isAsciiUpper b
    && (isAsciiLower a || isAsciiDigit a
      || (isAsciiUpper a && match rest with
        | [] => false
        | c :: _ => isAsciiLower c))

/-- The pieces of a text between camel-case boundaries; none of an empty text. -/
def splitCamel : List Char → List (List Char)
  | [] => []
  | [c] => [[c]]
  | a :: b :: r =>
    match splitCamel (b :: r) with
    | [] => [[a]]
    | w :: ws => if isBoundary a b r then [a] :: w :: ws else (a :: w) :: ws

/-- The words of a name. -/
def splitWords (name : String) : List String :=
  ((splitAt '_' name.toList).flatMap splitCamel).map String.ofList

/-- A word with a capital in front. -/
def capitalized (w : List Char) : List Char :=
  match w with
  | [] => []
  | c :: r => upperChar c ++ r

/-- Whether a name of several words is written in capitals throughout. -/
def isShouted (name : String) (words : List String) : Bool :=
  1 < words.length && name.toList.contains '_' && isAllUpper name.toList

/-- The title read off a name.  Capitals inside words stay, unless the whole name is in capitals;
a name without words is its own title. -/
def deriveTitle (name : String) : String :=
  let words := splitWords name
  if words.isEmpty then name
  else
    let plain := if isShouted name words then words.map fun w ↦ String.ofList (lower w.toList)
      else words
    joinWith " " (plain.map fun w ↦ String.ofList (capitalized w.toList))

end TexWeave
