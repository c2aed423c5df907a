import TexWeave.Text.Blank

/-!
# Lines and their indentation

A text is cut into lines at line feeds, after the two other customary terminators, carriage return
with and without a line feed, have been replaced.  No other character ends a line.

* `unifyNewlines` — every terminator becomes a line feed.
* `splitAt`, `lines` — the pieces between separators, always one more than there are separators.
* `joinLines` — the pieces put together again.
* `stripIndent` — the indentation of the first line that is not blank, removed wherever it stands.
-/

set_option autoImplicit false

namespace TexWeave
namespace Text

/-- Carriage returns, alone or before a line feed, become line feeds. -/
def unifyNewlines : List Char → List Char
  | [] => []
  | '\r' :: '\n' :: r => '\n' :: unifyNewlines r
  | '\r' :: r => '\n' :: unifyNewlines r
  | c :: r => c :: unifyNewlines r

/-- The pieces of a text between the separators. -/
def splitAt (sep : Char) : List Char → List (List Char)
  | [] => [[]]
  | c :: r =>
    if c = sep then [] :: splitAt sep r
    else match splitAt sep r with
      | [] => [[c]]
      | l :: ls => (c :: l) :: ls

/-- The lines of a text in which line feeds alone separate. -/
def splitLines (s : String) : List String :=
  (splitAt '\n' s.toList).map String.ofList

/-- The lines of a text with any of the three terminators. -/
def lines (s : String) : List String :=
  (splitAt '\n' (unifyNewlines s.toList)).map String.ofList

/-- Texts put together with a separator between two neighbours. -/
def joinWith (sep : String) : List String → String
  | [] => ""
  | [s] => s
  | s :: t :: r => s ++ (sep ++ joinWith sep (t :: r))

/-- Lines put together with line feeds between them. -/
def joinLines (ls : List String) : String := joinWith "\n" ls

/-- The blanks at the start of a line. -/
def indentOf (s : String) : List Char := s.toList.takeWhile isBlank

/-- Whether a line holds blanks alone. -/
def isBlankLine (s : String) : Bool := s.toList.all isBlank

/-- The indentation of the first line that is not blank; none if all are. -/
def commonIndent (ls : List String) : List Char :=
  ((ls.find? fun l ↦ !isBlankLine l).map indentOf).getD []

/-- `s` without `p` at its start, or `s` itself if it does not start so. -/
def dropPrefix (p : List Char) (s : String) : String :=
  if p.isPrefixOf s.toList then String.ofList (s.toList.drop p.length) else s

/-- Removes the indentation of the first line that is not blank from every line that has it. -/
def stripIndent (ls : List String) : List String :=
  ls.map (dropPrefix (commonIndent ls))

end Text
end TexWeave
