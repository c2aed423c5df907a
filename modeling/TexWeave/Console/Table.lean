import TexWeave.Console.Wrap

/-!
# The table of passes

A table with two columns, the first of numbers and the second of texts.  Its header has a heavy box.
A column is as wide as its widest cell with a space on either side; a table that would be wider than
the console takes the difference from the second column.

* `tableLines` — the lines of a table.
-/

set_option autoImplicit false

namespace TexWeave
namespace Console

open Text (textWidth trimEnd)

/-- The cells of a line on the console. -/
def consoleWidth : Nat := 1000

/-- Characters that end a line when a cell is measured. -/
def endsMeasuredLine (c : Char) : Bool :=
  c == '\n' || c == '\r' || c == '\x0b' || c == '\x0c' || ('\x1c' ≤ c && c ≤ '\x1e')
    || c == '\x85' || c == '\u2028' || c == '\u2029'

/-- The width of the widest line of a cell, with `used` cells of its first line passed already. -/
def measureFrom (used : Nat) : List Char → Nat
  | [] => used
  | c :: r =>
    if endsMeasuredLine c then max used (measureFrom 0 r)
    else measureFrom (used + Text.cellWidth c) r

/-- The width of a column with some cells, spaces on either side included. -/
def columnWidth (cells : List (List Char)) : Nat :=
  (cells.map (measureFrom 0)).foldl max 0 + 2

/-- A line filled with spaces on its right. -/
def padRight (width : Nat) (cs : List Char) : List Char :=
  cs ++ List.replicate (width - textWidth cs) ' '

/-- A line filled with spaces on its left. -/
def padLeft (width : Nat) (cs : List Char) : List Char :=
  List.replicate (width - textWidth cs) ' ' ++ cs

/-- A line in the middle of a width; an odd space goes to the right. -/
def centre (width : Nat) (cs : List Char) : List Char :=
  padRight width (List.replicate ((width - textWidth cs) / 2) ' ' ++ cs)

/-- The lines of a cell in a column, spaces on either side included. -/
def cellLines (toRight : Bool) (width : Nat) (cs : List Char) : List (List Char) :=
  (wrap .ellipsis (width - 2) cs).map fun l ↦
    ' ' :: (if toRight then padLeft (width - 2) (trimEnd l) else padRight (width - 2) l) ++ [' ']

/-- A rule across a table, given its four characters. -/
def rule (left line between right : Char) (first second : Nat) : List Char :=
  left :: List.replicate first line ++ between :: List.replicate second line ++ [right]

/-- The lines of a row, given the character between its cells. -/
def rowLines (bar : Char) (first second : Nat) (number text : List Char) : List (List Char) :=
  let left := cellLines true first number
  let right := cellLines false second text
  (List.range (max left.length right.length)).map fun i ↦
    bar :: left.getD i (List.replicate first ' ') ++ bar
      :: right.getD i (List.replicate second ' ') ++ [bar]

/-- The lines of a table with a title, the header of its columns, and its rows. -/
def tableLines (title : List Char) (header : List Char × List Char)
    (rows : List (List Char × List Char)) : List (List Char) :=
  let first := columnWidth ((header :: rows).map (·.1))
  let second := min (columnWidth ((header :: rows).map (·.2))) (consoleWidth - 3 - first)
  centre (first + second + 3) title
    :: rule '┏' '━' '┳' '┓' first second
    :: rowLines '┃' first second header.1 header.2
    ++ rule '┡' '━' '╇' '┩' first second
    :: rows.flatMap (fun r ↦ rowLines '│' first second r.1 r.2)
    ++ [rule '└' '─' '┴' '┘' first second]

end Console
end TexWeave
