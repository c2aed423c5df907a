import TexWeave.Text.Blank
import TexWeave.Text.Lines
import TexWeave.Text.Width

/-!
# Lines on a console

A line that is wider than the console is broken between words.  A word that is too wide for any line
is broken anywhere, or cut off with an ellipsis.  Widths are counted in cells.

* `expandTabs` — spaces in place of tabs.
* `wrap` — the lines of a text in a given width.
-/

set_option autoImplicit false

namespace TexWeave
namespace Console

open Text (isBlank trimEnd textWidth cellWidth)

/-- Every so many cells a tab ends. -/
def tabWidth : Nat := 8

/-- The rest of a line from a column on, with spaces in place of tabs. -/
def expandFrom (column : Nat) : List Char → List Char
  | [] => []
  | '\t' :: r =>
    let n := tabWidth - column % tabWidth
    List.replicate n ' ' ++ expandFrom (column + n) r
  | c :: r => c :: expandFrom (column + cellWidth c) r

/-- A line with spaces in place of tabs. -/
def expandTabs (line : List Char) : List Char := expandFrom 0 line

/-- What becomes of a word that is too wide for any line. -/
inductive Overflow
  | fold
  | ellipsis
  deriving DecidableEq, Repr

/-! ## Where lines are broken -/

/-- A word at the front of a line with the blanks around it, and the rest; nothing if there is no
word. -/
def wordAt? (cs : List Char) : Option (List Char × List Char) :=
  let before := cs.takeWhile isBlank
  let r := cs.drop before.length
  let word := r.takeWhile fun c ↦ !isBlank c
  let s := r.drop word.length
  let after := s.takeWhile isBlank
  if word.isEmpty then none else some (before ++ word ++ after, s.drop after.length)

/-- The words of a line with the blanks around them. -/
def wordsWithBlanks : Nat → List Char → List (List Char)
  | 0, _ => []
  | fuel + 1, cs =>
    match wordAt? cs with
    | some (w, r) => w :: wordsWithBlanks fuel r
    | none => []

/-- Pieces of a word none of which is wider than a line; `held` is the piece so far in reverse, and
`used` its width. -/
def chop (width : Nat) (held : List Char) (used : Nat) : List Char → List (List Char)
  | [] => [held.reverse]
  | c :: r =>
    if width < used + cellWidth c then held.reverse :: chop width [c] (cellWidth c) r
    else chop width (c :: held) (used + cellWidth c) r

/-- The places at which pieces of a word start new lines, and the width of the last piece.  The
first piece starts one unless the word is the first. -/
def chopBreaks (start : Nat) : List (List Char) → List Nat × Nat
  | [] => ([], 0)
  | [p] => (if start = 0 then [] else [start], textWidth p)
  | p :: q :: r =>
    let (breaks, last) := chopBreaks (start + p.length) (q :: r)
    (if start = 0 then breaks else start :: breaks, last)

/-- The places at which a line is broken, words being given; `start` is the place of the first of
them and `used` the width of the line so far. -/
def breaksFrom (overflow : Overflow) (width start used : Nat) : List (List Char) → List Nat
  | [] => []
  | w :: r =>
    let size := textWidth (trimEnd w)
    let next := start + w.length
    let whole := textWidth w
    if used + size ≤ width then breaksFrom overflow width next (used + whole) r
    else if width < size then
      match overflow with
      | .fold =>
        let (breaks, last) := chopBreaks start (chop width [] 0 w)
        breaks ++ breaksFrom overflow width next last r
      | .ellipsis =>
        (if start = 0 then [] else [start]) ++ breaksFrom overflow width next whole r
    else if used = 0 || start = 0 then breaksFrom overflow width next used r
    else start :: breaksFrom overflow width next whole r

/-- The stretches of a text between places in it, the first being counted from `n`. -/
def cutAt (n : Nat) : List Nat → List Char → List (List Char)
  | [], cs => [cs]
  | b :: r, cs => cs.take (b - n) :: cutAt b r (cs.drop (b - n))

/-! ## Lines that fit -/

/-- A line without as many of the blanks at its end as it has characters too many. -/
def dropExcessBlanks (width : Nat) (cs : List Char) : List Char :=
  let blanks := cs.length - (trimEnd cs).length
  cs.take (cs.length - min blanks (cs.length - width))

/-- The characters that fit in a width; a character that would fit only by half gives way to a
space. -/
def fitting : Nat → List Char → List Char
  | _, [] => []
  | width, c :: r =>
    if cellWidth c ≤ width then c :: fitting (width - cellWidth c) r
    else List.replicate width ' '

/-- A line cut to a width. -/
def truncate (overflow : Overflow) (width : Nat) (cs : List Char) : List Char :=
  if textWidth cs ≤ width then cs
  else match overflow with
    | .fold => fitting width cs
    | .ellipsis => fitting (width - 1) cs ++ ['…']

/-- The lines of one line in a width. -/
def wrapLine (overflow : Overflow) (width : Nat) (line : List Char) : List (List Char) :=
  let cs := expandTabs line
  let breaks := breaksFrom overflow width 0 0 (wordsWithBlanks cs.length cs)
  (cutAt 0 breaks cs).map fun l ↦ truncate overflow width (dropExcessBlanks width l)

/-- The lines of a text in a width. -/
def wrap (overflow : Overflow) (width : Nat) (cs : List Char) : List (List Char) :=
  (Text.splitAt '\n' cs).flatMap (wrapLine overflow width)

end Console
end TexWeave
