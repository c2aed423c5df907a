/-!
# Blank characters and trimming

Source lines, log messages and settings are trimmed of blank characters in the wide sense: the
white space of Unicode together with the four information separators U+001C to U+001F.

* `isBlank` — the class.
* `trimStart`, `trimEnd`, `trim` — a list of characters without its blank ends.
* `dropEnd p` — the same for another class; `dropNewlines` is the instance for line feeds alone.
-/

set_option autoImplicit false

namespace TexWeave
namespace Text

/-- White space in the wide sense. -/
def isBlank (c : Char) : Bool :=
  let n := c.toNat
  (9 ≤ n && n ≤ 13) || (28 ≤ n && n ≤ 32) || n == 0x85 || n == 0xA0 || n == 0x1680
    || (0x2000 ≤ n && n ≤ 0x200A) || n == 0x2028 || n == 0x2029 || n == 0x202F || n == 0x205F
    || n == 0x3000

/-- A list without its longest end in the class `p`. -/
def dropEnd (p : Char → Bool) (cs : List Char) : List Char :=
  (cs.reverse.dropWhile p).reverse

/-- A text without the blanks at its start. -/
def trimStart (cs : List Char) : List Char := cs.dropWhile isBlank

/-- A text without the blanks at its end. -/
def trimEnd (cs : List Char) : List Char := dropEnd isBlank cs

/-- A text without the blanks at either end. -/
def trim (cs : List Char) : List Char := trimEnd (trimStart cs)

/-- A text without the line feeds at its end. -/
def dropNewlines (s : String) : String :=
  String.ofList (dropEnd (· == '\n') s.toList)

end Text
end TexWeave
