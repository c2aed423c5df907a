import TexWeave.Source.Token

/-!
# Numbers in source text

A number is decimal, with an optional fraction, exponent and imaginary mark, or hexadecimal, octal
or binary.  Single low lines may stand between digits.  What follows a number must not look like the
rest of a word, unless it is one of the words that can follow an expression.

`scanNumber` splits a text after the number it starts with; it fails when there is a number that
breaks these rules.
-/

set_option autoImplicit false

namespace TexWeave
namespace Source

/-- What is read so far, in reverse, and what is left. -/
abbrev Split := List Char × List Char

/-- Digits of the class `p` with single low lines between them.  There may be none; a low line has
to be followed by a digit. -/
def digitRun (p : Char → Bool) : List Char → List Char → Option Split
  | acc, [] => some (acc, [])
  | acc, '_' :: d :: r => if p d then digitRun p (d :: '_' :: acc) r else none
  | _, ['_'] => none
  | acc, c :: r => if p c then digitRun p (c :: acc) r else some (acc, c :: r)

/-- Digits with a given class after a base mark; a low line may come first. -/
def basedRun (p : Char → Bool) (acc r : List Char) : Option Split :=
  match r with
  | '_' :: d :: s => if p d then digitRun p (d :: '_' :: acc) s else none
  | d :: s => if p d then digitRun p (d :: acc) s else none
  | [] => none

/-- A decimal digit. -/
def isDecimal (c : Char) : Bool := c.isDigit

/-- A hexadecimal digit. -/
def isHexadecimal (c : Char) : Bool :=
  c.isDigit || ('a' ≤ c && c ≤ 'f') || ('A' ≤ c && c ≤ 'F')

/-- An octal digit. -/
def isOctal (c : Char) : Bool := '0' ≤ c && c ≤ '7'

/-- A binary digit. -/
def isBinary (c : Char) : Bool := c == '0' || c == '1'

/-- The words, cut to what is looked at, that may follow a number without a space. -/
def followers : List String := ["and", "else", "for", "if", "in", "is", "or", "not"]

/-- Whether a number may end before a text. -/
def endsNumber (r : List Char) : Bool :=
  match r with
  | [] => true
  | c :: _ => !isWordLike c || followers.any fun w ↦ w.toList.isPrefixOf r

/-- The text behind a number, if the number may end there. -/
def endNumber (s : Split) : Option Split := if endsNumber s.2 then some s else none

/-- An imaginary mark, if there is one, and the end. -/
def imaginaryTail (s : Split) : Option Split :=
  match s.2 with
  | c :: r => if c == 'j' || c == 'J' then endNumber (c :: s.1, r) else endNumber s
  | [] => some s

/-- An exponent, if there is one, and what may follow.  A letter that opens no exponent may still
open a word that follows. -/
def exponentTail (s : Split) : Option Split :=
  match s.2 with
  | e :: r =>
    if e == 'e' || e == 'E' then
      match r with
      | g :: d :: t =>
        if g == '+' || g == '-' then
          if isDecimal d then (digitRun isDecimal (d :: g :: e :: s.1) t).bind imaginaryTail
          else none
        else if isDecimal g then (digitRun isDecimal (g :: e :: s.1) (d :: t)).bind imaginaryTail
        else endNumber s
      | [g] =>
        if isDecimal g then some (g :: e :: s.1, [])
        else if g == '+' || g == '-' then none
        else endNumber s
      | [] => endNumber s
    else imaginaryTail s
  | [] => some s

/-- Digits after the point, if any, and what may follow. -/
def fractionTail (s : Split) : Option Split :=
  match s.2 with
  | d :: r =>
    if isDecimal d then (digitRun isDecimal (d :: s.1) r).bind exponentTail else exponentTail s
  | [] => some s

/-- A point with its fraction, if there is one, and what may follow. -/
def pointTail (s : Split) : Option Split :=
  match s.2 with
  | '.' :: r => fractionTail ('.' :: s.1, r)
  | _ => exponentTail s

/-- Whether digits are zeros throughout. -/
def allZeros (ds : List Char) : Bool := ds.all fun c ↦ c == '0' || c == '_'

/-- Whether a number is no integer, as the character after its digits shows. -/
def leavesInteger (r : List Char) : Bool :=
  match r with
  | c :: _ => c == '.' || c == 'e' || c == 'E' || c == 'j' || c == 'J'
  | [] => false

/-- The most digits of a decimal integer. -/
def integerDigits : Nat := 4300

/-- A decimal number.  An integer does not start with a zero unless it is zero. -/
def decimalNumber (r : List Char) : Option Split := do
  let s ← digitRun isDecimal [] r
  let leadingZero := r.head? == some '0' && !allZeros s.1
  if leadingZero && !leavesInteger s.2 then none
  else
    let t ← pointTail s
    let integer := t.1.length == s.1.length
    if integer && integerDigits < (s.1.filter isDecimal).length then none else some t

/-- A number that opens with a digit. -/
def scanNumber (cs : List Char) : Option Split :=
  match cs with
  | '0' :: b :: r =>
    if b == 'x' || b == 'X' then (basedRun isHexadecimal [b, '0'] r).bind endNumber
    else if b == 'o' || b == 'O' then (basedRun isOctal [b, '0'] r).bind endNumber
    else if b == 'b' || b == 'B' then (basedRun isBinary [b, '0'] r).bind endNumber
    else decimalNumber cs
  | _ => decimalNumber cs

end Source
end TexWeave
