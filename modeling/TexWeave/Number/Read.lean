import TexWeave.Number.Binary64
import TexWeave.Text.Word

/-!
# Reading decimal numbers

A number written in decimal, with a fraction and an exponent or without, becomes the number of the
format binary64 nearest to it.
-/

set_option autoImplicit false

namespace TexWeave
namespace Binary64

/-- An exponent after its letter: a sign, if there is one, and digits. -/
def exponentOf : List Char → Int
  | '-' :: ds => -(Text.digitsValue ds : Int)
  | '+' :: ds => Text.digitsValue ds
  | ds => Text.digitsValue ds

/-- A number without a sign: digits, a point with digits, a letter with an exponent. -/
def ofChars (negative : Bool) (cs : List Char) : Binary64 :=
  let whole := cs.takeWhile Char.isDigit
  let r := cs.drop whole.length
  let (fraction, r) := match r with
    | '.' :: s => (s.takeWhile Char.isDigit, s.dropWhile Char.isDigit)
    | _ => ([], r)
  .ofDecimal negative (Text.digitsValue (whole ++ fraction))
    (exponentOf (r.drop 1) - fraction.length)

/-- Whether a text is a number without a sign, as `ofChars` reads it. -/
def isDecimalText (cs : List Char) : Bool :=
  let whole := cs.takeWhile Char.isDigit
  let r := cs.drop whole.length
  let (fraction, r) := match r with
    | '.' :: s => (s.takeWhile Char.isDigit, s.dropWhile Char.isDigit)
    | _ => ([], r)
  let exponentOk := match r with
    | [] => true
    | e :: t =>
      let ds := match t with
        | '+' :: ds => ds
        | '-' :: ds => ds
        | ds => ds
      (e == 'e' || e == 'E') && !ds.isEmpty && ds.all Char.isDigit
  !(whole ++ fraction).isEmpty && exponentOk

/-- The number a text spells: a sign, then digits or one of the names of what is not finite. -/
def ofText? (s : String) : Option Binary64 :=
  let cs := Text.asciiLower s.toList
  let (negative, cs) := match cs with
    | '-' :: r => (true, r)
    | '+' :: r => (false, r)
    | r => (false, r)
  if cs == "nan".toList then some .nan
  else if cs == "inf".toList || cs == "infinity".toList then some (.infinite negative)
  else if isDecimalText cs then some (ofChars negative cs)
  else none

end Binary64
end TexWeave
