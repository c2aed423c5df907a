import TexWeave.Text.WordTable

/-!
# Word characters and decimal digits

The characters that make up a word — letters, numbers and the low line — and the values of
decimal digits in every script.  ASCII is decided directly; the tables hold the rest.
-/

set_option autoImplicit false

namespace TexWeave
namespace Text

/-- Letters, numbers and the low line. -/
def isWordChar (c : Char) : Bool :=
  if c.toNat < 128 then c.isAlphanum || c == '_' else wordRanges.contains c

/-- The value of a decimal digit of any script. -/
def digitValue? (c : Char) : Option Nat :=
  if c.toNat < 128 then
    if c.isDigit then some (c.toNat - '0'.toNat) else none
  else (digitBlocks.find? c.toNat).map fun b ↦ (c.toNat - b.1) % 10

/-- The number that the digits of a list spell; other characters are passed over. -/
def digitsValue (cs : List Char) : Nat :=
  cs.foldl (fun n c ↦ match digitValue? c with
    | some d => n * 10 + d
    | none => n) 0

/-- Whether a character is a lower-case ASCII letter. -/
def isAsciiLower (c : Char) : Bool := 'a' ≤ c && c ≤ 'z'

/-- Whether a character is an upper-case ASCII letter. -/
def isAsciiUpper (c : Char) : Bool := 'A' ≤ c && c ≤ 'Z'

/-- Whether a character is an ASCII digit. -/
def isAsciiDigit (c : Char) : Bool := '0' ≤ c && c ≤ '9'

/-- ASCII letters in lower case, everything else as it is. -/
def asciiLower (cs : List Char) : List Char := cs.map Char.toLower

end Text
end TexWeave
