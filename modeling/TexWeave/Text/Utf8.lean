/-!
# Reading UTF-8 that may be broken

`decodeUtf8` turns bytes into characters.  A sequence that is not well formed becomes U+FFFD, one
for each longest part that could still have been the start of a character.
-/

set_option autoImplicit false

namespace TexWeave
namespace Text

/-- The character that stands for what could not be read. -/
def replacement : Char := '\uFFFD'

/-- What the first byte of a character asks for: the number of bytes that follow, the bits it
carries, and the range allowed for the second byte. -/
structure Lead where
  more : Nat
  bits : Nat
  lowest : Nat
  highest : Nat

/-- The first bytes that open a character of more than one byte.  The ranges of the second byte
leave out overlong forms, surrogates, and what lies beyond U+10FFFF. -/
def Lead.ofByte? (b : Nat) : Option Lead :=
  if 0xC2 ≤ b ∧ b ≤ 0xDF then some ⟨1, b - 0xC0, 0x80, 0xBF⟩
  else if b = 0xE0 then some ⟨2, 0, 0xA0, 0xBF⟩
  else if b = 0xED then some ⟨2, 0xD, 0x80, 0x9F⟩
  else if 0xE1 ≤ b ∧ b ≤ 0xEF then some ⟨2, b - 0xE0, 0x80, 0xBF⟩
  else if b = 0xF0 then some ⟨3, 0, 0x90, 0xBF⟩
  else if 0xF1 ≤ b ∧ b ≤ 0xF3 then some ⟨3, b - 0xF0, 0x80, 0xBF⟩
  else if b = 0xF4 then some ⟨3, 4, 0x80, 0x8F⟩
  else none

/-- A character under way: the bits so far, the bytes still wanted, and the range of the next. -/
structure Pending where
  bits : Nat
  more : Nat
  lowest : Nat
  highest : Nat

/-- Reads the bytes with a character possibly under way. -/
def decodeFrom : Option Pending → List UInt8 → List Char
  | none, [] => []
  | some _, [] => [replacement]
  | none, b :: r =>
    if b.toNat < 0x80 then Char.ofNat b.toNat :: decodeFrom none r
    else match Lead.ofByte? b.toNat with
      | some l => decodeFrom (some ⟨l.bits, l.more, l.lowest, l.highest⟩) r
      | none => replacement :: decodeFrom none r
  | some p, b :: r =>
    if p.lowest ≤ b.toNat ∧ b.toNat ≤ p.highest then
      let bits := p.bits * 64 + (b.toNat - 0x80)
      if p.more ≤ 1 then Char.ofNat bits :: decodeFrom none r
      else decodeFrom (some ⟨bits, p.more - 1, 0x80, 0xBF⟩) r
    else replacement ::
      (if b.toNat < 0x80 then Char.ofNat b.toNat :: decodeFrom none r
      else match Lead.ofByte? b.toNat with
        | some l => decodeFrom (some ⟨l.bits, l.more, l.lowest, l.highest⟩) r
        | none => replacement :: decodeFrom none r)

/-- The text that bytes hold, broken sequences replaced. -/
def decodeUtf8 (bytes : List UInt8) : String := String.ofList (decodeFrom none bytes)

end Text
end TexWeave
