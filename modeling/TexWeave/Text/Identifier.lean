import TexWeave.Text.IdentifierTable

/-!
# Identifiers

The shape of an identifier: a character of the class XID_Start or the low line, then characters of
the class XID_Continue.
-/

set_option autoImplicit false

namespace TexWeave
namespace Text

/-- Whether an identifier may open with the character. -/
def isIdentifierStart (c : Char) : Bool :=
  if c.toNat < 128 then c.isAlpha || c == '_' else identifierStartRanges.contains c

/-- Whether an identifier may go on with the character. -/
def isIdentifierContinue (c : Char) : Bool :=
  if c.toNat < 128 then c.isAlphanum || c == '_' else identifierContinueRanges.contains c

/-- Whether the whole list is one identifier. -/
def isIdentifier : List Char → Bool
  | [] => false
  | c :: r => isIdentifierStart c && r.all isIdentifierContinue

end Text
end TexWeave
