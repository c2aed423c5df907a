import TexWeave.Text.Blank

/-!
# Tokens of a settings file

A settings file is written in YAML.  Its tokens show where collections start and end, also those
that are only indented, and hold the text of scalars.
-/

set_option autoImplicit false

namespace TexWeave
namespace Yaml

/-- A tag as it is written: a handle, if there is one, and what follows it. -/
structure TagText where
  handle : Option String
  suffix : String
  deriving DecidableEq, Repr

/-- The tokens. -/
inductive Token
  | directive (name : String) (arguments : List String)
  | documentStart
  | documentEnd
  | blockSequence
  | blockMapping
  | blockEnd
  | openSequence
  | closeSequence
  | openMapping
  | closeMapping
  | entry
  | comma
  | key
  | value
  | alias (name : String)
  | anchor (name : String)
  | tag (t : TagText)
  | scalar (text : String) (plain : Bool)
  deriving DecidableEq, Repr

/-- Characters that break a line. -/
def isBreak (c : Char) : Bool :=
  c == '\n' || c == '\r' || c == '\x85' || c == '\u2028' || c == '\u2029'

/-- Whether what comes next ends a word: the end, a blank or a line break. -/
def endsWord (c : Option Char) : Bool :=
  match c with
  | none => true
  | some c => c == ' ' || c == '\t' || isBreak c

/-- Whether what comes next ends a line. -/
def endsLine (c : Option Char) : Bool :=
  match c with
  | none => true
  | some c => isBreak c

/-- Characters a file may hold. -/
def isAllowed (c : Char) : Bool :=
  let n := c.toNat
  n == 9 || n == 10 || n == 13 || (0x20 ≤ n && n ≤ 0x7E) || n == 0x85 || (0xA0 ≤ n && n ≤ 0xFFFD)
    || 0x10000 ≤ n

end Yaml
end TexWeave
