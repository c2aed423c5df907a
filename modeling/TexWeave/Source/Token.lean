import TexWeave.Text.Identifier
import TexWeave.Text.Word

/-!
# Tokens of source text

The smallest parts of a source text with the lines they stand on.  Comments and line breaks that do
not end a statement are tokens too; the grammar passes them over.
-/

set_option autoImplicit false

namespace TexWeave
namespace Source

/-- The sorts of token. -/
inductive TokenKind
  | name
  | keyword
  | number
  | string
  | bytes
  /-- The start of a string with fields; the expressions of its fields follow. -/
  | fieldsOpen
  /-- The end of a string with fields. -/
  | fieldsClose
  | operator
  /-- A character with no meaning of its own. -/
  | stray
  /-- The end of a statement's line. -/
  | newline
  | indent
  | dedent
  | comment
  /-- A line break that ends no statement. -/
  | gap
  /-- The end of the text. -/
  | finish
  deriving DecidableEq, Repr, Inhabited

/-- A token.  Lines are counted from one, columns from zero. -/
structure Token where
  kind : TokenKind
  text : String
  line : Nat
  column : Nat
  endLine : Nat
  deriving DecidableEq, Repr, Inhabited

namespace Token

/-- Whether the grammar passes the token over. -/
def isTrivia (t : Token) : Bool := t.kind == .comment || t.kind == .gap

/-- Whether the token only shows how lines are arranged. -/
def isLayout (t : Token) : Bool :=
  match t.kind with
  | .newline | .indent | .dedent | .finish => true
  | _ => false

/-- Whether the token is a string or the edge of one, seen from its left side. -/
def opensString (t : Token) : Bool :=
  t.kind == .string || t.kind == .bytes || t.kind == .fieldsOpen

/-- The same, seen from its right side. -/
def closesString (t : Token) : Bool :=
  t.kind == .string || t.kind == .bytes || t.kind == .fieldsClose

end Token

/-- Words that are not names. -/
def keywords : List String :=
  ["False", "None", "True", "and", "as", "assert", "async", "await", "break", "class", "continue",
    "def", "del", "elif", "else", "except", "finally", "for", "from", "global", "if", "import",
    "in", "is", "lambda", "nonlocal", "not", "or", "pass", "raise", "return", "try", "while",
    "with", "yield"]

/-- Operators of three, two and one characters. -/
def operators : List (List String) :=
  [["**=", "//=", "<<=", ">>=", "..."],
    ["!=", "%=", "&=", "**", "*=", "+=", "-=", "->", "//", "/=", ":=", "<<", "<=", "<>", "==",
      ">=", ">>", "@=", "^=", "|="],
    ["%", "&", "(", ")", "*", "+", ",", "-", ".", "/", ":", ";", "<", "=", ">", "@", "[", "]",
      "^", "\x7b", "|", "\x7d", "~"]]

/-- The longest operator at the start of a text. -/
def operatorAt? (cs : List Char) : Option String :=
  operators.flatten.find? fun o ↦ o.toList.isPrefixOf cs

/-- Whether a character may stand inside a word as far as its shape goes; words with characters
beyond ASCII are looked at more closely afterwards. -/
def isWordLike (c : Char) : Bool := 128 ≤ c.toNat || c.isAlphanum || c == '_'

/-- Whether a word may open with the character, with the same proviso. -/
def isWordLikeStart (c : Char) : Bool := isWordLike c && !c.isDigit

end Source
end TexWeave
