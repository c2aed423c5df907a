import TexWeave.Number.Read
import TexWeave.Source.Literal
import TexWeave.Text.Quoted
import TexWeave.Text.Word
import TexWeave.Value

/-!
# Constants in source text

The value of a literal, as messages show it.
-/

set_option autoImplicit false

namespace TexWeave
namespace Source

/-- The characters that a letter after a backslash stands for. -/
def simpleEscapes : List (Char × Char) :=
  [('\\', '\\'), ('\'', '\''), ('"', '"'), ('a', '\x07'), ('b', '\x08'), ('f', '\x0c'),
    ('n', '\n'), ('r', '\r'), ('t', '\t'), ('v', '\x0b')]

/-- The hexadecimal digits an escape takes. -/
def escapeDigits (e : Char) : Nat := if e = 'x' then 2 else if e = 'u' then 4 else 8

/-- The text between quotes with its escapes replaced.  The fuel bounds the escapes. -/
def unescape : Nat → List Char → List Char
  | 0, cs => cs
  | _ + 1, [] => []
  | fuel + 1, '\\' :: '\n' :: r => unescape fuel r
  | fuel + 1, '\\' :: e :: r =>
    match simpleEscapes.find? fun s ↦ s.1 == e with
    | some s => s.2 :: unescape fuel r
    | none =>
      if e = 'x' || e = 'u' || e = 'U' then
        let n := escapeDigits e
        Char.ofNat ((Text.hexValue? (r.take n)).getD 0) :: unescape fuel (r.drop n)
      else
        let octal := ((e :: r).take 3).takeWhile fun c ↦ '0' ≤ c && c ≤ '7'
        if octal.isEmpty then '\\' :: e :: unescape fuel r
        else Char.ofNat (octal.foldl (fun n c ↦ n * 8 + (c.toNat - '0'.toNat)) 0)
          :: unescape fuel ((e :: r).drop octal.length)
  | fuel + 1, c :: r => c :: unescape fuel r

/-- The text a string token stands for. -/
def stringText (token : String) : List Char :=
  let letters := token.toList.takeWhile Char.isAlpha
  let rest := token.toList.drop letters.length
  let q := rest.headD '"'
  let width := if rest.take 3 == [q, q, q] && 6 ≤ rest.length then 3 else 1
  let body := (rest.drop width).take (rest.length - 2 * width)
  match StringSort.ofLetters? letters with
  | some sort => if sort.raw then body else unescape body.length body
  | none => body

/-- A byte between quotes. -/
def byteText (q c : Char) : List Char :=
  if 128 ≤ c.toNat then '\\' :: 'x' :: Text.hexDigits c.toNat 2 else Text.quotedChar q c

/-- Strings side by side as messages show them. -/
def stringsWritten (bytes : Bool) (tokens : List String) : String :=
  let cs := tokens.flatMap stringText
  if bytes then
    let q := if cs.contains '\'' && !cs.contains '"' then '"' else '\''
    String.ofList ('b' :: q :: cs.flatMap (byteText q) ++ [q])
  else Text.quoted (String.ofList cs)

/-- The value of digits with a base. -/
def basedValue (base : Nat) (ds : List Char) : Nat :=
  ds.foldl (fun n c ↦ n * base + (Text.hexDigit? c).getD 0) 0

/-- A number of an imaginary kind as messages show it. -/
def imaginaryWritten (x : Binary64) : String :=
  let t := x.shortestText.toList
  String.ofList (if t.drop (t.length - 2) == ['.', '0'] then t.take (t.length - 2) else t) ++ "j"

/-- A number token as messages show its value. -/
def numberWritten (token : String) : String :=
  let cs := (Text.asciiLower token.toList).filter (· != '_')
  match cs with
  | '0' :: 'x' :: ds => toString (basedValue 16 ds)
  | '0' :: 'o' :: ds => toString (basedValue 8 ds)
  | '0' :: 'b' :: ds => toString (basedValue 2 ds)
  | _ =>
    if cs.getLast? == some 'j' then imaginaryWritten (Binary64.ofChars false cs.dropLast)
    else if cs.all Char.isDigit then toString (Text.digitsValue cs)
    else (Binary64.ofChars false cs).shortestText

end Source
end TexWeave
