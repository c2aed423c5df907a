import TexWeave.Number.Binary64
import TexWeave.Text.Lines
import TexWeave.Text.Word
import TexWeave.Value

/-!
# What plain scalars mean

A plain scalar is a flag, a number, a date, nothing, or one of two signs; if it looks like none of
these it is a text.

* `plainSort` — what a plain scalar looks like.
* `integerOf?`, `realOf?`, `flagOf?` — its value.
-/

set_option autoImplicit false

namespace TexWeave
namespace Yaml

/-- What a plain scalar looks like.  `merge` is the sign that takes over the pairs of another
mapping, and `default` the sign for the value of a mapping. -/
inductive PlainSort
  | text
  | null
  | flag
  | integer
  | real
  | date
  | merge
  | default
  deriving DecidableEq, Repr

/-- The words for yes and no, which may be written in small letters, in capital letters, or with a
capital letter in front. -/
def flagWords : List (String × Bool) :=
  [("yes", true), ("no", false), ("true", true), ("false", false), ("on", true), ("off", false)]

/-- A word with a capital letter in front. -/
def withCapital : List Char → List Char
  | [] => []
  | c :: r => c.toUpper :: r

/-- The three ways to write a word. -/
def spellings (w : String) : List (List Char) :=
  [w.toList, w.toList.map Char.toUpper, withCapital w.toList]

/-- Whether a text is a word in one of its spellings. -/
def isSpelling (w : String) (cs : List Char) : Bool := (spellings w).contains cs

/-! ## Shapes -/

/-- A digit or a low line. -/
def isSpaced (p : Char → Bool) (c : Char) : Bool := p c || c == '_'

/-- A text without its sign. -/
def unsigned : List Char → List Char
  | '+' :: r => r
  | '-' :: r => r
  | r => r

/-- Whether a text is a digit that satisfies a test, followed by digits and low lines. -/
def isRun (first : Char → Bool) : List Char → Bool
  | [] => false
  | c :: r => first c && r.all (isSpaced Char.isDigit)

/-- Whether a text is a number below sixty. -/
def isSixtieth : List Char → Bool
  | [a] => a.isDigit
  | [a, b] => '0' ≤ a && a ≤ '5' && b.isDigit
  | _ => false

/-- Whether parts are a run of digits and at least one number below sixty. -/
def isClock (first : Char → Bool) : List (List Char) → Bool
  | p :: q :: r => isRun first p && (q :: r).all isSixtieth
  | _ => false

/-- A digit other than zero. -/
def isPositive (c : Char) : Bool := c.isDigit && c != '0'

/-- Whether a text looks like an integer. -/
def isInteger (cs : List Char) : Bool :=
  match unsigned cs with
  | '0' :: 'b' :: r => !r.isEmpty && r.all (isSpaced fun c ↦ c == '0' || c == '1')
  | '0' :: 'x' :: r => !r.isEmpty && r.all (isSpaced fun c ↦ c.isDigit
      || ('a' ≤ c && c ≤ 'f') || ('A' ≤ c && c ≤ 'F'))
  | '0' :: r => r.all (isSpaced fun c ↦ '0' ≤ c && c ≤ '7')
  | r => isRun isPositive r || isClock isPositive (Text.splitAt ':' r)

/-- Whether a text is an exponent with a sign, or nothing. -/
def isExponent : List Char → Bool
  | [] => true
  | e :: s :: r =>
    (e == 'e' || e == 'E') && (s == '+' || s == '-') && !r.isEmpty && r.all Char.isDigit
  | _ => false

/-- Whether a text is digits after a point, and an exponent. -/
def isFraction (cs : List Char) : Bool := isExponent (cs.dropWhile (isSpaced Char.isDigit))

/-- Whether a text is digits after a point with nothing before it, and an exponent. -/
def isPointFraction (cs : List Char) : Bool :=
  isRun Char.isDigit (cs.takeWhile (isSpaced Char.isDigit)) && isFraction cs

/-- Whether a text after a point names what is not a number. -/
def isNotANumber (cs : List Char) : Bool :=
  cs == ['n', 'a', 'n'] || cs == ['N', 'a', 'N'] || cs == ['N', 'A', 'N']

/-- Whether a text looks like a number with a point. -/
def isReal (cs : List Char) : Bool :=
  let r := unsigned cs
  let whole := r.takeWhile (· != '.')
  match r.dropWhile (· != '.') with
  | '.' :: fraction =>
    (isRun Char.isDigit whole && isFraction fraction)
      || (isClock Char.isDigit (Text.splitAt ':' whole) && fraction.all (isSpaced Char.isDigit))
      || (whole.isEmpty && isSpelling "inf" fraction)
      || (r == cs && whole.isEmpty && (isPointFraction fraction || isNotANumber fraction))
  | _ => false

/-- Whether a text has one or two digits. -/
def isShort (cs : List Char) : Bool := (cs.length == 1 || cs.length == 2) && cs.all Char.isDigit

/-- Whether a text has two digits. -/
def isPair (cs : List Char) : Bool := cs.length == 2 && cs.all Char.isDigit

/-- Whether a text is a time zone, or nothing. -/
def isZone (cs : List Char) : Bool :=
  match cs.dropWhile fun c ↦ c == ' ' || c == '\t' with
  | [] => cs.isEmpty
  | ['Z'] => true
  | s :: r =>
    (s == '+' || s == '-') && (match Text.splitAt ':' r with
      | [h] => isShort h
      | [h, m] => isShort h && isPair m
      | _ => false)

/-- Whether a text is a time of day, with a fraction of a second and a time zone at will. -/
def isTime (cs : List Char) : Bool :=
  match Text.splitAt ':' (cs.take 8) with
  | h :: m :: _ :: _ =>
    let r := cs.drop (h.length + m.length + 2)
    let rest := r.drop 2
    let zone := match rest with
      | '.' :: f => f.dropWhile Char.isDigit
      | _ => rest
    isShort h && isPair m && isPair (r.take 2) && isZone zone
  | _ => false

/-- Whether a text looks like a date, with a time at will. -/
def isDate (cs : List Char) : Bool :=
  let year := cs.takeWhile Char.isDigit
  match cs.drop year.length with
  | '-' :: r =>
    let month := r.takeWhile Char.isDigit
    match r.drop month.length with
    | '-' :: s =>
      let day := s.takeWhile Char.isDigit
      let rest := s.drop day.length
      year.length == 4 && isShort month && isShort day && (match rest with
        | [] => isPair month && isPair day
        | c :: t =>
          if c == 'T' || c == 't' then isTime t
          else if c == ' ' || c == '\t' then isTime (t.dropWhile fun x ↦ x == ' ' || x == '\t')
          else false)
    | _ => false
  | _ => false

/-- What a plain scalar looks like. -/
def plainSort (cs : List Char) : PlainSort :=
  if flagWords.any fun w ↦ isSpelling w.1 cs then .flag
  else if isReal cs then .real
  else if isInteger cs then .integer
  else if cs == ['<', '<'] then .merge
  else if cs.isEmpty || cs == ['~'] || isSpelling "null" cs then .null
  else if isDate cs then .date
  else if cs == ['='] then .default
  else .text

/-! ## Values -/

/-- The flag a word stands for, in whatever letters. -/
def flagOf? (cs : List Char) : Option Bool :=
  (flagWords.find? fun w ↦ w.1.toList == Text.asciiLower cs).map (·.2)

/-- The value of a digit, letters counting on from ten. -/
def digitOf (c : Char) : Nat :=
  if c.isDigit then c.toNat - '0'.toNat else c.toLower.toNat - 'a'.toNat + 10

/-- The number that digits stand for in a base; nothing if there is none. -/
def digitsIn? (base : Nat) (cs : List Char) : Option Nat :=
  if !cs.isEmpty && cs.all fun c ↦ c.isAlphanum && digitOf c < base then
    some (cs.foldl (fun n c ↦ n * base + digitOf c) 0)
  else none

/-- The number that parts stand for, each counting sixty times what the next one does. -/
def clockOf? (parts : List (List Char)) : Option Nat :=
  parts.foldlM (fun n p ↦ (digitsIn? 10 p).map fun d ↦ n * 60 + d) 0

/-- The integer a text stands for. -/
def integerOf? (cs : List Char) : Option Int :=
  let cs := cs.filter (· != '_')
  let n? := match unsigned cs with
    | ['0'] => some 0
    | '0' :: 'b' :: r => digitsIn? 2 r
    | '0' :: 'x' :: r => digitsIn? 16 r
    | '0' :: r => digitsIn? 8 r
    | r => clockOf? (Text.splitAt ':' r)
  n?.map fun n ↦ if cs.head? == some '-' then -(n : Int) else (n : Int)

/-- The exponent at the end of a number. -/
def exponentValue? : List Char → Option Int
  | [] => some 0
  | e :: r =>
    if e == 'e' then
      (digitsIn? 10 (unsigned r)).map fun n ↦ if r.head? == some '-' then -(n : Int) else (n : Int)
    else none

/-- The number a text stands for. -/
def realOf? (cs : List Char) : Option Binary64 :=
  let cs := Text.asciiLower (cs.filter (· != '_'))
  let negative := cs.head? == some '-'
  let r := unsigned cs
  if r == ".inf".toList then some (.infinite negative)
  else if r == ".nan".toList then some .nan
  else
    let whole := r.takeWhile fun c ↦ c.isDigit || c == ':'
    let r := r.drop whole.length
    let (fraction, r) := match r with
      | '.' :: s => (s.takeWhile Char.isDigit, s.dropWhile Char.isDigit)
      | _ => ([], r)
    if (whole ++ fraction).isEmpty then none
    else do
      let n ← if whole.isEmpty then some 0 else clockOf? (Text.splitAt ':' whole)
      let x ← exponentValue? r
      return .ofDecimal negative (n * Nat.pow 10 fraction.length + Text.digitsValue fraction)
        (x - fraction.length)

end Yaml
end TexWeave
