import TexWeave.Source.Token

/-!
# String literals

What stands between the quotes of a string: how far it reaches, whether its escapes are in order,
and, for a string with fields, which expressions its fields hold.

* `closeString` — the text of a string and what follows it.
* `escapesOk`, `bytesOk` — escapes of texts and of byte strings.
* `fieldExpressions` — the expressions of the fields, in order.
-/

set_option autoImplicit false

namespace TexWeave
namespace Source

/-- The sort of a string, as the letters before its quote say. -/
structure StringSort where
  raw : Bool := false
  bytes : Bool := false
  fields : Bool := false
  deriving DecidableEq, Repr

/-- The sort that letters before a quote stand for. -/
def StringSort.ofLetters? (letters : List Char) : Option StringSort :=
  match Text.asciiLower letters with
  | [] => some {}
  | ['u'] => some {}
  | ['r'] => some { raw := true }
  | ['b'] => some { bytes := true }
  | ['f'] => some { fields := true }
  | ['b', 'r'] => some { raw := true, bytes := true }
  | ['r', 'b'] => some { raw := true, bytes := true }
  | ['f', 'r'] => some { raw := true, fields := true }
  | ['r', 'f'] => some { raw := true, fields := true }
  | _ => none

/-! ## Where a string ends -/

/-- The text of a string on one line, in reverse, and what follows its closing quote. -/
def closeShort (q : Char) : List Char → List Char → Option (List Char × List Char)
  | _, [] => none
  | acc, '\\' :: c :: r => closeShort q (c :: '\\' :: acc) r
  | acc, c :: r =>
    if c = q then some (acc, r) else if c = '\n' || c = '\\' then none
    else closeShort q (c :: acc) r

/-- The text of a string that ends with three quotes, in reverse, and what follows them. -/
def closeLong (q : Char) : List Char → List Char → Option (List Char × List Char)
  | _, [] => none
  | acc, '\\' :: c :: r => closeLong q (c :: '\\' :: acc) r
  | acc, c :: r =>
    if c = q && r.take 2 == [q, q] then some (acc, r.drop 2) else closeLong q (c :: acc) r

/-- A string after its first quote: its text, and what follows it. -/
def closeString (q : Char) (r : List Char) : Option (List Char × List Char) :=
  let found := if r.take 2 == [q, q] then closeLong q [] (r.drop 2) else closeShort q [] r
  found.map fun s ↦ (s.1.reverse, s.2)

/-! ## Escapes -/

/-- Whether a text starts with `n` hexadecimal digits. -/
def opensHexadecimal (n : Nat) (r : List Char) : Bool :=
  (r.take n).length == n && (r.take n).all fun c ↦ (Text.hexDigit? c).isSome

/-- Whether a text starts with eight hexadecimal digits that name a character. -/
def opensCharacter (r : List Char) : Bool :=
  opensHexadecimal 8 r && (Text.hexValue? (r.take 8)).getD 0 ≤ 0x10FFFF

/-- Whether a text starts with a name in braces. -/
def opensName (r : List Char) : Bool :=
  match r with
  | '\x7b' :: s => s.head? != some '\x7d' && s.contains '\x7d'
  | _ => false

/-- Whether the escapes of a text are in order. -/
def escapesOk : List Char → Bool
  | [] => true
  | '\\' :: e :: r =>
    (if e = 'x' then opensHexadecimal 2 r
      else if e = 'u' then opensHexadecimal 4 r
      else if e = 'U' then opensCharacter r
      else if e = 'N' then opensName r
      else true) && escapesOk r
  | _ :: r => escapesOk r

/-- Whether the escapes of a byte string are in order. -/
def byteEscapesOk : List Char → Bool
  | [] => true
  | '\\' :: e :: r => (e != 'x' || opensHexadecimal 2 r) && byteEscapesOk r
  | _ :: r => byteEscapesOk r

/-- Whether a byte string is in order: ASCII alone, and good escapes unless it is raw. -/
def bytesOk (raw : Bool) (cs : List Char) : Bool :=
  (cs.all fun c ↦ c.toNat < 128) && (raw || byteEscapesOk cs)

/-! ## Fields

Outside its fields a string with fields is a text in which braces are written twice.  A field is an
expression in braces, with an optional equals sign, conversion and format.  The format may hold
fields again, whose formats may not. -/

/-- The text before the next field or the end, in reverse.  `named` tells that a character's name in
braces is under way, which is not a field.  Braces are only doubled at the outermost level. -/
def literalPart (outer raw : Bool) :
    Bool → List Char → List Char → Option (List Char × List Char)
  | _, acc, [] => some (acc, [])
  | true, acc, c :: r => literalPart outer raw (c != '\x7d') (c :: acc) r
  | false, acc, '\\' :: 'N' :: '\x7b' :: r =>
    if raw then literalPart outer raw false ('N' :: '\\' :: acc) ('\x7b' :: r)
    else literalPart outer raw true ('\x7b' :: 'N' :: '\\' :: acc) r
  | false, acc, '\\' :: c :: r =>
    if raw || c = '\x7b' || c = '\x7d' then literalPart outer raw false ('\\' :: acc) (c :: r)
    else literalPart outer raw false (c :: '\\' :: acc) r
  | false, acc, '\x7b' :: '\x7b' :: r =>
    if outer then literalPart outer raw false ('\x7b' :: acc) r
    else some (acc, '\x7b' :: '\x7b' :: r)
  | false, acc, '\x7d' :: '\x7d' :: r =>
    if outer then literalPart outer raw false ('\x7d' :: acc) r
    else some (acc, '\x7d' :: '\x7d' :: r)
  | false, acc, c :: r =>
    if c = '\x7d' && outer then none
    else if c = '\x7b' || c = '\x7d' then some (acc, c :: r)
    else literalPart outer raw false (c :: acc) r

/-- Whether a closing bracket belongs to an opening one. -/
def bracketsMatch (opening closing : Char) : Bool :=
  (opening == '(' && closing == ')') || (opening == '[' && closing == ']')
    || (opening == '\x7b' && closing == '\x7d')

/-- The expression of a field, in reverse, and what follows it.  `quote` is the string under way in
it, with whether it ends with three quotes; `open` are the brackets under way. -/
def fieldExpression : Option (Char × Bool) → List Char → List Char → List Char →
    Option (List Char × List Char)
  | _, _, _, [] => none
  | _, _, _, '\\' :: _ => none
  | some (q, true), opened, acc, c :: c₂ :: c₃ :: r =>
    if c = q && c₂ = q && c₃ = q then fieldExpression none opened (q :: q :: q :: acc) r
    else fieldExpression (some (q, true)) opened (c :: acc) (c₂ :: c₃ :: r)
  | some (_, true), _, _, [_] => none
  | some (_, true), _, _, [_, _] => none
  | some (q, false), opened, acc, c :: r =>
    fieldExpression (if c = q then none else some (q, false)) opened (c :: acc) r
  | none, opened, acc, c :: c₂ :: c₃ :: r =>
    if (c = '\'' || c = '"') && c₂ = c && c₃ = c then
      fieldExpression (some (c, true)) opened (c :: c :: c :: acc) r
    else fieldStep c opened acc (c₂ :: c₃ :: r)
      (fun quote opened ↦ fieldExpression quote opened (c :: acc) (c₂ :: c₃ :: r))
      (fun _ ↦ fieldExpression none opened (c₂ :: c :: acc) (c₃ :: r))
  | none, opened, acc, [c, c₂] =>
    fieldStep c opened acc [c₂]
      (fun quote opened ↦ fieldExpression quote opened (c :: acc) [c₂])
      (fun _ ↦ fieldExpression none opened (c₂ :: c :: acc) [])
  | none, opened, acc, [c] =>
    fieldStep c opened acc []
      (fun quote opened ↦ fieldExpression quote opened (c :: acc) [])
      (fun _ ↦ none)
where
  /-- One character outside strings: `go` reads on behind it, `skip` behind the one after it too. -/
  fieldStep (c : Char) (opened acc r : List Char)
      (go : Option (Char × Bool) → List Char → Option (List Char × List Char))
      (skip : Unit → Option (List Char × List Char)) : Option (List Char × List Char) :=
    if c = '\'' || c = '"' then go (some (c, false)) opened
    else if c = '[' || c = '\x7b' || c = '(' then
      if 200 ≤ opened.length then none else go none (c :: opened)
    else if c = '#' then none
    else if opened.isEmpty
        && (c = '!' || c = ':' || c = '\x7d' || c = '=' || c = '>' || c = '<') then
      if r.head? == some '=' && (c = '!' || c = '=' || c = '<' || c = '>') then skip ()
      else if c = '>' || c = '<' then go none opened
      else some (acc, c :: r)
    else if c = ']' || c = '\x7d' || c = ')' then
      match opened with
      | [] => none
      | o :: rest => if bracketsMatch o c then go none rest else none
    else go none opened

/-- Whether a character may stand around an expression. -/
def isFieldBlank (c : Char) : Bool := c == ' ' || c == '\t' || c == '\n' || c == '\x0c'

/-- What follows an equals sign and blanks, if there is one. -/
def afterEquals (r : List Char) : List Char :=
  match r with
  | '=' :: s => s.dropWhile fun c ↦ isFieldBlank c || c == '\x0b' || c == '\r'
  | _ => r

/-- What follows a conversion, if there is one; it is one of three letters. -/
def afterConversion? (r : List Char) : Option (List Char) :=
  match r with
  | '!' :: c :: s => if c = 's' || c = 'r' || c = 'a' then some s else none
  | ['!'] => none
  | _ => some r

/-- The expressions of the fields in a text, and what is left of it.  `level` counts the formats the
text stands in; within one, a closing brace ends the text. -/
def fieldsWithin (raw : Bool) : Nat → Nat → List Char → Option (List (List Char) × List Char)
  | 0, _, _ => none
  | fuel + 1, level, cs => do
    let (literal, r) ← literalPart (level == 0) raw false [] cs
    if raw || escapesOk literal.reverse then
      match r with
      | '\x7b' :: s =>
        if 2 ≤ level then none
        else
          let (expression, s) ← fieldExpression none [] [] s
          let expression := expression.reverse
          if expression.all isFieldBlank then none
          else
            let s ← afterConversion? (afterEquals s)
            let (inner, s) ← match s with
              | ':' :: t => fieldsWithin raw fuel (level + 1) t
              | _ => some ([], s)
            match s with
            | '\x7d' :: t =>
              let (rest, t) ← fieldsWithin raw fuel level t
              some (expression :: (inner ++ rest), t)
            | _ => none
      | _ => some ([], r)
    else none

/-- The expressions of the fields of a string, in order, if the string is well formed. -/
def fieldExpressions (raw : Bool) (cs : List Char) : Option (List (List Char)) :=
  match fieldsWithin raw (cs.length + 1) 0 cs with
  | some (es, []) => some es
  | _ => none

end Source
end TexWeave
