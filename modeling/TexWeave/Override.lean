import TexWeave.Check.Basic
import TexWeave.Number.Read
import TexWeave.Value

/-!
# Settings given on the command line

A setting is given by its path, an equals sign and a value: a word, a number, a flag, nothing, a
text in quotes, a list, or a record.  Words hold letters, digits and some signs; every other
character has to be in quotes or follow a backslash.  A plus sign in front adds a setting that is
not there.

* `Override` — one setting.
* `Override.ofText?` — reads one.
-/

set_option autoImplicit false

namespace TexWeave

/-- What a setting does where something is set already. -/
inductive Manner
  /-- It takes the place of a setting that is known. -/
  | replace
  /-- It is new. -/
  | add
  /-- It is new or takes the place of another. -/
  | force
  deriving DecidableEq, Repr

/-- One setting. -/
structure Override where
  manner : Manner
  path : List String
  value : Value

namespace Override

/-! ## Paths -/

/-- Whether a character may open a step of a path. -/
def opensStep (c : Char) : Bool := c.isAlpha || c == '_' || c == '$'

/-- Whether a text is a step of a path: a name, or a place in a list if there are more steps. -/
def isStep (alone : Bool) : List Char → Bool
  | [] => false
  | c :: r =>
    (opensStep c && r.all fun x ↦ opensStep x || x.isDigit || x == '-')
      || (!alone && (c :: r == ['0'] || (c != '0' && Check.wellSeparated (c :: r))))

/-- The steps of a path. -/
def path? (cs : List Char) : Option (List String) :=
  let steps := Text.splitAt '.' cs
  if steps.all (isStep (steps.length == 1)) then some (steps.map String.ofList) else none

/-- How a setting is given, by the plus signs in front of it. -/
def mannerOf : List Char → Manner × List Char
  | '+' :: '+' :: r => (.force, r)
  | '+' :: r => (.add, r)
  | r => (.replace, r)

/-! ## Words -/

/-- Signs that may stand in a word. -/
def wordSigns : List Char := "/-\\+.$%*@?|:_ \t".toList

/-- Characters that a backslash takes into a word. -/
def takenSigns : List Char := ['\\', '(', ')', '[', ']', '{', '}', ':', '=', ',', ' ', '\t']

/-- A character of a word, and whether a backslash took it in. -/
abbrev Letter := Char × Bool

/-- The letters at the front of a text, and the rest.  A colon ends the name of a field. -/
def letters (colonEnds : Bool) : List Char → List Letter × List Char
  | [] => ([], [])
  | '\\' :: c :: r =>
    if takenSigns.contains c then
      let (ls, s) := letters colonEnds r
      ((c, true) :: ls, s)
    else
      let (ls, s) := letters colonEnds (c :: r)
      (('\\', false) :: ls, s)
  | c :: r =>
    if (c.isAlphanum || wordSigns.contains c) && !(colonEnds && c == ':') then
      let (ls, s) := letters colonEnds r
      ((c, false) :: ls, s)
    else ([], c :: r)

/-- Whether a letter is a blank that no backslash took in. -/
def isBareBlank (l : Letter) : Bool := !l.2 && (l.1 == ' ' || l.1 == '\t')

/-- Letters without the blanks at their ends. -/
def trimLetters (ls : List Letter) : List Letter :=
  ((ls.dropWhile isBareBlank).reverse.dropWhile isBareBlank).reverse

/-- Whether a text is digits that do not start with an idle zero. -/
def isWhole (cs : List Char) : Bool :=
  cs == ['0'] || (Check.wellSeparated cs && cs.head? != some '0')

/-- Whether a text has a point between digits, or at one end of them. -/
def isPointed (cs : List Char) : Bool :=
  let whole := cs.takeWhile (· != '.')
  match cs.drop whole.length with
  | _ :: fraction =>
    (whole.isEmpty || isWhole whole) && (Check.wellSeparated fraction
      || (fraction.isEmpty && !whole.isEmpty))
  | [] => false

/-- Whether a letter opens an exponent. -/
def opensExponent (c : Char) : Bool := c == 'e' || c == 'E'

/-- Whether a text is a number with an exponent. -/
def isExponential (cs : List Char) : Bool :=
  let front := cs.takeWhile fun c ↦ !opensExponent c
  (isWhole front || isPointed front) && (match cs.drop (front.length + 1) with
    | '+' :: ds => Check.wellSeparated ds
    | '-' :: ds => Check.wellSeparated ds
    | ds => Check.wellSeparated ds)

/-- A text without its sign. -/
def unsignedWord : List Char → List Char
  | '+' :: r => r
  | '-' :: r => r
  | r => r

/-- What a word without backslashes is: nothing, a flag, a number, or a text. -/
def wordValue (cs : List Char) : Value :=
  let low := Text.asciiLower cs
  let ds := unsignedWord cs
  let bare := cs.filter (· != '_')
  if low == "null".toList then .null
  else if low == "true".toList then .bool true
  else if low == "false".toList then .bool false
  else if isWhole ds then
    let n : Int := Text.digitsValue (unsignedWord bare)
    .int (if cs.head? == some '-' then -n else n)
  else if isPointed ds || isExponential ds || ["inf".toList, "nan".toList].contains
      (unsignedWord low) then
    match Binary64.ofText? (String.ofList bare) with
    | some x => .float x
    | none => .str (String.ofList cs)
  else .str (String.ofList cs)

/-- What letters are; there has to be one that is no blank. -/
def lettersValue? (ls : List Letter) : Option Value :=
  let ls := trimLetters ls
  let cs := ls.map (·.1)
  if ls.isEmpty then none
  else if ls.any (·.2) then some (.str (String.ofList cs))
  else some (wordValue cs)

/-! ## Texts in quotes -/

/-- The rest of a text in quotes, and what follows it.  `slashes` counts the backslashes directly
before; only before a quote do two of them count as one, and a single one takes the quote in. -/
def quotedRest (q : Char) (slashes : Nat) (held : List Char) :
    List Char → Option (String × List Char)
  | [] => none
  | '\\' :: r => quotedRest q (slashes + 1) held r
  | c :: r =>
    if c = q then
      let held := List.replicate (slashes / 2) '\\' ++ held
      if slashes % 2 = 0 then some (String.ofList held.reverse, r)
      else quotedRest q 0 (q :: held) r
    else quotedRest q 0 (c :: (List.replicate slashes '\\' ++ held)) r

/-! ## Values -/

/-- A text without blanks in front. -/
def skipBlanks (cs : List Char) : List Char := cs.dropWhile fun c ↦ c == ' ' || c == '\t'

mutual

/-- The value at the front of a text, and what follows it. -/
def element : Nat → List Char → Option (Value × List Char)
  | 0, _ => none
  | fuel + 1, cs =>
    match cs with
    | '\'' :: r => (quotedRest '\'' 0 [] r).map fun (s, t) ↦ (.str s, t)
    | '"' :: r => (quotedRest '"' 0 [] r).map fun (s, t) ↦ (.str s, t)
    | '[' :: r =>
      match skipBlanks r with
      | ']' :: s => some (.list [], s)
      | s => (items fuel s).map fun (vs, t) ↦ (.list vs, t)
    | '{' :: r =>
      match skipBlanks r with
      | '}' :: s => some (.map [], s)
      | s => (fields fuel s).map fun (fs, t) ↦ (.map fs, t)
    | cs =>
      let (ls, r) := letters false cs
      (lettersValue? ls).map fun v ↦ (v, r)

/-- The members of a list up to its end. -/
def items : Nat → List Char → Option (List Value × List Char)
  | 0, _ => none
  | fuel + 1, cs => do
    let (v, r) ← element fuel cs
    match skipBlanks r with
    | ',' :: s => (items fuel (skipBlanks s)).map fun (vs, t) ↦ (v :: vs, t)
    | ']' :: s => some ([v], s)
    | _ => none

/-- The fields of a record up to its end. -/
def fields : Nat → List Char → Option (List (String × Value) × List Char)
  | 0, _ => none
  | fuel + 1, cs => do
    let (ls, r) := letters true cs
    let name ← lettersValue? ls
    match skipBlanks r with
    | ':' :: s =>
      let (v, t) ← element fuel (skipBlanks s)
      match skipBlanks t with
      | ',' :: u => (fields fuel (skipBlanks u)).map fun (fs, w) ↦ ((name.plain, v) :: fs, w)
      | '}' :: u => some ([(name.plain, v)], u)
      | _ => none
    | _ => none

end

/-- The value a whole text stands for; an empty one is an empty text. -/
def value? (cs : List Char) : Option Value :=
  if cs.isEmpty then some (.str "")
  else match element (2 * cs.length + 2) cs with
    | some (v, []) => some v
    | _ => none

/-- A setting as it is written. -/
def ofText? (s : String) : Option Override := do
  let (manner, cs) := mannerOf s.toList
  let front := cs.takeWhile (· != '=')
  match cs.drop front.length with
  | _ :: r => some ⟨manner, ← path? front, ← value? r⟩
  | [] => none

end Override
end TexWeave
