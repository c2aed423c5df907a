import TexWeave.Text.CaseTable

/-!
# Upper and lower case

Full case mapping after Unicode: a letter may become several (`ß` in upper case is `SS`), and a
capital sigma at the end of a word has a lower case of its own.

* `upperChar`, `lower` — the mappings.
* `isAllUpper` — at least one letter with case, and none of it lower or title case.
-/

set_option autoImplicit false

namespace TexWeave
namespace Text

/-- A stretch of code points whose case partner lies at a fixed distance. -/
structure CaseShift where
  first : Nat
  last : Nat
  everySecond : Bool
  distance : Int

namespace CaseShift

/-- Reads one stretch written as `100-12E/2+1`. -/
def ofText? (w : List Char) : Option CaseShift :=
  let range := w.takeWhile fun c ↦ c == '-' || (hexDigit? c).isSome
  match fields (· == '-') range, w.drop range.length with
  | [lo, hi], rest => build lo hi rest
  | [lo, hi, d], [] => (hexValue? d).bind fun n ↦ mk' lo hi false (-(n : Int))
  | _, _ => none
where
  /-- A stretch whose bounds are still digits. -/
  mk' (lo hi : List Char) (second : Bool) (d : Int) : Option CaseShift :=
    (hexValue? lo).bind fun a ↦ (hexValue? hi).map fun b ↦ ⟨a, b, second, d⟩
  /-- What follows the bounds. -/
  build (lo hi rest : List Char) : Option CaseShift :=
    match rest with
    | '+' :: d => (hexValue? d).bind fun n ↦ mk' lo hi false n
    | '/' :: '2' :: '+' :: d => (hexValue? d).bind fun n ↦ mk' lo hi true n
    | '/' :: '2' :: '-' :: d => (hexValue? d).bind fun n ↦ mk' lo hi true (-(n : Int))
    | _ => none

/-- Reads a list of stretches. -/
def listOfText (s : String) : List CaseShift :=
  (entries s).filterMap ofText?

/-- Where the stretch takes the code point, if it covers it. -/
def shift? (s : CaseShift) (n : Nat) : Option Nat :=
  if s.first ≤ n ∧ n ≤ s.last ∧ (!s.everySecond || (n - s.first) % 2 == 0) then
    some ((n : Int) + s.distance).toNat
  else none

end CaseShift

/-- Reads a list of expansions written as `DF:53,53`. -/
def expansionsOfText (s : String) : List (Nat × List Char) :=
  (entries s).filterMap fun w ↦
    match fields (· == ':') w with
    | [c, k] => (hexValue? c).map fun n ↦
        (n, (fields (· == ',') k).filterMap fun d ↦ (hexValue? d).map Char.ofNat)
    | _ => none

/-- Stretches that go to upper case. -/
def upperShiftList : List CaseShift := CaseShift.listOfText upperShifts

/-- Stretches that go to lower case. -/
def lowerShiftList : List CaseShift := CaseShift.listOfText lowerShifts

/-- Characters with a longer upper case. -/
def upperExpansionList : List (Nat × List Char) := expansionsOfText upperExpansions

/-- The upper case of a character. -/
def upperChar (c : Char) : List Char :=
  if c.toNat < 128 then [c.toUpper]
  else match upperExpansionList.find? (·.1 == c.toNat) with
    | some e => e.2
    | none => [Char.ofNat ((upperShiftList.findSome? (·.shift? c.toNat)).getD c.toNat)]

/-- The lower case of a character, its place in a word apart. -/
def lowerChar (c : Char) : List Char :=
  if c.toNat < 128 then [c.toLower]
  else if c.toNat = 0x130 then ['i', '\u0307']
  else [Char.ofNat ((lowerShiftList.findSome? (·.shift? c.toNat)).getD c.toNat)]

/-- Whether a character is a lower-case letter. -/
def isLowerChar (c : Char) : Bool :=
  if c.toNat < 128 then c.isLower else lowercaseRanges.contains c

/-- Whether a character is an upper-case letter. -/
def isUpperChar (c : Char) : Bool :=
  if c.toNat < 128 then c.isUpper else uppercaseRanges.contains c

/-- Whether a character is a title-case letter. -/
def isTitleChar (c : Char) : Bool := titlecaseRanges.contains c

/-- Whether a character has case at all. -/
def isCased (c : Char) : Bool := isLowerChar c || isUpperChar c || isTitleChar c

/-- Whether a character is passed over when the place of a sigma is judged. -/
def isCaseIgnorable (c : Char) : Bool :=
  if c.toNat < 128 then c == '\'' || c == '.' || c == ':' || c == '^' || c == '\x60'
  else caseIgnorableRanges.contains c

/-- Whether the nearest character that counts has case. -/
def meetsCased (cs : List Char) : Bool :=
  match cs.dropWhile isCaseIgnorable with
  | [] => false
  | c :: _ => isCased c

/-- Lower case, with the characters already passed in `before`, the nearest first. -/
def lowerAfter (before : List Char) : List Char → List Char
  | [] => []
  | c :: r =>
    (if c.toNat = 0x3A3 then
      if meetsCased before && !meetsCased r then ['\u03C2'] else ['\u03C3']
    else lowerChar c) ++ lowerAfter (c :: before) r

/-- A text in lower case. -/
def lower (cs : List Char) : List Char := lowerAfter [] cs

/-- Whether a text has letters with case, all of them upper. -/
def isAllUpper (cs : List Char) : Bool :=
  cs.any isUpperChar && cs.all fun c ↦ !isLowerChar c && !isTitleChar c

end Text
end TexWeave
