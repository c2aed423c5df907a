import TexWeave.Text.NormalFormTable

/-!
# Compatibility normalisation of identifiers

Two spellings of an identifier are the same name when their normalisation forms KC agree, so that
a ligature names the same thing as its letters.  `compat` computes the form: decompose, put marks
into canonical order, compose again.
-/

set_option autoImplicit false

namespace TexWeave
namespace Text

/-- An interval of code points with what it maps to. -/
structure Spread where
  first : Nat
  last : Nat
  target : List Nat

/-- Reads a list written as `AA:61 B2-B3:32`. -/
def spreadsOfText (s : String) : Array Spread :=
  (entries s).toArray.filterMap fun w ↦
    match fields (· == ':') w with
    | [range, t] =>
      let target := (fields (· == ',') t).filterMap hexValue?
      match (fields (· == '-') range).map hexValue? with
      | [some a] => some ⟨a, a, target⟩
      | [some a, some b] => some ⟨a, b, target⟩
      | _ => none
    | _ => none

/-- Bisection for the interval that holds a code point. -/
def findSpread (t : Array Spread) (n lo hi : Nat) : Option Spread :=
  if lo < hi then
    let mid := (lo + hi) / 2
    match t[mid]? with
    | none => none
    | some s =>
      if n < s.first then findSpread t n lo mid
      else if s.last < n then findSpread t n (mid + 1) hi
      else some s
  else none
termination_by hi - lo

/-- The decompositions. -/
def decompositionTable : Array Spread := spreadsOfText decompositionText

/-- The combining classes. -/
def combiningClassTable : Array Spread := spreadsOfText combiningClassText

/-- The compositions, as first character, second character, result. -/
def compositionTable : List (Nat × Nat × Nat) :=
  (entries compositionText).filterMap fun w ↦
    match (fields (fun c ↦ c == ',' || c == ':') w).map hexValue? with
    | [some a, some b, some c] => some (a, b, c)
    | _ => none

/-! ## Hangul

Syllables are built from a leading consonant, a vowel and an optional trailing consonant by
arithmetic on their code points. -/

def hangulFirst : Nat := 0xAC00
def hangulCount : Nat := 11172

/-- The letters of a syllable. -/
def hangulLetters (n : Nat) : List Nat :=
  let i := n - hangulFirst
  let t := i % 28
  [0x1100 + i / 588, 0x1161 + i % 588 / 28] ++ (if t = 0 then [] else [0x11A7 + t])

/-- The syllable two letters, or a syllable and a letter, make. -/
def hangulSyllable? (a b : Nat) : Option Nat :=
  if 0x1100 ≤ a ∧ a < 0x1113 ∧ 0x1161 ≤ b ∧ b < 0x1176 then
    some (hangulFirst + ((a - 0x1100) * 21 + (b - 0x1161)) * 28)
  else if hangulFirst ≤ a ∧ a < hangulFirst + hangulCount ∧ (a - hangulFirst) % 28 = 0
      ∧ 0x11A7 < b ∧ b < 0x11C3 then
    some (a + (b - 0x11A7))
  else none

/-! ## The three steps -/

/-- The full decomposition of a code point. -/
def decompose (n : Nat) : List Nat :=
  if n < 128 then [n]
  else if hangulFirst ≤ n ∧ n < hangulFirst + hangulCount then hangulLetters n
  else match findSpread decompositionTable n 0 decompositionTable.size with
    | none => [n]
    | some s => if s.first = s.last then s.target else s.target.map (· + (n - s.first))

/-- The combining class of a code point; zero for characters that do not combine. -/
def combiningClass (n : Nat) : Nat :=
  if n < 128 then 0
  else match findSpread combiningClassTable n 0 combiningClassTable.size with
    | none => 0
    | some s => s.target.headD 0

/-- Puts a mark behind the marks of lower or equal class that are waiting. -/
def insertMark (m : Nat) : List Nat → List Nat
  | [] => [m]
  | x :: r => if combiningClass x ≤ combiningClass m then x :: insertMark m r else m :: x :: r

/-- Canonical order, with the marks waiting since the last character that does not combine. -/
def orderMarks (waiting : List Nat) : List Nat → List Nat
  | [] => waiting
  | n :: r =>
    if combiningClass n = 0 then waiting ++ n :: orderMarks [] r
    else orderMarks (insertMark n waiting) r

/-- The character that two make together. -/
def composePair? (a b : Nat) : Option Nat :=
  match hangulSyllable? a b with
  | some n => some n
  | none => (compositionTable.find? fun t ↦ t.1 == a && t.2.1 == b).map (·.2.2)

/-- Composition: `base` is the character that may still grow, `held` the marks kept after it, and
`last` the class of the latest of them. -/
def composeFrom (base : Nat) (held : List Nat) (last : Nat) : List Nat → List Nat
  | [] => base :: held
  | n :: r =>
    let k := combiningClass n
    let blocked := !held.isEmpty && (last == 0 || last ≥ k)
    match if blocked then none else composePair? base n with
    | some m => composeFrom m held last r
    | none =>
      if k = 0 then base :: held ++ composeFrom n [] 0 r
      else composeFrom base (held ++ [n]) k r

/-- Composition of a decomposed text; marks before the first base character stay as they are. -/
def composeAll : List Nat → List Nat
  | [] => []
  | n :: r => if combiningClass n = 0 then composeFrom n [] 0 r else n :: composeAll r

/-- Normalisation form KC. -/
def compat (s : String) : String :=
  if s.toList.all (·.toNat < 128) then s
  else
    let decomposed := s.toList.flatMap fun c ↦ decompose c.toNat
    String.ofList ((composeAll (orderMarks [] decomposed)).map Char.ofNat)

end Text
end TexWeave
