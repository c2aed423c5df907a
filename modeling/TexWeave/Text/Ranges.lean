/-!
# Sets of characters, written as intervals

A property of characters that a standard fixes by listing code points is kept here as a sorted
array of disjoint intervals.  The interval lists themselves stand in the modules that name the
property; this file has the container.

* `CharRanges.ofText` reads the compact notation the lists are written in: hexadecimal code
  points separated by blanks, two of them joined by `-` for an interval.
* `CharRanges.contains` looks a character up by bisection.
-/

set_option autoImplicit false

namespace TexWeave
namespace Text

/-- Disjoint intervals of code points, in increasing order. -/
structure CharRanges where
  bounds : Array (Nat × Nat)

/-- The value of a hexadecimal digit; every other character counts as nothing. -/
def hexDigit? (c : Char) : Option Nat :=
  if '0' ≤ c ∧ c ≤ '9' then some (c.toNat - '0'.toNat)
  else if 'A' ≤ c ∧ c ≤ 'F' then some (c.toNat - 'A'.toNat + 10)
  else if 'a' ≤ c ∧ c ≤ 'f' then some (c.toNat - 'a'.toNat + 10)
  else none

/-- The number that hexadecimal digits spell, if there is at least one and nothing else. -/
def hexValue? (cs : List Char) : Option Nat :=
  if cs.isEmpty then none
  else cs.foldl (fun acc c ↦ acc.bind fun n ↦ (hexDigit? c).map (n * 16 + ·)) (some 0)

/-- The pieces of a text between characters that satisfy `p`, empty pieces left out. -/
def fields (p : Char → Bool) (cs : List Char) : List (List Char) :=
  let step (c : Char) (acc : List Char × List (List Char)) :=
    if p c then ([], if acc.1.isEmpty then acc.2 else acc.1 :: acc.2) else (c :: acc.1, acc.2)
  let (first, rest) := cs.foldr step ([], [])
  if first.isEmpty then rest else first :: rest

/-- The entries of a table, which spaces and line feeds separate. -/
def entries (s : String) : List (List Char) := fields (fun c ↦ c == ' ' || c == '\n') s.toList

namespace CharRanges

/-- Reads intervals written as `41-5A 5F`. -/
def ofText (s : String) : CharRanges where
  bounds := (entries s).toArray.filterMap fun w ↦
    match (fields (· == '-') w).map hexValue? with
    | [some lo] => some (lo, lo)
    | [some lo, some hi] => some (lo, hi)
    | _ => none

/-- Bisection between the positions `lo` and `hi`. -/
def search (bounds : Array (Nat × Nat)) (n : Nat) (lo hi : Nat) : Option (Nat × Nat) :=
  if lo < hi then
    let mid := (lo + hi) / 2
    match bounds[mid]? with
    | none => none
    | some b =>
      if n < b.1 then search bounds n lo mid
      else if b.2 < n then search bounds n (mid + 1) hi
      else some b
  else none
termination_by hi - lo

/-- The interval that holds a code point. -/
def find? (t : CharRanges) (n : Nat) : Option (Nat × Nat) :=
  search t.bounds n 0 t.bounds.size

/-- Whether the character lies in one of the intervals. -/
def contains (t : CharRanges) (c : Char) : Bool :=
  (t.find? c.toNat).isSome

end CharRanges

end Text
end TexWeave
