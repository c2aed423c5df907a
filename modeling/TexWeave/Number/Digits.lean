import TexWeave.Number.Binary64

/-!
# Decimal text of binary numbers

Two ways to write a number of the format binary64 in decimal.

* `generalText` keeps six significant digits and drops the zeros at the end; it is what plot
  coordinates are written with.
* `shortestText` writes the fewest digits that read back as the same number, and always shows that
  it is not an integer.

Both leave positional notation for large and small magnitudes, at bounds of their own.
-/

set_option autoImplicit false

namespace TexWeave

namespace Binary64

/-- The exponent of the leading decimal digit of a positive fraction. -/
def leadingExponent (num den : Nat) : Int :=
  let guess : Int := (decimalLength num : Int) - (decimalLength den : Int)
  let reaches := if 0 ≤ guess then den * Nat.pow 10 guess.toNat ≤ num
    else den ≤ num * Nat.pow 10 (-guess).toNat
  if reaches then guess else guess - 1

/-- `num / den` times `10 ^ k`, as a fraction. -/
def scaleDecimal (num den : Nat) (k : Int) : Nat × Nat :=
  if 0 ≤ k then (num * Nat.pow 10 k.toNat, den) else (num, den * Nat.pow 10 (-k).toNat)

/-- The first `count` digits of a positive fraction, rounded, with the exponent of the first. -/
def roundedDigits (count : Nat) (num den : Nat) : Nat × Int :=
  let x := leadingExponent num den
  let (n, d) := scaleDecimal num den ((count : Int) - 1 - x)
  let q := roundDiv n d
  if q = Nat.pow 10 count then (Nat.pow 10 (count - 1), x + 1) else (q, x)

/-- Digits without the zeros at their end; a lone zero stays. -/
def dropZeros (ds : List Char) : List Char :=
  (ds.reverse.dropWhile (· == '0')).reverse

/-- An exponent with its sign and at least two digits. -/
def exponentText (x : Int) : List Char :=
  let ds := Nat.toDigits 10 x.natAbs
  (if x < 0 then '-' else '+') :: (if ds.length < 2 then '0' :: ds else ds)

/-- Digits with a point after the first and an exponent. -/
def scientific (ds : List Char) (x : Int) : List Char :=
  match ds with
  | [] => []
  | [d] => d :: 'e' :: exponentText x
  | d :: r => d :: '.' :: r ++ 'e' :: exponentText x

/-- Digits around a point, the first of them worth `10 ^ x`; `whole` is written after the point
when nothing else is. -/
def positional (ds : List Char) (x : Int) (whole : List Char) : List Char :=
  if x < 0 then '0' :: '.' :: List.replicate (-x - 1).toNat '0' ++ ds
  else
    let n := x.toNat + 1
    let padded := ds ++ List.replicate (n - ds.length) '0'
    let tail := padded.drop n
    padded.take n ++ (if tail.isEmpty then whole else '.' :: tail)

/-- The sign in front of a number. -/
def signed (negative : Bool) (cs : List Char) : String :=
  String.ofList (if negative then '-' :: cs else cs)

/-- Six significant digits; positional from `10 ^ -4` to below `10 ^ 6`. -/
def generalText : Binary64 → String
  | .nan => "nan"
  | .infinite negative => signed negative "inf".toList
  | .finite negative m e =>
    if m = 0 then signed negative ['0']
    else
      let (n, d) := ratio m e
      let (q, x) := roundedDigits 6 n d
      let ds := dropZeros (Nat.toDigits 10 q)
      signed negative (if -4 ≤ x ∧ x < 6 then positional ds x [] else scientific ds x)

/-- Of the two decimals with `count` digits around a fraction, the nearer one that reads back as
the number given. -/
def reading? (target : Binary64) (num den : Nat) (x : Int) (count : Nat) : Option Nat :=
  let k := (count : Int) - 1 - x
  let (n, d) := scaleDecimal num den k
  let lo := n / d
  let readsBack (q : Nat) : Bool := decide (ofDecimal false q (-k) = target)
  let nearerLow := 2 * (n % d) < d || (2 * (n % d) = d && lo % 2 = 0)
  let (first, second) := if nearerLow then (lo, lo + 1) else (lo + 1, lo)
  if readsBack first then some first
  else if readsBack second then some second
  else none

/-- The fewest digits, at most seventeen, that read back as the number, with the exponent of the
first of them. -/
def shortestDigits (target : Binary64) (num den : Nat) : List Char × Int :=
  let x := leadingExponent num den
  let found := (List.range 17).findSome? fun i ↦
    (reading? target num den x (i + 1)).map fun q ↦ (Nat.toDigits 10 q, i + 1)
  match found with
  | some (ds, count) => (dropZeros ds, x + ((ds.length : Int) - (count : Int)))
  | none => ([], x)

/-- The fewest digits that read back; positional from `10 ^ -4` to below `10 ^ 16`. -/
def shortestText : Binary64 → String
  | .nan => "nan"
  | .infinite negative => signed negative "inf".toList
  | .finite negative m e =>
    if m = 0 then signed negative "0.0".toList
    else
      let (n, d) := ratio m e
      let (ds, x) := shortestDigits (.finite false m e) n d
      signed negative
        (if -4 ≤ x ∧ x < 16 then positional ds x ['.', '0'] else scientific ds x)

end Binary64

end TexWeave
