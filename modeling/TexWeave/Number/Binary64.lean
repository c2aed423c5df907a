/-!
# Binary floating-point numbers

A number of the IEEE 754 format binary64, kept as sign, integer significand and binary exponent, so
that every operation on it is exact arithmetic of integers.

* `roundDiv` — the quotient of two natural numbers, rounded to nearest, a half to the even side.
* `Binary64.ofRatio` — the number of the format nearest to a fraction.
* `Binary64.ofDecimal` — the same for digits with a power of ten.
-/

set_option autoImplicit false

namespace TexWeave

/-- The integer nearest to `num / den`; a half goes to the even one. -/
def roundDiv (num den : Nat) : Nat :=
  let q := num / den
  let r := num % den
  if 2 * r < den then q
  else if den < 2 * r then q + 1
  else if q % 2 = 0 then q else q + 1

/-- How many decimal digits a number is written with. -/
def decimalLength (n : Nat) : Nat := (Nat.toDigits 10 n).length

/-- A number of the format, `± significand · 2 ^ exponent` when it is finite. -/
inductive Binary64
  | nan
  | infinite (negative : Bool)
  | finite (negative : Bool) (significand : Nat) (exponent : Int)
  deriving DecidableEq, Repr, Inhabited

namespace Binary64

/-- Zero with a sign. -/
def zero (negative : Bool) : Binary64 := .finite negative 0 0

/-- `num / den` times `2 ^ k`, as a fraction. -/
def scaleBinary (num den : Nat) (k : Int) : Nat × Nat :=
  if 0 ≤ k then (num * Nat.pow 2 k.toNat, den) else (num, den * Nat.pow 2 (-k).toNat)

/-- The number of the format nearest to `num / den`. -/
def ofRatio (negative : Bool) (num den : Nat) : Binary64 :=
  if num = 0 ∨ den = 0 then zero negative
  else
    let guess : Int := (Nat.log2 num : Int) - (Nat.log2 den : Int) - 52
    let (n, d) := scaleBinary num den (-guess)
    let exact := if n < d * Nat.pow 2 52 then guess - 1 else guess
    let e := max exact (-1074)
    let (n, d) := scaleBinary num den (-e)
    let m := roundDiv n d
    let (m, e) := if m = Nat.pow 2 53 then (Nat.pow 2 52, e + 1) else (m, e)
    if 971 < e then .infinite negative else .finite negative m e

/-- The number of the format nearest to `digits · 10 ^ exponent`.  The powers that are certainly
too large or too small are settled before any power of ten is formed. -/
def ofDecimal (negative : Bool) (digits : Nat) (exponent : Int) : Binary64 :=
  if digits = 0 then zero negative
  else
    let magnitude := (decimalLength digits : Int) + exponent
    if 400 < magnitude then .infinite negative
    else if magnitude < -400 then zero negative
    else if 0 ≤ exponent then ofRatio negative (digits * Nat.pow 10 exponent.toNat) 1
    else ofRatio negative digits (Nat.pow 10 (-exponent).toNat)

/-- The number of the format nearest to an integer. -/
def ofInt (n : Int) : Binary64 := ofRatio (n < 0) n.natAbs 1

/-- Whether a number is neither infinite nor undefined. -/
def isFinite : Binary64 → Bool
  | .finite .. => true
  | _ => false

/-- Whether a number is zero, of either sign. -/
def isZero : Binary64 → Bool
  | .finite _ m _ => m == 0
  | _ => false

/-- The fraction that a significand and an exponent stand for. -/
def ratio (m : Nat) (e : Int) : Nat × Nat := scaleBinary m 1 e

/-- The integer a number is, if it is one. -/
def toInt? : Binary64 → Option Int
  | .finite negative m e =>
    let (n, d) := ratio m e
    if n % d = 0 then
      let q : Int := (n / d : Nat)
      some (if negative then -q else q)
    else none
  | _ => none

end Binary64

end TexWeave
