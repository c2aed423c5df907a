import Mathlib.Data.Nat.Digits.Defs
import Mathlib.Tactic.Ring
import TexWeave.Number.Digits

/-!
# Integers in six digits

A number of the format binary64 that is an integer is written with the first six digits of that
integer, rounded.  The integer alone decides about them: it does not matter with which significand
and exponent the format holds it.

* `sixDigits` — a natural number rounded to six digits.
* `sixDigits_eq_self_iff` — which numbers are written with all their digits.
* `IsRatio`, `roundedDigits_of_isRatio` — a fraction that is an integer, and its digits.
* `Holds`, `exists_ofInt_eq` — integers that the format holds exactly, and how it does.
-/

set_option autoImplicit false

namespace TexWeave

/-! ## Rounding -/

theorem roundDiv_mul_right {n d c : Nat} (hc : 0 < c) :
    roundDiv (n * c) (d * c) = roundDiv n d := by
  have hr : 2 * (n % d * c) = 2 * (n % d) * c := (Nat.mul_assoc ..).symm
  rw [roundDiv, roundDiv, Nat.mul_div_mul_right n d hc, Nat.mul_mod_mul_right, hr]
  simp only [Nat.mul_lt_mul_right hc]

theorem roundDiv_mul_self {n d : Nat} (hd : 0 < d) : roundDiv (n * d) d = n := by
  rw [roundDiv, Nat.mul_mod_left, Nat.mul_div_cancel n hd, Nat.mul_zero, if_pos hd]

theorem roundDiv_one (n : Nat) : roundDiv n 1 = n := by
  conv_lhs => rw [← Nat.mul_one n]
  exact roundDiv_mul_self Nat.one_pos

theorem div_le_roundDiv (n d : Nat) : n / d ≤ roundDiv n d := by
  rw [roundDiv]
  split_ifs <;> omega

theorem roundDiv_le (n d : Nat) : roundDiv n d ≤ n / d + 1 := by
  rw [roundDiv]
  split_ifs <;> omega

/-! ## The number of digits -/

theorem decimalLength_pos (n : Nat) : 0 < decimalLength n := Nat.length_toDigits_pos

theorem decimalLength_le_iff {n k : Nat} (hk : 0 < k) : decimalLength n ≤ k ↔ n < 10 ^ k :=
  Nat.length_toDigits_le_iff (by decide) hk

theorem lt_pow_decimalLength (n : Nat) : n < 10 ^ decimalLength n :=
  (decimalLength_le_iff (decimalLength_pos n)).1 (Nat.le_refl _)

theorem pow_le_of_lt_decimalLength {n k : Nat} (hn : 0 < n) (hk : k < decimalLength n) :
    10 ^ k ≤ n := by
  rcases Nat.eq_zero_or_pos k with rfl | hpos
  · rwa [Nat.pow_zero]
  · rw [← Nat.not_lt, ← decimalLength_le_iff hpos]
    omega

theorem lt_decimalLength_iff {n k : Nat} (hn : 0 < n) : k < decimalLength n ↔ 10 ^ k ≤ n := by
  refine ⟨pow_le_of_lt_decimalLength hn, fun h ↦ ?_⟩
  rw [← Nat.not_le]
  intro hle
  exact absurd (lt_pow_decimalLength n) (Nat.not_lt.2
    ((Nat.pow_le_pow_right (by decide) hle).trans h))

/-- A product has as many digits as its factors together, or one less. -/
theorem decimalLength_mul {m n : Nat} (hm : 0 < m) (hn : 0 < n) :
    decimalLength m + decimalLength n ≤ decimalLength (m * n) + 1
      ∧ decimalLength (m * n) ≤ decimalLength m + decimalLength n := by
  have hmpos := decimalLength_pos m
  have hnpos := decimalLength_pos n
  constructor
  · have hle : 10 ^ (decimalLength m - 1 + (decimalLength n - 1)) ≤ m * n := by
      rw [Nat.pow_add]
      exact Nat.mul_le_mul (pow_le_of_lt_decimalLength hm (by omega))
        (pow_le_of_lt_decimalLength hn (by omega))
    have hlt := (lt_decimalLength_iff (Nat.mul_pos hm hn)).2 hle
    omega
  · rw [decimalLength_le_iff (by omega), Nat.pow_add]
    exact Nat.mul_lt_mul'' (lt_pow_decimalLength m) (lt_pow_decimalLength n)

/-! ## Six digits -/

/-- How many digits of a number come behind the first six. -/
def digitsBehind (n : Nat) : Nat := decimalLength n - 6

/-- A number rounded to its first six digits, a half to the even side. -/
def sixDigits (n : Nat) : Nat := roundDiv n (10 ^ digitsBehind n) * 10 ^ digitsBehind n

/-- **Which numbers are as they are rounded**: those with at most six digits in front of their
zeros. -/
theorem sixDigits_eq_self_iff {n : Nat} :
    sixDigits n = n ↔ ∃ m k, m < 10 ^ 6 ∧ n = m * 10 ^ k := by
  have hpos : 0 < 10 ^ digitsBehind n := Nat.pow_pos (by decide)
  constructor
  · intro h
    have hdvd : 10 ^ digitsBehind n ∣ n := ⟨_, h.symm.trans (Nat.mul_comm _ _)⟩
    refine ⟨n / 10 ^ digitsBehind n, digitsBehind n, ?_, (Nat.div_mul_cancel hdvd).symm⟩
    rw [Nat.div_lt_iff_lt_mul hpos, ← Nat.pow_add]
    refine (lt_pow_decimalLength n).trans_le (Nat.pow_le_pow_right (by decide) ?_)
    rw [digitsBehind]
    omega
  · rintro ⟨m, k, hm, hn⟩
    have hle : digitsBehind n ≤ k := by
      have hlength : decimalLength n ≤ 6 + k := by
        rw [decimalLength_le_iff (by omega), Nat.pow_add, hn]
        exact Nat.mul_lt_mul_of_pos_right hm (Nat.pow_pos (by decide))
      rw [digitsBehind]
      omega
    have hsplit : n = m * 10 ^ (k - digitsBehind n) * 10 ^ digitsBehind n := by
      rw [Nat.mul_assoc, ← Nat.pow_add, Nat.sub_add_cancel hle]
      exact hn
    rw [sixDigits]
    generalize digitsBehind n = j at hsplit hpos
    rw [hsplit, roundDiv_mul_self hpos]

namespace Binary64

/-! ## Fractions that are integers -/

/-- The fraction `num / den` is the integer `n`. -/
structure IsRatio (n num den : Nat) : Prop where
  den_pos : 0 < den
  num_eq : num = n * den

section

variable {n num den : Nat}

theorem leadingExponent_of_isRatio (h : IsRatio n num den) (hn : 0 < n) :
    leadingExponent num den = (decimalLength n : Int) - 1 := by
  obtain ⟨hden, rfl⟩ := h
  have hlength := decimalLength_mul hn hden
  have hpos := decimalLength_pos n
  -- The guess is the number of digits of `n`, or one less; the test tells which of the two.
  have hreach {k : Nat} : den * 10 ^ k ≤ n * den ↔ k < decimalLength n := by
    rw [Nat.mul_comm den, Nat.mul_le_mul_right_iff hden, lt_decimalLength_iff hn]
  have hguess : 0 ≤ (decimalLength (n * den) : Int) - decimalLength den := by omega
  rw [leadingExponent]
  simp only [if_pos hguess, Nat.pow_eq, hreach]
  split_ifs <;> omega

/-- **The six digits of an integer**, with the exponent of the first. -/
theorem roundedDigits_of_isRatio (h : IsRatio n num den) (hn : 0 < n) :
    ∃ q x : Nat, roundedDigits 6 num den = (q, (x : Int)) ∧ 10 ^ 5 ≤ q ∧ q < 10 ^ 6
      ∧ (x < 6 → decimalLength n = x + 1 ∧ q = n * 10 ^ (5 - x))
      ∧ sixDigits n * 10 ^ 5 = q * 10 ^ x := by
  have hx := leadingExponent_of_isRatio h hn
  obtain ⟨hden, rfl⟩ := h
  have hpos := decimalLength_pos n
  rw [roundedDigits, hx]
  dsimp only
  rcases Nat.lt_or_ge 6 (decimalLength n) with hmany | hfew
  · have hbehind : digitsBehind n = decimalLength n - 6 := rfl
    have hk : 0 < digitsBehind n := by omega
    have hscale : scaleDecimal (n * den) den (((6 : Nat) : Int) - 1 - ((decimalLength n : Int) - 1))
        = (n * den, 10 ^ digitsBehind n * den) := by
      rw [scaleDecimal, if_neg (by omega)]
      have hneg : (-(((6 : Nat) : Int) - 1 - ((decimalLength n : Int) - 1))).toNat
        = digitsBehind n := by omega
      rw [hneg, Nat.pow_eq, Nat.mul_comm den]
    have hlow : 10 ^ 5 ≤ n / 10 ^ digitsBehind n := by
      rw [Nat.le_div_iff_mul_le (Nat.pow_pos (by decide)), ← Nat.pow_add]
      exact pow_le_of_lt_decimalLength hn (by omega)
    have hhigh : n / 10 ^ digitsBehind n < 10 ^ 6 := by
      rw [Nat.div_lt_iff_lt_mul (Nat.pow_pos (by decide)), ← Nat.pow_add]
      exact (lt_pow_decimalLength n).trans_le (Nat.pow_le_pow_right (by decide) (by omega))
    have hround := div_le_roundDiv n (10 ^ digitsBehind n)
    have hround' := roundDiv_le n (10 ^ digitsBehind n)
    have hsix : sixDigits n = roundDiv n (10 ^ digitsBehind n) * 10 ^ digitsBehind n := rfl
    have hlength : decimalLength n = digitsBehind n + 6 := by omega
    rw [hscale]
    simp only [roundDiv_mul_right hden, Nat.pow_eq]
    generalize roundDiv n (10 ^ digitsBehind n) = q at hround hround' hsix
    split_ifs with hq
    · refine ⟨10 ^ 5, digitsBehind n + 6, ?_, Nat.le_refl _, by decide, by omega, ?_⟩
      · rw [hlength]
        refine Prod.ext rfl ?_
        dsimp only
        omega
      · rw [hsix, hq]
        ring
    · refine ⟨q, digitsBehind n + 5, ?_, by omega, by omega, by omega, ?_⟩
      · rw [hlength]
        refine Prod.ext rfl ?_
        dsimp only
        omega
      · rw [hsix]
        ring
  · have hscale : scaleDecimal (n * den) den (((6 : Nat) : Int) - 1 - ((decimalLength n : Int) - 1))
        = (n * 10 ^ (6 - decimalLength n) * den, den) := by
      rw [scaleDecimal, if_pos (by omega)]
      have hpower : (((6 : Nat) : Int) - 1 - ((decimalLength n : Int) - 1)).toNat
        = 6 - decimalLength n := by omega
      rw [hpower, Nat.pow_eq, Nat.mul_right_comm]
    have hlow : 10 ^ 5 ≤ n * 10 ^ (6 - decimalLength n) := by
      calc 10 ^ 5 = 10 ^ (decimalLength n - 1) * 10 ^ (6 - decimalLength n) := by
            rw [← Nat.pow_add]
            congr 1
            omega
        _ ≤ n * 10 ^ (6 - decimalLength n) :=
            Nat.mul_le_mul_right _ (pow_le_of_lt_decimalLength hn (by omega))
    have hhigh : n * 10 ^ (6 - decimalLength n) < 10 ^ 6 := by
      calc n * 10 ^ (6 - decimalLength n)
          < 10 ^ decimalLength n * 10 ^ (6 - decimalLength n) :=
            Nat.mul_lt_mul_of_pos_right (lt_pow_decimalLength n) (Nat.pow_pos (by decide))
        _ = 10 ^ 6 := by
            rw [← Nat.pow_add]
            congr 1
            omega
    have hsix : sixDigits n = n := by
      have hbehind : digitsBehind n = 0 := Nat.sub_eq_zero_of_le hfew
      rw [sixDigits, hbehind, Nat.pow_zero, Nat.mul_one, roundDiv_one]
    rw [hscale]
    simp only [roundDiv_mul_self hden, Nat.pow_eq, if_neg (Nat.ne_of_lt hhigh)]
    refine ⟨n * 10 ^ (6 - decimalLength n), decimalLength n - 1, ?_, hlow, hhigh, fun _ ↦ ?_, ?_⟩
    · refine Prod.ext rfl ?_
      dsimp only
      omega
    · refine ⟨by omega, ?_⟩
      congr 2
      omega
    · rw [hsix, Nat.mul_assoc, ← Nat.pow_add]
      congr 2
      omega

end

/-! ## Integers of the format -/

/-- The format holds the integer exactly: it has a significand of at most 53 binary digits behind
which only zeros come. -/
def Holds (n : Int) : Prop := ∃ m k, m < 2 ^ 53 ∧ k ≤ 971 ∧ n.natAbs = m * 2 ^ k

theorem holds_of_lt {n : Int} (h : n.natAbs < 2 ^ 53) : Holds n :=
  ⟨n.natAbs, 0, h, by decide, by rw [Nat.pow_zero, Nat.mul_one]⟩

theorem ratio_den_pos (m : Nat) (e : Int) : 0 < (ratio m e).2 := by
  rw [ratio, scaleBinary]
  split_ifs
  · exact Nat.one_pos
  · exact Nat.mul_pos Nat.one_pos (Nat.pow_pos (by decide))

/-- The scale of a significand of 53 binary digits, and that significand. -/
theorem ofRatio_of_scale {n d m : Nat} {e : Int} (negative : Bool) (hn : n ≠ 0)
    (he : (Nat.log2 n : Int) - 52 = e) (hlow : -1074 ≤ e) (hhigh : e ≤ 971)
    (hscale : scaleBinary n 1 (-e) = (m * d, d)) (hd : 0 < d) (hm : 2 ^ 52 ≤ m) (hm' : m < 2 ^ 53) :
    ofRatio negative n 1 = .finite negative m e := by
  have hguess : (Nat.log2 n : Int) - (Nat.log2 1 : Int) - 52 = e := by
    rw [← he]
    exact congrArg (· - 52) (Int.sub_zero _)
  rw [ofRatio, if_neg (by omega)]
  -- The two powers are named, so that they are not computed when the cases are told apart.
  obtain ⟨low, hlowest⟩ : ∃ low, Nat.pow 2 52 = low := ⟨_, rfl⟩
  obtain ⟨high, hhighest⟩ : ∃ high, Nat.pow 2 53 = high := ⟨_, rfl⟩
  rw [← Nat.pow_eq, hlowest] at hm
  rw [← Nat.pow_eq, hhighest] at hm'
  have hexact : ¬ m * d < d * low := by
    rw [Nat.not_lt, Nat.mul_comm]
    exact Nat.mul_le_mul_right d hm
  rw [hlowest, hhighest]
  simp only [hguess, hscale, if_neg hexact, max_eq_left hlow, roundDiv_mul_self hd,
    if_neg (Nat.ne_of_lt hm'), if_neg (Int.not_lt.2 hhigh)]

/-- A natural number that the format holds is read as itself. -/
theorem exists_ofRatio_eq {n m k : Nat} (negative : Bool) (hn : 0 < n) (hm : m < 2 ^ 53)
    (hk : k ≤ 971) (hnm : n = m * 2 ^ k) : ∃ m' e, ofRatio negative n 1 = .finite negative m' e
      ∧ IsRatio n (ratio m' e).1 (ratio m' e).2 := by
  have hlow : 2 ^ Nat.log2 n ≤ n := Nat.log2_self_le (by omega)
  have hhigh : n < 2 ^ (Nat.log2 n + 1) := Nat.lt_log2_self
  rcases Nat.lt_or_ge (Nat.log2 n) 52 with hsmall | hlarge
  · obtain ⟨p, hp⟩ : ∃ p, 52 = Nat.log2 n + p := ⟨52 - Nat.log2 n, by omega⟩
    have hscale : scaleBinary n 1 (-(-(p : Int))) = (n * 2 ^ p * 1, 1) := by
      rw [scaleBinary, Int.neg_neg, if_pos (by omega), Int.toNat_natCast, Nat.pow_eq, Nat.mul_one]
    refine ⟨n * 2 ^ p, -(p : Int), ofRatio_of_scale negative (by omega) (by omega) (by omega)
      (by omega) hscale Nat.one_pos ?_ ?_, ratio_den_pos _ _, ?_⟩
    · rw [hp, Nat.pow_add]
      exact Nat.mul_le_mul_right _ hlow
    · have hp' : 53 = Nat.log2 n + 1 + p := by omega
      rw [hp', Nat.pow_add]
      exact Nat.mul_lt_mul_of_pos_right hhigh (Nat.pow_pos (by decide))
    · rw [ratio, scaleBinary, if_neg (by omega), Int.neg_neg, Int.toNat_natCast, Nat.pow_eq,
        Nat.one_mul]
  · obtain ⟨p, hp⟩ : ∃ p, Nat.log2 n = 52 + p := ⟨Nat.log2 n - 52, by omega⟩
    rw [hp] at hlow hhigh
    have hpk : p ≤ k := by
      have hlt : 2 ^ (52 + p) < 2 ^ (53 + k) := by
        refine hlow.trans_lt ?_
        rw [hnm, Nat.pow_add]
        exact Nat.mul_lt_mul_of_pos_right hm (Nat.pow_pos (by decide))
      have hexponent := (Nat.pow_lt_pow_iff_right (by decide)).1 hlt
      omega
    have hsplit : n = m * 2 ^ (k - p) * 2 ^ p := by
      rw [Nat.mul_assoc, ← Nat.pow_add, Nat.sub_add_cancel hpk, hnm]
    have hscale : scaleBinary n 1 (-(p : Int)) = (m * 2 ^ (k - p) * 2 ^ p, 2 ^ p) := by
      rw [← hsplit, scaleBinary]
      split_ifs with hzero
      · obtain rfl : p = 0 := by omega
        simp
      · rw [Int.neg_neg, Int.toNat_natCast, Nat.pow_eq, Nat.one_mul]
    rw [hsplit, Nat.pow_add] at hlow
    rw [hsplit, Nat.add_right_comm, Nat.pow_add] at hhigh
    have hpos : 0 < 2 ^ p := Nat.pow_pos (by decide)
    refine ⟨m * 2 ^ (k - p), (p : Int), ofRatio_of_scale negative (by omega) (by omega) (by omega)
      (by omega) hscale hpos (Nat.le_of_mul_le_mul_right hlow hpos)
      (Nat.lt_of_mul_lt_mul_right hhigh), ratio_den_pos _ _, ?_⟩
    rw [ratio, scaleBinary, if_pos (by omega), Int.toNat_natCast, Nat.pow_eq, Nat.mul_one]
    exact hsplit.symm

/-- **How the format holds an integer**: by its sign and a fraction that is its magnitude. -/
theorem exists_ofInt_eq {n : Int} (h : Holds n) : ∃ m e, ofInt n = .finite (n < 0) m e
    ∧ IsRatio n.natAbs (ratio m e).1 (ratio m e).2 := by
  obtain ⟨m, k, hm, hk, hn⟩ := h
  rcases Nat.eq_zero_or_pos n.natAbs with hzero | hpos
  · obtain rfl := Int.natAbs_eq_zero.1 hzero
    exact ⟨0, 0, rfl, by decide, by decide⟩
  · exact exists_ofRatio_eq _ hpos hm hk hn

/-- A number of the format that is an integer is a fraction that is its magnitude. -/
theorem isRatio_of_toInt? {negative : Bool} {m : Nat} {e : Int} {n : Int}
    (h : (Binary64.finite negative m e).toInt? = some n) :
    IsRatio n.natAbs (ratio m e).1 (ratio m e).2
      ∧ n = if negative then -(n.natAbs : Int) else n.natAbs := by
  rw [toInt?] at h
  dsimp only at h
  split at h
  · next hdvd =>
    have hq : (ratio m e).1 = (ratio m e).1 / (ratio m e).2 * (ratio m e).2 :=
      (Nat.div_mul_cancel (Nat.dvd_of_mod_eq_zero hdvd)).symm
    generalize (ratio m e).1 / (ratio m e).2 = q at h hq
    have habs : n.natAbs = q ∧ n = if negative then -(q : Int) else q := by
      rw [← Option.some.inj h]
      cases negative <;> simp
    exact ⟨⟨ratio_den_pos m e, by rw [habs.1, hq]⟩, by rw [habs.1]; exact habs.2⟩
  · cases h

end Binary64

end TexWeave
