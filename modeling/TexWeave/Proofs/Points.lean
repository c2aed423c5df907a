import Mathlib.Algebra.Order.Field.Rat
import Mathlib.Tactic.FieldSimp
import TexWeave.Number.Read
import TexWeave.Plot
import TexWeave.Proofs.Execute
import TexWeave.Proofs.LineNumbers
import TexWeave.Proofs.Rounding

/-!
# Points read back from a plot

The points of a curve stand in its markup as decimal numbers.  Whoever reads the markup finds them
behind the options, which may hold anything that can stand in brackets, and takes each number for
exactly what it says.  For points that are integers this gives their first six digits, rounded.

* `readDecimal?`, `readCoordinates?`, `readPoints?` — a number, the points of a group, and the
  points of a curve, as they are read.
* `exists_coordinateText` — the text of an integer is read as its first six digits.
* `Curve.Charts` — a curve that is given by points which are integers.
* `Curve.readCoordinates?_markup` — what is read back, and when it is what was given.
-/

set_option autoImplicit false

namespace TexWeave

open Text

namespace Text

/-! ## Reading numbers -/

/-- The exact value of digits with a fraction and an exponent. -/
def decimalValue (cs : List Char) : ℚ :=
  let r := cs.dropWhile Char.isDigit
  let (fraction, exponent) := match r with
    | '.' :: s => (s.takeWhile Char.isDigit, s.dropWhile Char.isDigit)
    | _ => ([], r)
  digitsValue (cs.takeWhile Char.isDigit ++ fraction)
    * 10 ^ (Binary64.exponentOf (exponent.drop 1) - fraction.length)

/-- The exact value of a number, which may have a sign in front. -/
def readDecimal? : List Char → Option ℚ
  | '-' :: r => if Binary64.isDecimalText r then some (-decimalValue r) else none
  | cs => if Binary64.isDecimalText cs then some (decimalValue cs) else none

/-! ## Reading points -/

/-- What comes behind a text in brackets, in which a closing bracket may stand between braces. -/
def behindBracket? : Nat → List Char → Option (List Char)
  | _, [] => none
  | depth, c :: r =>
    if c = '\x7b' then behindBracket? (depth + 1) r
    else if c = '\x7d' then if depth = 0 then none else behindBracket? (depth - 1) r
    else if c = ']' ∧ depth = 0 then some r
    else behindBracket? depth r

/-- Whether a text can stand in brackets, when `depth` braces are open in front of it: its braces
are balanced, and every closing bracket stands between braces. -/
def isBracketable : Nat → List Char → Bool
  | depth, [] => depth = 0
  | depth, c :: r =>
    if c = '\x7b' then isBracketable (depth + 1) r
    else if c = '\x7d' then depth ≠ 0 && isBracketable (depth - 1) r
    else !(c = ']' && depth = 0) && isBracketable depth r

/-- Two numbers in parentheses. -/
def readPoint? (cs : List Char) : Option (ℚ × ℚ) :=
  match splitAt ',' cs with
  | ['(' :: x, y] =>
    if y.getLast? = some ')' then do return (← readDecimal? x, ← readDecimal? y.dropLast) else none
  | _ => none

/-- What comes behind options, if there are any. -/
def behindOptions? (r : List Char) : Option (List Char) :=
  if r.head? = some '[' then behindBracket? 0 r.tail else some r

/-- The points in the group of coordinates that comes next. -/
def readCoordinates? (cs : List Char) : Option (List (ℚ × ℚ)) := do
  let r ← after? " coordinates \x7b" cs
  let group := r.takeWhile (· != '\x7d')
  if group.length = r.length then none
  else if group.isEmpty then some []
  else (splitAt ' ' group).mapM readPoint?

/-- The points of a curve, read from its markup. -/
def readPoints? (markup : List Char) : Option (List (ℚ × ℚ)) := do
  let r ← after? "\\addplot" markup
  readCoordinates? (← behindOptions? r)

theorem behindBracket?_append {depth : Nat} {cs : List Char} (h : isBracketable depth cs = true)
    (r : List Char) : behindBracket? depth (cs ++ ']' :: r) = some r := by
  fun_induction isBracketable depth cs with
  | case1 depth =>
    obtain rfl : depth = 0 := by simpa using h
    rfl
  | case2 depth r' ih =>
    rw [List.cons_append, behindBracket?, if_pos rfl, ih h]
  | case3 depth r' hopen ih =>
    simp only [ne_eq, decide_not, Bool.and_eq_true, Bool.not_eq_true', decide_eq_false_iff_not] at h
    rw [List.cons_append, behindBracket?, if_neg (by decide), if_pos rfl, if_neg h.1, ih h.2]
  | case4 depth c r' hopen hclose ih =>
    simp only [Bool.and_eq_true, Bool.not_eq_true', Bool.and_eq_false_iff,
      decide_eq_false_iff_not] at h
    rw [List.cons_append, behindBracket?, if_neg hopen, if_neg hclose,
      if_neg (not_and_or.2 h.1), ih h.2]

/-! ## Digits -/

theorem digitValue?_of_isDigit {c : Char} (h : c.isDigit = true) :
    digitValue? c = some (c.toNat - '0'.toNat) := by
  have hascii : c.toNat < 128 := by
    simp only [Char.isDigit, ge_iff_le, Bool.and_eq_true, decide_eq_true_eq] at h
    have hle : c.toNat ≤ 57 := h.2
    omega
  rw [digitValue?, if_pos hascii, if_pos h]

theorem digitsValue_eq_ofDigitChars {ds : List Char} (h : ∀ c ∈ ds, c.isDigit = true) :
    digitsValue ds = Nat.ofDigitChars 10 ds 0 := by
  induction ds using List.reverseRecOn with
  | nil => rfl
  | append_singleton ds c ih =>
    have hc := h c (List.mem_append_right ds List.mem_cons_self)
    rw [digitsValue_concat ds (digitValue?_of_isDigit hc), ih fun d hd ↦
      h d (List.mem_append_left [c] hd), Nat.ofDigitChars_append, Nat.mul_comm]
    rfl

theorem isDigit_of_mem_toDigits {n : Nat} {c : Char} (h : c ∈ Nat.toDigits 10 n) :
    c.isDigit = true :=
  Nat.isDigit_of_mem_toDigits (by decide) (by decide) h

theorem digitsValue_toDigits (n : Nat) : digitsValue (Nat.toDigits 10 n) = n := by
  rw [digitsValue_eq_ofDigitChars fun c hc ↦ isDigit_of_mem_toDigits hc,
    Nat.ofDigitChars_ten_toDigits]

/-! ## Decimal numbers -/

/-- A fraction behind its point, if it has any digits. -/
def pointed (f : List Char) : List Char := if f = [] then [] else '.' :: f

/-- What can come behind the digits of a number. -/
def IsExponent (e : List Char) : Prop := e = [] ∨ ∃ x, e = 'e' :: Binary64.exponentText x

section

variable {w f e : List Char}

theorem cut_digits (hw : ∀ c ∈ w, c.isDigit = true) {r : List Char}
    (hr : ∀ c ∈ r.head?, c.isDigit = false) :
    (w ++ r).takeWhile Char.isDigit = w ∧ (w ++ r).dropWhile Char.isDigit = r := by
  rw [List.takeWhile_append_of_pos hw, List.dropWhile_append_of_pos hw]
  cases r with
  | nil => exact ⟨List.append_nil w, rfl⟩
  | cons c r =>
    have hc : ¬ c.isDigit = true := by simpa using hr c rfl
    rw [List.takeWhile_cons_of_neg hc, List.dropWhile_cons_of_neg hc, List.append_nil]
    exact ⟨rfl, rfl⟩

theorem exponentText_digits (x : Int) : ∃ ds, Binary64.exponentText x
    = (if x < 0 then '-' else '+') :: ds ∧ ds ≠ [] ∧ (∀ c ∈ ds, c.isDigit = true)
      ∧ digitsValue ds = x.natAbs := by
  have hdigits : ∀ c ∈ Nat.toDigits 10 x.natAbs, c.isDigit = true :=
    fun c hc ↦ isDigit_of_mem_toDigits hc
  refine ⟨_, rfl, ?_⟩
  split_ifs
  · refine ⟨List.cons_ne_nil _ _, List.forall_mem_cons.2 ⟨by decide, hdigits⟩, ?_⟩
    exact (digitsValue_toDigits x.natAbs)
  · exact ⟨Nat.toDigits_ne_nil, hdigits, digitsValue_toDigits _⟩

theorem exponentOf_exponentText (x : Int) :
    Binary64.exponentOf (Binary64.exponentText x) = x := by
  obtain ⟨ds, hds, -, -, hvalue⟩ := exponentText_digits x
  rw [hds]
  split_ifs with hx
  · rw [Binary64.exponentOf, hvalue]
    omega
  · rw [Binary64.exponentOf, hvalue]
    omega

theorem head?_of_isExponent (he : IsExponent e) : ∀ c ∈ e.head?, c.isDigit = false ∧ c ≠ '.' := by
  rcases he with rfl | ⟨x, rfl⟩
  · exact fun c hc ↦ nomatch hc
  · intro c hc
    obtain rfl := Option.some.inj hc
    exact ⟨rfl, by decide⟩

/-- The parts of a number are found again. -/
theorem cut_decimal (hw : ∀ c ∈ w, c.isDigit = true) (hf : ∀ c ∈ f, c.isDigit = true)
    (he : IsExponent e) :
    (w ++ (pointed f ++ e)).takeWhile Char.isDigit = w
      ∧ (w ++ (pointed f ++ e)).dropWhile Char.isDigit = pointed f ++ e
      ∧ (match pointed f ++ e with
        | '.' :: s => (s.takeWhile Char.isDigit, s.dropWhile Char.isDigit)
        | _ => ([], pointed f ++ e)) = (f, e) := by
  have hexponent := head?_of_isExponent he
  rw [pointed]
  split_ifs with hempty
  · subst hempty
    rw [List.nil_append]
    obtain ⟨htake, hdrop⟩ := cut_digits hw fun c hc ↦ (hexponent c hc).1
    refine ⟨htake, hdrop, ?_⟩
    split
    · exact absurd rfl (hexponent '.' rfl).2
    · rfl
  · obtain ⟨htake, hdrop⟩ := cut_digits (r := '.' :: f ++ e) hw
      fun c hc ↦ by rw [← Option.some.inj hc]; rfl
    obtain ⟨hfraction, hrest⟩ := cut_digits hf fun c hc ↦ (hexponent c hc).1
    exact ⟨htake, hdrop, Prod.ext hfraction hrest⟩

/-- **How a number is read**: digits, a point with more of them, and an exponent. -/
theorem decimalValue_eq (hw : ∀ c ∈ w, c.isDigit = true) (hf : ∀ c ∈ f, c.isDigit = true)
    (he : IsExponent e) : decimalValue (w ++ (pointed f ++ e))
      = digitsValue (w ++ f) * 10 ^ (Binary64.exponentOf (e.drop 1) - (f.length : Int)) := by
  obtain ⟨htake, hdrop, hparts⟩ := cut_decimal hw hf he
  rw [decimalValue, htake, hdrop]
  dsimp only
  rw [hparts]

theorem isDecimalText_eq_true (hne : w ≠ []) (hw : ∀ c ∈ w, c.isDigit = true)
    (hf : ∀ c ∈ f, c.isDigit = true) (he : IsExponent e) :
    Binary64.isDecimalText (w ++ (pointed f ++ e)) = true := by
  obtain ⟨htake, hdrop, -⟩ := cut_decimal hw hf he
  obtain ⟨hfraction, hrest⟩ := cut_digits hf fun c hc ↦ (head?_of_isExponent he c hc).1
  rw [Binary64.isDecimalText, drop_length_takeWhile, htake, hdrop, pointed]
  rcases he with rfl | ⟨x, rfl⟩
  · rw [List.append_nil] at hfraction hrest
    split_ifs <;> simp [hne, hfraction, hrest]
  · obtain ⟨ds, hds, hdsne, hdigits, -⟩ := exponentText_digits x
    have hall : ds.all Char.isDigit = true := List.all_eq_true.2 hdigits
    obtain ⟨sign, hds, hsign⟩ : ∃ sign, Binary64.exponentText x = sign :: ds
        ∧ (sign = '-' ∨ sign = '+') := ⟨_, hds, by split_ifs <;> simp⟩
    rw [hds] at hfraction hrest ⊢
    rcases hsign with rfl | rfl
    · split_ifs <;> simp [hne, hfraction, hrest, hdsne, hall]
    · split_ifs <;> simp [hne, hfraction, hrest, hdsne, hall]

end

/-- Characters that numbers are written with. -/
def IsNumeric (c : Char) : Prop := c.isDigit = true ∨ c ∈ ['.', 'e', '+', '-']

/-- A text without a sign is read as a number. -/
structure Spells (cs : List Char) (v : ℚ) : Prop where
  isDecimal : Binary64.isDecimalText cs = true
  value : decimalValue cs = v
  numeric : ∀ c ∈ cs, IsNumeric c
  unsigned : cs.head? ≠ some '-'

theorem Spells.readDecimal? {cs : List Char} {v : ℚ} (h : Spells cs v) :
    readDecimal? cs = some v := by
  rw [Text.readDecimal?.eq_def]
  split
  · exact absurd rfl h.unsigned
  · rw [if_pos h.isDecimal, h.value]

theorem Spells.readDecimal?_neg {cs : List Char} {v : ℚ} (h : Spells cs v) :
    Text.readDecimal? ('-' :: cs) = some (-v) := by
  rw [Text.readDecimal?, if_pos h.isDecimal, h.value]

theorem spells_decimal {w f e : List Char} (hne : w ≠ []) (hw : ∀ c ∈ w, c.isDigit = true)
    (hf : ∀ c ∈ f, c.isDigit = true) (he : IsExponent e) :
    Spells (w ++ (pointed f ++ e))
      (digitsValue (w ++ f) * 10 ^ (Binary64.exponentOf (e.drop 1) - (f.length : Int))) := by
  refine ⟨isDecimalText_eq_true hne hw hf he, decimalValue_eq hw hf he, ?_, ?_⟩
  · have hpointed : ∀ c ∈ pointed f, IsNumeric c := by
      rw [pointed]
      split_ifs
      · exact List.forall_mem_nil _
      · exact List.forall_mem_cons.2 ⟨.inr (by decide), fun c hc ↦ .inl (hf c hc)⟩
    have hexponent : ∀ c ∈ e, IsNumeric c := by
      rcases he with rfl | ⟨x, rfl⟩
      · exact List.forall_mem_nil _
      · obtain ⟨ds, hds, -, hdigits, -⟩ := exponentText_digits x
        rw [hds]
        refine List.forall_mem_cons.2 ⟨.inr (by decide), List.forall_mem_cons.2
          ⟨.inr (by split_ifs <;> decide), fun c hc ↦ .inl (hdigits c hc)⟩⟩
    exact List.forall_mem_append.2
      ⟨fun c hc ↦ .inl (hw c hc), List.forall_mem_append.2 ⟨hpointed, hexponent⟩⟩
  · obtain ⟨c, r, rfl⟩ := List.exists_cons_of_ne_nil hne
    intro h
    obtain rfl := Option.some.inj h
    exact absurd (hw '-' List.mem_cons_self) (by decide)

theorem spells_digits {ds : List Char} (hne : ds ≠ []) (h : ∀ c ∈ ds, c.isDigit = true) :
    Spells ds (digitsValue ds) := by
  have hall := spells_decimal hne h (List.forall_mem_nil _) (.inl rfl)
  simpa [pointed, Binary64.exponentOf, digitsValue] using hall

theorem spells_scientific {d : Char} {r : List Char} (h : ∀ c ∈ d :: r, c.isDigit = true)
    (x : Int) : Spells (Binary64.scientific (d :: r) x)
      (digitsValue (d :: r) * 10 ^ (x - (r.length : Int))) := by
  obtain ⟨hd, hr⟩ := List.forall_mem_cons.1 h
  have hall := spells_decimal (List.cons_ne_nil d []) (List.forall_mem_singleton.2 hd) hr
    (.inr ⟨x, rfl⟩)
  rw [List.drop_one, List.tail_cons, exponentOf_exponentText] at hall
  have htext : Binary64.scientific (d :: r) x
      = [d] ++ (pointed r ++ 'e' :: Binary64.exponentText x) := by
    cases r <;> rfl
  rw [htext]
  exact hall

end Text

namespace Binary64

/-! ## The text of an integer -/

section

variable {n : Nat}

/-- Zeros at the end of digits are a power of ten. -/
theorem exists_dropZeros_eq (ds : List Char) :
    ∃ k, ds = dropZeros ds ++ List.replicate k '0' := by
  refine ⟨(ds.rtakeWhile (· == '0')).length, ?_⟩
  have hzeros : ds.rtakeWhile (· == '0') = List.replicate (ds.rtakeWhile (· == '0')).length '0' :=
    List.eq_replicate_iff.2 ⟨rfl, fun c hc ↦ by simpa using List.mem_rtakeWhile_imp hc⟩
  rw [← hzeros]
  exact (List.rdropWhile_append_rtakeWhile ..).symm

theorem toDigits_mul_pow (hn : 0 < n) (k : Nat) :
    Nat.toDigits 10 (n * 10 ^ k) = Nat.toDigits 10 n ++ List.replicate k '0' := by
  induction k with
  | zero => simp
  | succ k ih =>
    have hpos : 0 < n * 10 ^ k := Nat.mul_pos hn (Nat.pow_pos (by decide))
    have hstep := Nat.toDigits_append_toDigits (b := 10) (d := 0) (by decide) hpos (by decide)
    rw [Nat.pow_succ, ← Nat.mul_assoc, Nat.mul_comm _ 10, ← Nat.add_zero (10 * _), ← hstep, ih,
      List.append_assoc, List.replicate_succ']
    rfl

theorem dropZeros_append (ds : List Char) (k : Nat) :
    dropZeros (ds ++ List.replicate k '0') = dropZeros ds := by
  induction k with
  | zero => rw [List.replicate_zero, List.append_nil]
  | succ k ih =>
    rw [List.replicate_succ', ← List.append_assoc]
    exact (List.rdropWhile_concat_pos _ _ _ rfl).trans ih

/-- Digits that lost the zeros at their end get them back up to the point. -/
theorem positional_dropZeros {ds : List Char} {x : Nat} (h : ds.length = x + 1) :
    positional (dropZeros ds) x [] = ds := by
  obtain ⟨k, hk⟩ := exists_dropZeros_eq ds
  have hlength : x + 1 - (dropZeros ds).length = k := by
    have hsum := congrArg List.length hk
    rw [List.length_append, List.length_replicate] at hsum
    omega
  have hnonneg : ¬ (x : Int) < 0 := by omega
  rw [positional, if_neg hnonneg, Int.toNat_natCast]
  dsimp only
  rw [hlength, ← hk]
  simp [← h]

/-- **The text of an integer** is read as its first six digits. -/
theorem spells_roundedDigits {num den : Nat} (h : IsRatio n num den) (hn : 0 < n) :
    let (q, x) := roundedDigits 6 num den
    let ds := dropZeros (Nat.toDigits 10 q)
    Spells (if -4 ≤ x ∧ x < 6 then positional ds x [] else scientific ds x) (sixDigits n) := by
  obtain ⟨q, x, hq, hlow, hhigh, hsmall, hsix⟩ := roundedDigits_of_isRatio h hn
  rw [hq]
  dsimp only
  rcases Nat.lt_or_ge x 6 with hx | hx
  · obtain ⟨hlength, rfl⟩ := hsmall hx
    have hself : sixDigits n = n := by
      rw [Nat.mul_assoc, ← Nat.pow_add, Nat.sub_add_cancel (by omega)] at hsix
      exact Nat.eq_of_mul_eq_mul_right (by decide) hsix
    rw [if_pos (by omega), toDigits_mul_pow hn, dropZeros_append, positional_dropZeros hlength,
      hself]
    have hall := spells_digits Nat.toDigits_ne_nil fun c hc ↦ isDigit_of_mem_toDigits (n := n) hc
    rwa [digitsValue_toDigits] at hall
  · obtain ⟨k, hk⟩ := exists_dropZeros_eq (Nat.toDigits 10 q)
    have hdigits : ∀ c ∈ dropZeros (Nat.toDigits 10 q), c.isDigit = true := fun c hc ↦
      isDigit_of_mem_toDigits (n := q) (hk ▸ List.mem_append_left _ hc)
    have hsixth : (Nat.toDigits 10 q).length = 6 := by
      refine le_antisymm ((Nat.length_toDigits_le_iff (by decide) (by decide)).2 hhigh) ?_
      exact (lt_decimalLength_iff (by omega)).2 hlow
    have hvalue : digitsValue (dropZeros (Nat.toDigits 10 q)) * 10 ^ k = q := by
      have hzero : digitsValue (List.replicate k '0') = 0 := by
        refine (digitsValue_eq_zero_iff fun c hc ↦ ?_).2 fun c hc ↦ ?_
        · rw [List.eq_of_mem_replicate hc]
          rfl
        · rw [List.eq_of_mem_replicate hc]
          rfl
      have happend := digitsValue_append (dropZeros (Nat.toDigits 10 q))
        (b := List.replicate k '0') fun c hc ↦ by rw [List.eq_of_mem_replicate hc]; rfl
      rw [← hk, digitsValue_toDigits, hzero, List.length_replicate, Nat.add_zero] at happend
      exact happend.symm
    have hlength : (dropZeros (Nat.toDigits 10 q)).length + k = 6 := by
      rw [← hsixth]
      conv_rhs => rw [hk]
      rw [List.length_append, List.length_replicate]
    rw [if_neg (by omega)]
    cases hds : dropZeros (Nat.toDigits 10 q) with
    | nil =>
      rw [hds] at hvalue
      rw [← hvalue, digitsValue, List.foldl_nil, Nat.zero_mul] at hlow
      exact absurd hlow (by decide)
    | cons d r =>
      rw [hds] at hdigits hvalue hlength
      have hall := spells_scientific hdigits (x : Int)
      have hequal : (digitsValue (d :: r) : ℚ) * 10 ^ ((x : Int) - (r.length : Int))
          = (sixDigits n : ℚ) := by
        rw [List.length_cons] at hlength
        have hexponent : (x : Int) - (r.length : Int) = (x : Int) + (k : Int) - 5 := by omega
        have hsix' : (sixDigits n : ℚ) * 10 ^ 5
            = (digitsValue (d :: r) : ℚ) * 10 ^ k * 10 ^ x := by
          rw [← hvalue] at hsix
          exact_mod_cast hsix
        rw [hexponent, zpow_sub₀ (by norm_num), zpow_add₀ (by norm_num)]
        rw [zpow_natCast, zpow_natCast]
        have hfive : ((10 : ℚ) ^ (5 : Int)) = 10 ^ 5 := by norm_num
        rw [hfive, mul_div_assoc', div_eq_iff (by norm_num), hsix']
        ring
      rw [← hequal]
      exact hall

end

end Binary64

/-! ## Integers as coordinates -/

/-- An integer rounded to its first six digits. -/
def roundedInt (n : Int) : Int := n.sign * sixDigits n.natAbs

theorem roundedInt_eq_self_iff {n : Int} :
    roundedInt n = n ↔ ∃ m k, m < 10 ^ 6 ∧ n.natAbs = m * 10 ^ k := by
  rw [← sixDigits_eq_self_iff]
  constructor
  · intro h
    rcases eq_or_ne n 0 with rfl | hn
    · rfl
    · have habs := congrArg Int.natAbs h
      rwa [roundedInt, Int.natAbs_mul, Int.natAbs_sign_of_ne_zero hn, Nat.one_mul,
        Int.natAbs_natCast] at habs
  · intro h
    rw [roundedInt, h]
    exact Int.sign_mul_natAbs n

/-- A coordinate that is an integer which the format binary64 holds exactly. -/
inductive IsWhole : Value → Int → Prop
  | int {n : Int} (h : Binary64.Holds n) : IsWhole (.int n) n
  | float {x : Binary64} {n : Int} (h : x.toInt? = some n) : IsWhole (.float x) n

/-- How a coordinate stands in the markup. -/
structure IsWritten (t : String) (n : Int) : Prop where
  readDecimal? : readDecimal? t.toList = some (roundedInt n : ℚ)
  numeric : ∀ c ∈ t.toList, IsNumeric c

theorem isWritten_signed {negative : Bool} {cs : List Char} {n : Nat}
    (h : Spells cs (sixDigits n)) {m : Int} (hm : m = if negative then -(n : Int) else n) :
    IsWritten (Binary64.signed negative cs) m := by
  have hrounded : (roundedInt m : ℚ) = if negative then -(sixDigits n : ℚ) else sixDigits n := by
    rcases Nat.eq_zero_or_pos n with rfl | hn
    · have hzero : (sixDigits 0 : ℚ) = 0 := rfl
      subst hm
      cases negative <;> simp [roundedInt, hzero]
    · subst hm
      cases negative
      · simp [roundedInt, Int.sign_eq_one_of_pos (Int.natCast_pos.2 hn)]
      · simp [roundedInt, Int.sign_eq_one_of_pos (Int.natCast_pos.2 hn)]
  refine ⟨?_, ?_⟩
  · rw [hrounded, Binary64.signed, String.toList_ofList]
    cases negative
    · exact h.readDecimal?
    · exact h.readDecimal?_neg
  · rw [Binary64.signed, String.toList_ofList]
    cases negative
    · exact h.numeric
    · exact List.forall_mem_cons.2 ⟨.inr (by decide), h.numeric⟩

theorem isWritten_generalText {negative : Bool} {m n : Nat} {e k : Int}
    (h : Binary64.IsRatio n (Binary64.ratio m e).1 (Binary64.ratio m e).2)
    (hk : k = if negative then -(n : Int) else n) :
    IsWritten (Binary64.finite negative m e).generalText k := by
  rw [Binary64.generalText]
  split_ifs with hm
  · have hn : n = 0 := by
      have hnum : (Binary64.ratio m e).1 = 0 := by
        rw [Binary64.ratio, Binary64.scaleBinary, hm]
        split_ifs <;> simp
      rw [h.num_eq, Nat.mul_eq_zero] at hnum
      exact hnum.resolve_right h.den_pos.ne'
    subst hn
    exact isWritten_signed (spells_digits (List.cons_ne_nil '0' [])
      (List.forall_mem_singleton.2 rfl)) hk
  · have hn : 0 < n := by
      have hnum : 0 < (Binary64.ratio m e).1 := by
        rw [Binary64.ratio, Binary64.scaleBinary]
        split_ifs
        · exact Nat.mul_pos (Nat.pos_of_ne_zero hm) (Nat.pow_pos (by decide))
        · exact Nat.pos_of_ne_zero hm
      rw [h.num_eq] at hnum
      exact Nat.pos_of_mul_pos_right hnum
    exact isWritten_signed (Binary64.spells_roundedDigits h hn) hk

/-- **The text of a coordinate that is an integer.** -/
theorem exists_coordinateText {v : Value} {n : Int} (h : IsWhole v n) :
    ∃ t, coordinateText v = .ok t ∧ IsWritten t n := by
  cases h with
  | int h =>
    obtain ⟨m, e, hofInt, hratio⟩ := Binary64.exists_ofInt_eq h
    rw [coordinateText, hofInt]
    refine ⟨_, rfl, isWritten_generalText hratio ?_⟩
    simp only [decide_eq_true_eq]
    split_ifs <;> omega
  | @float x n h =>
    cases x with
    | nan => cases h
    | infinite negative => cases h
    | finite negative m e =>
      obtain ⟨hratio, hn⟩ := Binary64.isRatio_of_toInt? h
      exact ⟨_, rfl, isWritten_generalText hratio hn⟩

/-! ## Points -/

/-- Both coordinates of a point are integers that the format holds. -/
def IsWholePoint (v : Value) (p : Int × Int) : Prop :=
  ∃ x y, v = .list [x, y] ∧ IsWhole x p.1 ∧ IsWhole y p.2

/-- The numbers of a point. -/
def exactPoint (p : Int × Int) : ℚ × ℚ := (p.1, p.2)

/-- A point with both coordinates rounded to six digits. -/
def roundedPoint (p : Int × Int) : ℚ × ℚ := exactPoint (roundedInt p.1, roundedInt p.2)

theorem not_isNumeric {c : Char} (h : c ∈ [' ', ',', '(', ')', '\x7d']) : ¬ IsNumeric c := by
  simp only [List.mem_cons, List.not_mem_nil, or_false] at h
  rcases h with rfl | rfl | rfl | rfl | rfl <;> rw [IsNumeric] <;> decide

/-- What a point stands for in the markup, and which characters do not stand there. -/
structure IsWrittenPoint (t : List Char) (p : Int × Int) : Prop where
  readPoint? : readPoint? t = some (roundedPoint p)
  free : ∀ c ∈ [' ', '\x7d'], c ∉ t
  ne_nil : t ≠ []

theorem exists_pointText {v : Value} {p : Int × Int} (h : IsWholePoint v p) :
    ∃ t, pointText v = .ok t ∧ IsWrittenPoint t.toList p := by
  obtain ⟨x, y, rfl, hx, hy⟩ := h
  obtain ⟨s, hs, hsx⟩ := exists_coordinateText hx
  obtain ⟨t, ht, hty⟩ := exists_coordinateText hy
  refine ⟨"(" ++ s ++ "," ++ t ++ ")", ?_, ?_⟩
  · refine bind_eq_ok.2 ⟨(x, y), rfl, ?_⟩
    exact bind_eq_ok.2 ⟨s, hs, bind_eq_ok.2 ⟨t, ht, rfl⟩⟩
  · have htext : ("(" ++ s ++ "," ++ t ++ ")").toList
        = ('(' :: s.toList) ++ ',' :: (t.toList ++ [')']) := by
      simp [String.toList_append]
    have hfree {c : Char} (hc : c ∈ [' ', ',', '(', ')', '\x7d']) :
        c ∉ s.toList ∧ c ∉ t.toList :=
      ⟨fun hmem ↦ not_isNumeric hc (hsx.numeric c hmem),
        fun hmem ↦ not_isNumeric hc (hty.numeric c hmem)⟩
    have hcomma := hfree (c := ',') (by decide)
    rw [htext]
    refine ⟨?_, fun c hc ↦ ?_, by simp⟩
    · rw [Text.readPoint?, splitAt_append, splitAt_of_not_mem (by simp [hcomma.1]),
        splitAt_of_not_mem (by simp [hcomma.2])]
      simp [hsx.readDecimal?, hty.readDecimal?, roundedPoint, exactPoint]
    · have hboth := hfree (c := c) (by
        simp only [List.mem_cons, List.not_mem_nil, or_false] at hc ⊢
        tauto)
      simp only [List.mem_cons, List.not_mem_nil, or_false] at hc
      rcases hc with rfl | rfl <;> simp [hboth.1, hboth.2]

/-- The texts of points between blanks are read as these points. -/
theorem exists_pointsText {vs : List Value} {ps : List (Int × Int)}
    (h : List.Forall₂ IsWholePoint vs ps) : ∃ t, pointsText vs = .ok t ∧ '\x7d' ∉ t.toList
      ∧ (t.toList = [] ↔ ps = [])
      ∧ (ps ≠ [] → (splitAt ' ' t.toList).mapM readPoint? = some (ps.map roundedPoint)) := by
  suffices hall : ∃ ts, vs.mapM pointText = .ok ts ∧ '\x7d' ∉ (joinWith " " ts).toList
      ∧ ((joinWith " " ts).toList = [] ↔ ps = []) ∧ (ts = [] ↔ ps = [])
      ∧ (ps ≠ [] → (splitAt ' ' (joinWith " " ts).toList).mapM readPoint?
        = some (ps.map roundedPoint)) by
    obtain ⟨ts, hts, hbrace, hempty, -, hread⟩ := hall
    exact ⟨_, bind_eq_ok.2 ⟨ts, hts, rfl⟩, hbrace, hempty, hread⟩
  induction h with
  | nil => exact ⟨[], rfl, by simp [joinWith], by simp [joinWith], by simp, fun h ↦ absurd rfl h⟩
  | @cons v p vs ps hv hvs ih =>
    obtain ⟨t, ht, htp⟩ := exists_pointText hv
    obtain ⟨ts, hts, hbrace, -, hnil, hread⟩ := ih
    have hblank := htp.free ' ' (by decide)
    have hclosed := htp.free '\x7d' (by decide)
    refine ⟨t :: ts, mapM_cons_eq_ok.2 ⟨t, ts, ht, hts, rfl⟩, ?_⟩
    cases ts with
    | nil =>
      obtain rfl := hnil.1 rfl
      refine ⟨hclosed, by simpa [joinWith] using htp.ne_nil, by simp, fun _ ↦ ?_⟩
      rw [joinWith, splitAt_of_not_mem hblank]
      simp [htp.readPoint?]
    | cons t' ts =>
      have hps : ps ≠ [] := fun h ↦ by simp [h] at hnil
      have htext : (joinWith " " (t :: t' :: ts)).toList
          = t.toList ++ ' ' :: (joinWith " " (t' :: ts)).toList := by
        rw [joinWith_cons_cons, String.toList_append, String.toList_append]
        rfl
      refine ⟨?_, by simp [htext], by simp, fun _ ↦ ?_⟩
      · rw [htext]
        simp [hclosed, hbrace]
      · rw [htext, splitAt_append, splitAt_of_not_mem hblank, List.singleton_append,
          List.mapM_cons, htp.readPoint?, hread hps]
        rfl

/-! ## Curves -/

namespace Curve

/-- The curve is given by the points `ps`, whose coordinates are integers that the format binary64
holds exactly. -/
structure Charts (c : Curve) (ps : List (Int × Int)) : Prop where
  expression_eq : c.expression = none
  coordinates : List.Forall₂ IsWholePoint c.coordinates ps

section

variable {c : Curve} {ps : List (Int × Int)}

/-- The options stand between the command and the points. -/
theorem behindOptions?_optional {options : String} (h : isBracketable 0 options.toList = true)
    {r : List Char} (hr : r.head? ≠ some '[') :
    behindOptions? ((optional options).toList ++ r) = some r := by
  rw [optional, behindOptions?]
  split
  · exact if_neg hr
  · have htext : ("[" ++ options ++ "]").toList ++ r = '[' :: (options.toList ++ ']' :: r) := by
      simp [String.toList_append]
    rw [htext]
    exact (if_pos rfl).trans (behindBracket?_append h r)

/-- Behind the options the points of a curve are read back, each coordinate rounded. -/
theorem exists_markup (h : c.Charts ps) :
    ∃ r, c.markup = .ok ("\\addplot" ++ optional c.options ++ r) ∧ r.toList.head? = some ' '
      ∧ readCoordinates? r.toList = some (ps.map roundedPoint) := by
  obtain ⟨t, ht, hbrace, hempty, hread⟩ := exists_pointsText h.coordinates
  refine ⟨" coordinates " ++ braced t ++ ";" ++ c.legendLine, ?_, by simp [String.toList_append],
    ?_⟩
  · have htext : "\\addplot" ++ optional c.options ++ (" coordinates " ++ braced t ++ ";"
        ++ c.legendLine) = "\\addplot" ++ optional c.options ++ (" coordinates " ++ braced t) ++ ";"
          ++ c.legendLine := by
      simp only [String.append_assoc]
    rw [htext]
    refine bind_eq_ok.2 ⟨" coordinates " ++ braced t, ?_, rfl⟩
    rw [subject, h.expression_eq]
    exact bind_eq_ok.2 ⟨t, ht, rfl⟩
  · have htext : (" coordinates " ++ braced t ++ ";" ++ c.legendLine).toList
        = " coordinates \x7b".toList ++ (t.toList ++ '\x7d' :: ';' :: c.legendLine.toList) := by
      simp [braced, String.toList_append]
    have hgroup : (t.toList ++ '\x7d' :: ';' :: c.legendLine.toList).takeWhile (· != '\x7d')
        = t.toList := by
      rw [List.takeWhile_append_of_pos fun c hc ↦ by
        simpa using fun h : c = '\x7d' ↦ hbrace (h ▸ hc)]
      simp
    rw [readCoordinates?, htext, after?_eq_some_iff.2 rfl]
    dsimp only [Option.bind_eq_bind, Option.bind_some]
    rw [hgroup, if_neg (by simp)]
    split_ifs with hnil
    · rw [hempty.1 (List.isEmpty_iff.1 hnil)]
      rfl
    · exact hread fun hps ↦ hnil (List.isEmpty_iff.2 (hempty.2 hps))

/-- The points are found again behind options that can stand in brackets. -/
theorem readPoints?_eq {r : String} {options : String}
    (hoptions : isBracketable 0 options.toList = true) (hr : r.toList.head? = some ' ') :
    readPoints? ("\\addplot" ++ optional options ++ r).toList = readCoordinates? r.toList := by
  have hne : r.toList.head? ≠ some '[' := by rw [hr]; decide
  rw [String.append_assoc, String.toList_append, String.toList_append, readPoints?,
    after?_eq_some_iff.2 rfl]
  dsimp only [Option.bind_eq_bind, Option.bind_some]
  rw [behindOptions?_optional hoptions hne]
  rfl

theorem map_roundedPoint_eq_iff : ps.map roundedPoint = ps.map exactPoint
    ↔ ∀ p ∈ ps, (∃ m k, m < 10 ^ 6 ∧ p.1.natAbs = m * 10 ^ k)
      ∧ ∃ m k, m < 10 ^ 6 ∧ p.2.natAbs = m * 10 ^ k := by
  rw [List.map_inj_left]
  refine forall₂_congr fun p _ ↦ ?_
  rw [← roundedInt_eq_self_iff, ← roundedInt_eq_self_iff, roundedPoint, exactPoint, exactPoint,
    Prod.mk.injEq, Int.cast_inj, Int.cast_inj]

/-- **The points of a curve that are integers come back with six digits**: behind the options
stands a group of coordinates from which exactly the given points are read, in their order, each
coordinate rounded to its first six digits.  So the list read is the list given if and only if
every coordinate has at most six digits in front of its zeros, and curves with points that differ
in these digits differ in their markup: always if their options are equal, and if their options can
stand in brackets, behind which the points can then be found from the markup alone. -/
theorem readCoordinates?_markup (h : c.Charts ps) :
    ∃ r, c.markup = .ok ("\\addplot" ++ optional c.options ++ r)
      ∧ readCoordinates? r.toList = some (ps.map roundedPoint)
      ∧ (readCoordinates? r.toList = some (ps.map exactPoint)
        ↔ ∀ p ∈ ps, (∃ m k, m < 10 ^ 6 ∧ p.1.natAbs = m * 10 ^ k)
          ∧ ∃ m k, m < 10 ^ 6 ∧ p.2.natAbs = m * 10 ^ k)
      ∧ (isBracketable 0 c.options.toList = true →
        readPoints? ("\\addplot" ++ optional c.options ++ r).toList = some (ps.map roundedPoint))
      ∧ ∀ (c' : Curve) (ps' : List (Int × Int)), c'.Charts ps' → c'.markup = c.markup →
        c'.options = c.options ∨ isBracketable 0 c.options.toList = true
          ∧ isBracketable 0 c'.options.toList = true →
        ps'.map roundedPoint = ps.map roundedPoint := by
  obtain ⟨r, hmarkup, hblank, hread⟩ := exists_markup h
  refine ⟨r, hmarkup, hread, ?_, fun hoptions ↦ (readPoints?_eq hoptions hblank).trans hread, ?_⟩
  · rw [hread, Option.some_inj, map_roundedPoint_eq_iff]
  · intro c' ps' h' heq hoptions
    obtain ⟨r', hmarkup', hblank', hread'⟩ := exists_markup h'
    rw [hmarkup, hmarkup'] at heq
    have htext := Except.ok.inj heq
    suffices hsame : readCoordinates? r'.toList = readCoordinates? r.toList by
      rw [hread, hread'] at hsame
      exact Option.some.inj hsame
    rcases hoptions with hoptions | ⟨hoptions, hoptions'⟩
    · rw [hoptions, String.append_right_inj] at htext
      rw [htext]
    · rw [← readPoints?_eq hoptions' hblank', ← readPoints?_eq hoptions hblank, htext]

/-- Two points, one of them with large numbers. -/
theorem readCoordinates?_markup_of_two_points :
    let c : Curve := { coordinates := [.list [.int 0, .int (-7)],
      .list [.int 12345600, .float (.finite false 3 1)]], options := "mark=\x7b]\x7d" }
    ∃ r, c.markup = .ok ("\\addplot" ++ optional c.options ++ r)
      ∧ readCoordinates? r.toList = some ([(0, -7), (12345600, 6)].map exactPoint) := by
  intro c
  have hcharts : c.Charts [(0, -7), (12345600, 6)] := by
    refine ⟨rfl, .cons ⟨_, _, rfl, .int (Binary64.holds_of_lt (by decide)),
      .int (Binary64.holds_of_lt (by decide))⟩
      (.cons ⟨_, _, rfl, .int (Binary64.holds_of_lt (by decide)), .float (by decide)⟩ .nil)⟩
  obtain ⟨r, hmarkup, -, hexact, -⟩ := readCoordinates?_markup hcharts
  refine ⟨r, hmarkup, hexact.2 ?_⟩
  refine List.forall_mem_cons.2 ⟨⟨?_, ?_⟩, List.forall_mem_singleton.2 ⟨?_, ?_⟩⟩
  · exact ⟨0, 0, by decide, by decide⟩
  · exact ⟨7, 0, by decide, by decide⟩
  · exact ⟨123456, 2, by decide, by decide⟩
  · exact ⟨6, 0, by decide, by decide⟩

/-- Seven digits are more than the markup shows, and options that end their own brackets can make
the markup of other points their own. -/
theorem markup_of_more_points :
    let long : Curve := { coordinates := [.list [.int 1234567, .int 0]] }
    let first : Curve := { coordinates := [.list [.int 1, .int 2]], options := "a"
                           legend := some "b] coordinates \x7b(3,4)\x7d;\n\\addlegendentry\x7bc" }
    let second : Curve := { coordinates := [.list [.int 3, .int 4]], legend := some "c"
                            options := "a] coordinates \x7b(1,2)\x7d;\n\\addlegendentry\x7bb" }
    (long.Charts [(1234567, 0)]
      ∧ long.markup.toOption = some "\\addplot coordinates \x7b(1.23457e+06,0)\x7d;"
      ∧ readPoints? "\\addplot coordinates \x7b(1.23457e+06,0)\x7d;".toList
        = some ([(1234570, 0)].map exactPoint))
      ∧ first.Charts [(1, 2)] ∧ second.Charts [(3, 4)]
      ∧ first.markup.toOption = second.markup.toOption ∧ first.markup.toOption.isSome := by
  intro long first second
  refine ⟨⟨⟨rfl, .cons ⟨_, _, rfl, ?_, ?_⟩ .nil⟩, by decide +kernel, by decide +kernel⟩,
    ⟨rfl, .cons ⟨_, _, rfl, ?_, ?_⟩ .nil⟩, ⟨rfl, .cons ⟨_, _, rfl, ?_, ?_⟩ .nil⟩,
    by decide +kernel, by decide +kernel⟩
  all_goals exact .int (Binary64.holds_of_lt (by decide))

end

end Curve

end TexWeave
