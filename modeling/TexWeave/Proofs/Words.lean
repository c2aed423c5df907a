import TexWeave.Source.Token
import TexWeave.Text.Blank
import TexWeave.Text.Ranges

/-!
# Blanks and words

A word of a source text may hold characters of any script, and blanks come in many sorts too.  The
two do not meet: no interval of the two tables of identifier characters reaches a blank.

* `isBlank_of_contains` — what a table of intervals leaves out, its lookup leaves out.
* `isBlank_of_isIdentifier` — an identifier holds no blank.
-/

set_option autoImplicit false

namespace TexWeave
namespace Text

/-! ## Tables of intervals -/

namespace CharRanges

/-- What bisection finds is an interval of the table that holds the code point. -/
theorem search_eq_some {bounds : Array (Nat × Nat)} {n lo hi : Nat} {b : Nat × Nat}
    (h : search bounds n lo hi = some b) : b ∈ bounds ∧ b.1 ≤ n ∧ n ≤ b.2 := by
  fun_induction search bounds n lo hi with
  | case1 lo hi hlt mid hnone => cases h
  | case2 lo hi hlt mid b' hb hbelow ih => exact ih h
  | case3 lo hi hlt mid b' hb hbelow habove ih => exact ih h
  | case4 lo hi hlt mid b' hb hbelow habove =>
    cases h
    exact ⟨Array.mem_of_getElem? hb, Nat.le_of_not_lt hbelow, Nat.le_of_not_lt habove⟩
  | case5 lo hi hlt => cases h

theorem exists_of_contains {t : CharRanges} {c : Char} (h : t.contains c = true) :
    ∃ b ∈ t.bounds, b.1 ≤ c.toNat ∧ c.toNat ≤ b.2 := by
  obtain ⟨b, hb⟩ := Option.isSome_iff_exists.1 h
  exact ⟨b, search_eq_some hb⟩

/-- The interval an entry of a table stands for. -/
def entryBounds? (w : List Char) : Option (Nat × Nat) :=
  match (fields (· == '-') w).map hexValue? with
  | [some lo] => some (lo, lo)
  | [some lo, some hi] => some (lo, hi)
  | _ => none

/-- The intervals of a table written as characters. -/
def boundsOf (cs : List Char) : List (Nat × Nat) :=
  (fields (fun c ↦ c == ' ' || c == '\n') cs).filterMap entryBounds?

theorem bounds_ofText (cs : List Char) :
    (ofText (String.ofList cs)).bounds.toList = boundsOf cs := by
  rw [ofText, entries, String.toList_ofList]
  simp only [Array.toList_filterMap]
  rfl

end CharRanges

/-! ## Blanks beyond ASCII -/

/-- The blanks beyond ASCII. -/
def wideBlanks : List Nat :=
  [0x85, 0xA0, 0x1680, 0x2000, 0x2001, 0x2002, 0x2003, 0x2004, 0x2005, 0x2006, 0x2007, 0x2008,
    0x2009, 0x200A, 0x2028, 0x2029, 0x202F, 0x205F, 0x3000]

theorem mem_wideBlanks {c : Char} (hwide : 128 ≤ c.toNat) (h : isBlank c = true) :
    c.toNat ∈ wideBlanks := by
  simp only [isBlank, Bool.or_eq_true, Bool.and_eq_true, decide_eq_true_eq, beq_iff_eq] at h
  simp only [wideBlanks, List.mem_cons, List.not_mem_nil, or_false]
  omega

/-- Whether an interval reaches no blank beyond ASCII. -/
def shunsBlanks (b : Nat × Nat) : Bool := wideBlanks.all fun n ↦ n < b.1 || b.2 < n

/-- A character in a table whose intervals reach no blank is no blank. -/
theorem isBlank_of_contains {t : CharRanges} {cs : List Char}
    (ht : t = .ofText (String.ofList cs))
    (hshuns : (CharRanges.boundsOf cs).all shunsBlanks = true) {c : Char}
    (hwide : 128 ≤ c.toNat) (h : t.contains c = true) : isBlank c = false := by
  obtain ⟨b, hb, hlo, hhi⟩ := CharRanges.exists_of_contains h
  rw [ht, ← Array.mem_toList_iff, CharRanges.bounds_ofText] at hb
  rw [Bool.eq_false_iff]
  intro hblank
  have hout := List.all_eq_true.1 (List.all_eq_true.1 hshuns b hb) _ (mem_wideBlanks hwide hblank)
  simp only [Bool.or_eq_true, decide_eq_true_eq] at hout
  omega

set_option maxRecDepth 1000000 in
theorem identifierStartRanges_shun : ∃ cs, identifierStartRanges = .ofText (String.ofList cs)
    ∧ (CharRanges.boundsOf cs).all shunsBlanks = true :=
  ⟨_, rfl, by decide +kernel⟩

set_option maxRecDepth 1000000 in
theorem identifierContinueRanges_shun : ∃ cs, identifierContinueRanges = .ofText (String.ofList cs)
    ∧ (CharRanges.boundsOf cs).all shunsBlanks = true :=
  ⟨_, rfl, by decide +kernel⟩

/-! ## Identifiers -/

theorem isBlank_of_isAlphanum {c : Char} (h : c.isAlphanum = true) : isBlank c = false := by
  change (decide (c.val ≥ 65 ∧ c.val ≤ 90) || (decide (c.val ≥ 97) && decide (c.val ≤ 122))
    || (decide (c.val ≥ 48) && decide (c.val ≤ 57))) = true at h
  simp only [Bool.or_eq_true, Bool.and_eq_true, decide_eq_true_eq, UInt32.le_iff_toNat_le,
    ge_iff_le] at h
  change ((65 ≤ c.toNat ∧ c.toNat ≤ 90) ∨ (97 ≤ c.toNat ∧ c.toNat ≤ 122))
    ∨ (48 ≤ c.toNat ∧ c.toNat ≤ 57) at h
  rw [Bool.eq_false_iff]
  intro hblank
  simp only [isBlank, Bool.or_eq_true, Bool.and_eq_true, decide_eq_true_eq, beq_iff_eq] at hblank
  omega

theorem toLower_of_isBlank {c : Char} (h : isBlank c = true) : c.toLower = c := by
  have hupper : ¬ (c.val ≥ 65 ∧ c.val ≤ 90) := by
    intro hupper
    rw [ge_iff_le, UInt32.le_iff_toNat_le, UInt32.le_iff_toNat_le] at hupper
    change 65 ≤ c.toNat ∧ c.toNat ≤ 90 at hupper
    simp only [isBlank, Bool.or_eq_true, Bool.and_eq_true, decide_eq_true_eq, beq_iff_eq] at h
    omega
  exact dif_neg hupper

theorem isBlank_of_isIdentifierStart {c : Char} (h : isIdentifierStart c = true) :
    isBlank c = false := by
  rw [isIdentifierStart] at h
  split at h
  · rcases Bool.or_eq_true_iff.1 h with h | h
    · exact isBlank_of_isAlphanum (by rw [Char.isAlphanum, h, Bool.true_or])
    · rw [beq_iff_eq.1 h]
      decide
  · next hwide =>
    obtain ⟨cs, ht, hshuns⟩ := identifierStartRanges_shun
    exact isBlank_of_contains ht hshuns (Nat.le_of_not_lt hwide) h

theorem isBlank_of_isIdentifierContinue {c : Char} (h : isIdentifierContinue c = true) :
    isBlank c = false := by
  rw [isIdentifierContinue] at h
  split at h
  · rcases Bool.or_eq_true_iff.1 h with h | h
    · exact isBlank_of_isAlphanum h
    · rw [beq_iff_eq.1 h]
      decide
  · next hwide =>
    obtain ⟨cs, ht, hshuns⟩ := identifierContinueRanges_shun
    exact isBlank_of_contains ht hshuns (Nat.le_of_not_lt hwide) h

/-- **An identifier holds no blank**, of whatever sort. -/
theorem isBlank_of_isIdentifier {cs : List Char} (h : isIdentifier cs = true) :
    ∀ c ∈ cs, isBlank c = false := by
  cases cs with
  | nil => exact List.forall_mem_nil _
  | cons d r =>
    rw [isIdentifier, Bool.and_eq_true, List.all_eq_true] at h
    exact List.forall_mem_cons.2 ⟨isBlank_of_isIdentifierStart h.1,
      fun c hc ↦ isBlank_of_isIdentifierContinue (h.2 c hc)⟩

end Text

namespace Source

open Text

/-- A character of a word that is a blank lies beyond ASCII. -/
theorem isBlank_of_isWordLike {c : Char} (h : isWordLike c = true) (hnarrow : c.toNat < 128) :
    isBlank c = false := by
  simp only [isWordLike, Bool.or_eq_true, decide_eq_true_eq, beq_iff_eq] at h
  rcases h with (h | h) | rfl
  · omega
  · exact isBlank_of_isAlphanum h
  · decide

end Source
end TexWeave
