import TexWeave.Proofs.Lines

/-!
# One text in the place of another

Two texts that differ only in that one has a certain text wherever the other has a second one.  This
is what becomes of a text when a part of it that may be used many times is changed.

* `Swaps` — the two texts, with the number of places where they differ.
* `Swaps.exists_gaps` — what stands between these places is the same in both.
* `SwapsInside` — the same with something kept at the very end, which dropping line feeds respects.
-/

set_option autoImplicit false

namespace TexWeave

open Text

variable {old new s s' t t' : String} {j k : Nat}

/-- `t'` has `new` in `k` places where `t` has `old`. -/
inductive Swaps (old new : String) : Nat → String → String → Prop
  | same (t : String) : Swaps old new 0 t t
  | swap : Swaps old new 1 old new
  | append {j k : Nat} {s s' t t' : String} (h : Swaps old new j s s')
      (h' : Swaps old new k t t') : Swaps old new (j + k) (s ++ t) (s' ++ t')

namespace Swaps

/-- Something the same in front and behind. -/
theorem enclose (h : Swaps old new k t t') (front behind : String) :
    Swaps old new k (front ++ t ++ behind) (front ++ t' ++ behind) := by
  simpa using ((Swaps.same front).append h).append (.same behind)

theorem cons_endLines {ls ls' : List String} (h : Swaps old new j t t')
    (h' : Swaps old new k (endLines ls) (endLines ls')) :
    Swaps old new (j + k) (endLines (t :: ls)) (endLines (t' :: ls')) := by
  rw [endLines_cons, endLines_cons]
  simpa using h.append ((Swaps.same "\n").append h')

theorem joinWith_append_joinWith (sep x y : String) (front behind : List String) :
    joinWith sep (front ++ [x]) ++ joinWith sep (y :: behind)
      = joinWith sep (front ++ (x ++ y) :: behind) := by
  induction front with
  | nil =>
    cases behind with
    | nil => rfl
    | cons z behind =>
      simp only [List.nil_append, joinWith_cons_cons, String.append_assoc]
      rfl
  | cons w front ih =>
    obtain ⟨v, rest, hrest⟩ : ∃ v rest, front ++ [x] = v :: rest :=
      List.exists_cons_of_ne_nil (by simp)
    obtain ⟨v', rest', hrest'⟩ : ∃ v rest, front ++ (x ++ y) :: behind = v :: rest :=
      List.exists_cons_of_ne_nil (by simp)
    rw [hrest, hrest'] at ih
    rw [List.cons_append, List.cons_append, hrest, hrest', joinWith_cons_cons, joinWith_cons_cons,
      ← ih]
    simp only [String.append_assoc]

/-- **What stands between the places is the same in both texts.** -/
theorem exists_gaps (h : Swaps old new k t t') : ∃ first rest, rest.length = k
    ∧ t = joinWith old (first :: rest) ∧ t' = joinWith new (first :: rest) := by
  induction h with
  | same t => exact ⟨t, [], rfl, rfl, rfl⟩
  | swap => exact ⟨"", [""], rfl, by simp [joinWith], by simp [joinWith]⟩
  | append _ _ ih ih' =>
    obtain ⟨first, rest, hlength, rfl, rfl⟩ := ih
    obtain ⟨first', rest', hlength', rfl, rfl⟩ := ih'
    -- The last gap of the first text and the first one of the second become one.
    obtain ⟨front, x, hfront⟩ : ∃ front x, first :: rest = front ++ [x] :=
      ⟨_, _, (List.dropLast_append_getLast (List.cons_ne_nil first rest)).symm⟩
    obtain ⟨y, more, hmore⟩ : ∃ y more, front ++ (x ++ first') :: rest' = y :: more :=
      List.exists_cons_of_ne_nil (by simp)
    refine ⟨y, more, ?_, ?_, ?_⟩
    · have hsum := congrArg List.length hfront
      have htotal := congrArg List.length hmore
      simp only [List.length_cons, List.length_append, List.length_nil] at hsum htotal
      omega
    · rw [hfront, joinWith_append_joinWith, hmore]
    · rw [hfront, joinWith_append_joinWith, hmore]

end Swaps

/-- The same with a character other than a line feed behind the last place. -/
inductive SwapsInside (old new : String) : Nat → String → String → Prop
  | same (t : String) : SwapsInside old new 0 t t
  | before {k : Nat} {s s' t : String} {c : Char} (h : Swaps old new k s s') (hc : c ∈ t.toList)
      (hne : c ≠ '\n') : SwapsInside old new k (s ++ t) (s' ++ t)

namespace SwapsInside

theorem swaps (h : SwapsInside old new k t t') : Swaps old new k t t' := by
  cases h with
  | same => exact .same t
  | before h => exact h.append (.same _)

theorem append (h : SwapsInside old new j s s') (h' : SwapsInside old new k t t') :
    SwapsInside old new (j + k) (s ++ t) (s' ++ t') := by
  cases h' with
  | same =>
    cases h with
    | same => exact .same _
    | before h hc hne =>
      rw [String.append_assoc, String.append_assoc]
      exact .before h (by rw [String.toList_append]; exact List.mem_append_left _ hc) hne
  | before h' hc hne =>
    rw [← String.append_assoc, ← String.append_assoc]
    exact .before (h.swaps.append h') hc hne

/-- Line feeds at the end are dropped from what is the same in both. -/
theorem dropNewlines (h : SwapsInside old new k t t') :
    Swaps old new k (dropNewlines t) (dropNewlines t') := by
  cases h with
  | same => exact .same _
  | before h hc hne =>
    rw [dropNewlines_append_of_mem hc hne, dropNewlines_append_of_mem hc hne]
    exact h.append (.same _)

/-- Either both texts are line feeds alone or neither is. -/
theorem isEmpty_dropNewlines (h : SwapsInside old new k t t') :
    (Text.dropNewlines t').isEmpty = (Text.dropNewlines t).isEmpty := by
  cases h with
  | same => rfl
  | @before _ s s' r c h hc hne =>
    have hkept (u : String) : (Text.dropNewlines (u ++ r)).isEmpty = false := by
      have hmem : c ∈ (Text.dropNewlines (u ++ r)).toList :=
        mem_dropNewlines (by rw [String.toList_append]; exact List.mem_append_right _ hc) hne
      rw [Bool.eq_false_iff, Ne, String.isEmpty_iff]
      rintro h
      rw [h] at hmem
      exact absurd hmem List.not_mem_nil
    rw [hkept, hkept]

end SwapsInside

end TexWeave
