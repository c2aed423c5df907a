import Mathlib.Data.List.Infix
import TexWeave.Source.Literal
import TexWeave.Source.Number

/-!
# How far a literal reaches

Scanning a number or a string takes characters from the start of what is left and changes none of
them: what was read and what is left, put together, are what there was.

* `Follows` — one split of a text goes further than another.
* `split_scanNumber`, `split_fractionTail` — the two ways to begin a number.
* `closeString_isSuffix` — what is left of a text behind the closing quote of a string.
-/

set_option autoImplicit false

namespace TexWeave
namespace Source

/-! ## Numbers -/

/-- The split `t` of a text reads on where `s` stops. -/
def Follows (s t : Split) : Prop := ∃ w : List Char, t.1 = w.reverse ++ s.1 ∧ s.2 = w ++ t.2

theorem Follows.refl (s : Split) : Follows s s := ⟨[], rfl, rfl⟩

theorem Follows.trans {s t u : Split} (h : Follows s t) (h' : Follows t u) : Follows s u := by
  obtain ⟨w, ht, hs⟩ := h
  obtain ⟨x, hu, ht'⟩ := h'
  exact ⟨w ++ x, by rw [hu, ht, List.reverse_append, List.append_assoc],
    by rw [hs, ht', List.append_assoc]⟩

/-- One character further. -/
theorem Follows.cons {c : Char} {read left : List Char} {t : Split}
    (h : Follows (c :: read, left) t) : Follows (read, c :: left) t :=
  Follows.trans ⟨[c], rfl, rfl⟩ h

/-- What is read and what is left stay the text there was. -/
theorem Follows.text {s t : Split} (h : Follows s t) :
    s.1.reverse ++ s.2 = t.1.reverse ++ t.2 := by
  obtain ⟨w, ht, hs⟩ := h
  rw [ht, hs, List.reverse_append, List.reverse_reverse, List.append_assoc]

theorem Follows.ne_nil {s t : Split} (h : Follows s t) (hs : s.1 ≠ []) : t.1 ≠ [] := by
  obtain ⟨w, ht, -⟩ := h
  rw [ht]
  exact List.append_ne_nil_of_right_ne_nil _ hs

section

variable {p : Char → Bool} {acc r : List Char} {s t u : Split}

theorem follows_digitRun (h : digitRun p acc r = some t) : Follows (acc, r) t := by
  fun_induction digitRun p acc r with
  | case1 acc =>
    cases h
    exact .refl _
  | case2 acc d r hd ih => exact (ih h).cons.cons
  | case3 => cases h
  | case4 => cases h
  | case5 acc c r _ _ hc ih => exact (ih h).cons
  | case6 acc c r _ _ hc =>
    cases h
    exact .refl _

theorem follows_basedRun (h : basedRun p acc r = some t) : Follows (acc, r) t := by
  fun_cases basedRun p acc r with
  | case1 d s hd =>
    rw [basedRun, if_pos hd] at h
    exact (follows_digitRun h).cons.cons
  | case2 d s hd =>
    rw [basedRun, if_neg hd] at h
    cases h
  | case3 d s hlow hd =>
    rw [basedRun, if_pos hd] at h
    · exact (follows_digitRun h).cons
    · exact hlow
  | case4 d s hlow hd =>
    rw [basedRun, if_neg hd] at h
    · cases h
    · exact hlow
  | case5 => cases h

theorem follows_endNumber (h : endNumber s = some t) : Follows s t := by
  rw [endNumber] at h
  split at h <;> cases h
  exact .refl s

theorem follows_bind {f : Split → Option Split} {o : Option Split}
    (ho : ∀ u, o = some u → Follows s u) (hf : ∀ u, f u = some t → Follows u t)
    (h : o.bind f = some t) : Follows s t := by
  obtain ⟨u, hu, ht⟩ := Option.bind_eq_some_iff.1 h
  exact (ho u hu).trans (hf u ht)

theorem follows_imaginaryTail (h : imaginaryTail s = some t) : Follows s t := by
  obtain ⟨acc, r⟩ := s
  cases r with
  | nil =>
    cases h
    exact .refl _
  | cons c r =>
    rw [imaginaryTail] at h
    dsimp only at h
    split at h
    · exact (follows_endNumber h).cons
    · exact follows_endNumber h

theorem follows_exponentTail (h : exponentTail s = some t) : Follows s t := by
  obtain ⟨acc, r⟩ := s
  have hdigits {acc r : List Char}
      (h : (digitRun isDecimal acc r).bind imaginaryTail = some t) : Follows (acc, r) t :=
    follows_bind (fun _ ↦ follows_digitRun) (fun _ ↦ follows_imaginaryTail) h
  cases r with
  | nil =>
    cases h
    exact .refl _
  | cons e r =>
    rw [exponentTail] at h
    dsimp only at h
    split at h
    · match r, h with
      | [], h => exact follows_endNumber h
      | [g], h =>
        dsimp only at h
        split at h
        · cases h
          exact (Follows.refl _).cons.cons
        · split at h
          · cases h
          · exact follows_endNumber h
      | g :: d :: r, h =>
        dsimp only at h
        split at h
        · split at h
          · exact (hdigits h).cons.cons.cons
          · cases h
        · split at h
          · exact (hdigits h).cons.cons
          · exact follows_endNumber h
    · exact follows_imaginaryTail h

theorem follows_fractionTail (h : fractionTail s = some t) : Follows s t := by
  obtain ⟨acc, r⟩ := s
  cases r with
  | nil =>
    cases h
    exact .refl _
  | cons d r =>
    rw [fractionTail] at h
    dsimp only at h
    split at h
    · exact (follows_bind (fun _ ↦ follows_digitRun) (fun _ ↦ follows_exponentTail) h).cons
    · exact follows_exponentTail h

theorem follows_pointTail (h : pointTail s = some t) : Follows s t := by
  obtain ⟨acc, r⟩ := s
  rw [pointTail] at h
  split at h
  · next r' hr =>
    cases hr
    exact (follows_fractionTail h).cons
  · exact follows_exponentTail h

theorem follows_decimalNumber {c : Char} (hc : isDecimal c = true)
    (h : decimalNumber (c :: r) = some t) : Follows ([c], r) t := by
  simp only [decimalNumber, Option.bind_eq_bind, Option.bind_eq_some_iff,
    Option.ite_none_left_eq_some, Option.some.injEq] at h
  obtain ⟨s, hs, -, u, hu, -, rfl⟩ := h
  have hlow : c ≠ '_' := by
    rintro rfl
    exact absurd hc (by decide)
  rw [digitRun, if_pos hc] at hs
  · exact (follows_digitRun hs).trans (follows_pointTail hu)
  · exact fun _ _ hlow' _ ↦ hlow hlow'
  · exact fun hlow' _ ↦ hlow hlow'

/-- **A number that opens with a digit** is at least that digit and the text goes on behind it. -/
theorem split_scanNumber {c : Char} (hc : c.isDigit = true) (h : scanNumber (c :: r) = some t) :
    c :: r = t.1.reverse ++ t.2 ∧ t.1 ≠ [] := by
  have hfollows : Follows ([c], r) t := by
    have hbased {q : Char → Bool} {b : Char} {r : List Char}
        (h : (basedRun q [b, '0'] r).bind endNumber = some t) : Follows (['0'], b :: r) t :=
      (follows_bind (fun _ ↦ follows_basedRun) (fun _ ↦ follows_endNumber) h).cons
    unfold scanNumber at h
    split at h
    · next b r' hr =>
      cases hr
      split at h
      · exact hbased h
      · split at h
        · exact hbased h
        · split at h
          · exact hbased h
          · exact follows_decimalNumber hc h
    · exact follows_decimalNumber hc h
  exact ⟨hfollows.text, hfollows.ne_nil (List.cons_ne_nil c [])⟩

/-- **A number that opens with a point** is at least that point. -/
theorem split_fractionTail {c : Char} (h : fractionTail ([c], r) = some t) :
    c :: r = t.1.reverse ++ t.2 ∧ t.1 ≠ [] :=
  have hfollows := follows_fractionTail h
  ⟨hfollows.text, hfollows.ne_nil (List.cons_ne_nil c [])⟩

end

/-! ## Strings -/

section

variable {q : Char} {acc r body rest : List Char}

theorem closeShort_isSuffix (h : closeShort q acc r = some (body, rest)) : q :: rest <:+ r := by
  fun_induction closeShort q acc r with
  | case1 => cases h
  | case2 acc c r ih => exact ((ih h).trans (List.suffix_cons c r)).trans (List.suffix_cons _ _)
  | case3 =>
    cases h
    exact List.suffix_refl _
  | case4 => cases h
  | case5 acc c r _ _ _ ih => exact (ih h).trans (List.suffix_cons _ _)

theorem closeLong_isSuffix (h : closeLong q acc r = some (body, rest)) : q :: rest <:+ r := by
  fun_induction closeLong q acc r with
  | case1 => cases h
  | case2 acc c r ih => exact ((ih h).trans (List.suffix_cons c r)).trans (List.suffix_cons _ _)
  | case3 acc c r _ hquotes =>
    cases h
    have htake : r.take 2 = [q, q] := by simpa using (Bool.and_eq_true_iff.1 hquotes).2
    have hr : [q, q] ++ r.drop 2 = r := htake ▸ List.take_append_drop 2 r
    exact ⟨[c, q], congrArg (c :: ·) hr⟩
  | case4 acc c r _ _ ih => exact (ih h).trans (List.suffix_cons _ _)

/-- **Behind the closing quote of a string** the text goes on. -/
theorem closeString_isSuffix (h : closeString q r = some (body, rest)) : q :: rest <:+ r := by
  rw [closeString] at h
  obtain ⟨⟨body', rest'⟩, hfound, hbody⟩ := Option.map_eq_some_iff.1 h
  cases hbody
  split at hfound
  · exact (closeLong_isSuffix hfound).trans (List.drop_suffix 2 r)
  · exact closeShort_isSuffix hfound

end

end Source
end TexWeave
