import TexWeave.Proofs.Literals

/-!
# How far ahead a literal looks

A number ends in front of the end of its line, and nothing behind that matters to it.  A string may
go on for lines, but a line feed behind it is as far as anything looks to see that it is over.  So
two texts that begin alike up to a line feed have the same literal if it ends in front of that.

* `LooksToLine` — a step of a number that does not look past the end of the line.
* `looksToLine_scanNumber`, `looksToLine_fractionTail` — the two ways to begin a number.
* `newline_not_mem_scanNumber` — so a number stands on one line.
* `closeString_ahead` — where a string ends.
* `isPrefixOf_ahead`, `operatorAt?_ahead` — which operator comes next.
-/

set_option autoImplicit false

namespace TexWeave
namespace Source

/-! ## The beginning of a text -/

section

variable {X Y : List Char}

/-- Whether a text begins with characters of one line is seen in front of its first line feed. -/
theorem isPrefixOf_ahead {o : List Char} (ho : '\n' ∉ o) (x : List Char) :
    o.isPrefixOf (x ++ '\n' :: X) = o.isPrefixOf (x ++ '\n' :: Y) := by
  induction o generalizing x with
  | nil => rfl
  | cons c o ih =>
    have hc : (c == '\n') = false := by
      rw [beq_eq_false_iff_ne]
      exact fun h ↦ ho (h ▸ List.mem_cons_self)
    cases x with
    | nil => rw [List.nil_append, List.nil_append, List.isPrefixOf, List.isPrefixOf, hc,
        Bool.false_and, Bool.false_and]
    | cons d x =>
      rw [List.cons_append, List.cons_append, List.isPrefixOf, List.isPrefixOf,
        ih (List.not_mem_of_not_mem_cons ho)]

theorem operatorAt?_ahead (x : List Char) :
    operatorAt? (x ++ '\n' :: X) = operatorAt? (x ++ '\n' :: Y) := by
  have hfeed : ∀ o ∈ operators.flatten, '\n' ∉ o.toList := by decide
  rw [operatorAt?, operatorAt?]
  generalize operators.flatten = os at hfeed
  induction os with
  | nil => rfl
  | cons o os ih =>
    rw [List.find?_cons, List.find?_cons, isPrefixOf_ahead (hfeed o List.mem_cons_self) x,
      ih fun o ho ↦ hfeed o (List.mem_cons_of_mem _ ho)]

theorem takeWhile_ahead {p : Char → Bool} (hp : p '\n' = false) (x : List Char) :
    (x ++ '\n' :: X).takeWhile p = x.takeWhile p := by
  rw [List.takeWhile_append]
  split
  · next hall =>
    rw [List.takeWhile_cons_of_neg (by simp [hp]), List.append_nil]
    exact ((List.takeWhile_prefix p).eq_of_length hall).symm
  · rfl

theorem dropWhile_ahead {p : Char → Bool} (hp : p '\n' = false) (x : List Char) :
    (x ++ '\n' :: X).dropWhile p = x.dropWhile p ++ '\n' :: X := by
  rw [List.dropWhile_append]
  split
  · next hall =>
    rw [List.dropWhile_cons_of_neg (by simp [hp]), List.isEmpty_iff.1 hall, List.nil_append]
  · rfl

end

/-! ## Numbers -/

/-- Two splits of texts that go on differently behind a line feed, which is left in both. -/
def SameToLine (X Y : List Char) (o o' : Option Split) : Prop :=
  ∀ t, o = some t → ∃ w, t.2 = w ++ '\n' :: X ∧ o' = some (t.1, w ++ '\n' :: Y)

section

variable {X Y : List Char} {o o' u u' : Option Split}

theorem sameToLine_none : SameToLine X Y none o' := fun _ h ↦ by cases h

theorem sameToLine_some (acc x : List Char) :
    SameToLine X Y (some (acc, x ++ '\n' :: X)) (some (acc, x ++ '\n' :: Y)) := by
  rintro _ ⟨⟩
  exact ⟨x, rfl, rfl⟩

theorem SameToLine.ite {c : Prop} [Decidable c] (h : SameToLine X Y o o')
    (h' : SameToLine X Y u u') : SameToLine X Y (if c then o else u) (if c then o' else u') := by
  split
  · exact h
  · exact h'

end

/-- A step of a number that does not look past the end of the line. -/
def LooksToLine (f : Split → Option Split) : Prop :=
  ∀ X Y acc x, SameToLine X Y (f (acc, x ++ '\n' :: X)) (f (acc, x ++ '\n' :: Y))

theorem SameToLine.bind {X Y : List Char} {o o' : Option Split} {f : Split → Option Split}
    (h : SameToLine X Y o o') (hf : LooksToLine f) : SameToLine X Y (o.bind f) (o'.bind f) := by
  intro t ht
  obtain ⟨⟨acc, r⟩, hu, ht⟩ := Option.bind_eq_some_iff.1 ht
  obtain ⟨w, rfl, rfl⟩ := h _ hu
  exact hf X Y acc w t ht

section

variable {p : Char → Bool}

theorem digitRun_cons {c : Char} (hc : c ≠ '_') (acc r : List Char) : digitRun p acc (c :: r)
    = if p c then digitRun p (c :: acc) r else some (acc, c :: r) := by
  rw [digitRun]
  · exact fun _ _ h _ ↦ hc h
  · exact fun h _ ↦ hc h

theorem basedRun_cons {c : Char} (hc : c ≠ '_') (acc r : List Char) : basedRun p acc (c :: r)
    = if p c then digitRun p (c :: acc) r else none := by
  unfold basedRun
  split
  · next heq => exact absurd (List.cons.inj heq).1 hc
  · next heq =>
    cases heq
    rfl
  · next heq => cases heq

theorem looksToLine_digitRun (hp : p '\n' = false) : LooksToLine fun s ↦ digitRun p s.1 s.2 := by
  intro X Y acc x
  dsimp only
  induction hn : x.length using Nat.strong_induction_on generalizing acc x with
  | h n ih =>
    subst hn
    cases x with
    | nil =>
      rw [List.nil_append, List.nil_append, digitRun_cons (by decide), digitRun_cons (by decide)]
      simp only [hp, Bool.false_eq_true, if_false]
      exact sameToLine_some acc []
    | cons c x =>
      by_cases hc : c = '_'
      · subst hc
        cases x with
        | nil =>
          rw [List.cons_append, List.nil_append, digitRun, hp]
          exact sameToLine_none
        | cons d x =>
          simp only [List.cons_append, digitRun]
          exact (ih x.length (by simp only [List.length_cons]; omega) _ x rfl).ite sameToLine_none
      · rw [List.cons_append, List.cons_append, digitRun_cons hc, digitRun_cons hc]
        exact (ih x.length (by simp) _ x rfl).ite (sameToLine_some acc (c :: x))

theorem looksToLine_basedRun (hp : p '\n' = false) : LooksToLine fun s ↦ basedRun p s.1 s.2 := by
  intro X Y acc x
  dsimp only
  have hdigits := looksToLine_digitRun hp X Y
  cases x with
  | nil =>
    rw [List.nil_append, basedRun_cons (by decide), hp]
    exact sameToLine_none
  | cons c x =>
    by_cases hc : c = '_'
    · subst hc
      cases x with
      | nil =>
        simp only [List.cons_append, List.nil_append, basedRun, hp]
        exact sameToLine_none
      | cons d x =>
        simp only [List.cons_append, basedRun]
        exact (hdigits _ x).ite sameToLine_none
    · rw [List.cons_append, List.cons_append, basedRun_cons hc, basedRun_cons hc]
      exact (hdigits _ x).ite sameToLine_none

end

theorem endsNumber_ahead {X Y : List Char} (x : List Char) :
    endsNumber (x ++ '\n' :: X) = endsNumber (x ++ '\n' :: Y) := by
  have hfeed : ∀ w ∈ followers, '\n' ∉ w.toList := by decide
  have hany : followers.any (fun w ↦ w.toList.isPrefixOf (x ++ '\n' :: X))
      = followers.any fun w ↦ w.toList.isPrefixOf (x ++ '\n' :: Y) := by
    rw [Bool.eq_iff_iff, List.any_eq_true, List.any_eq_true]
    exact exists_congr fun w ↦ and_congr_right fun hw ↦ by
      rw [isPrefixOf_ahead (hfeed w hw)]
  cases x with
  | nil => rfl
  | cons c x =>
    rw [List.cons_append, List.cons_append] at hany ⊢
    rw [endsNumber, endsNumber, hany]

theorem looksToLine_endNumber : LooksToLine endNumber := by
  intro X Y acc x
  rw [endNumber, endNumber, endsNumber_ahead (Y := Y)]
  exact (sameToLine_some acc x).ite sameToLine_none

theorem looksToLine_imaginaryTail : LooksToLine imaginaryTail := by
  intro X Y acc x
  cases x with
  | nil => exact looksToLine_endNumber X Y acc []
  | cons c x =>
    rw [List.cons_append, List.cons_append, imaginaryTail, imaginaryTail]
    exact (looksToLine_endNumber X Y _ x).ite (looksToLine_endNumber X Y acc (c :: x))

theorem exponentTail_cons (e : Char) (acc r : List Char) : exponentTail (acc, e :: r)
    = if e == 'e' || e == 'E' then
        match r with
        | g :: d :: t =>
          if g == '+' || g == '-' then
            if isDecimal d then (digitRun isDecimal (d :: g :: e :: acc) t).bind imaginaryTail
            else none
          else if isDecimal g then (digitRun isDecimal (g :: e :: acc) (d :: t)).bind imaginaryTail
          else endNumber (acc, e :: g :: d :: t)
        | [g] =>
          if isDecimal g then some (g :: e :: acc, [])
          else if g == '+' || g == '-' then none
          else endNumber (acc, [e, g])
        | [] => endNumber (acc, [e])
      else imaginaryTail (acc, e :: r) := by
  match r with
  | [] => rfl
  | [_] => rfl
  | _ :: _ :: _ => rfl

theorem looksToLine_exponentTail : LooksToLine exponentTail := by
  intro X Y acc x
  have hdigits (acc x : List Char) : SameToLine X Y
      ((digitRun isDecimal acc (x ++ '\n' :: X)).bind imaginaryTail)
      ((digitRun isDecimal acc (x ++ '\n' :: Y)).bind imaginaryTail) :=
    (looksToLine_digitRun (by decide) X Y acc x).bind looksToLine_imaginaryTail
  cases x with
  | nil => exact looksToLine_imaginaryTail X Y acc []
  | cons e x =>
    rw [List.cons_append, List.cons_append, exponentTail_cons, exponentTail_cons]
    refine .ite ?_ (looksToLine_imaginaryTail X Y acc (e :: x))
    match x with
    | [] =>
      have hnone (r : List Char) : (match '\n' :: r with
          | g :: d :: t =>
            if g == '+' || g == '-' then
              if isDecimal d then (digitRun isDecimal (d :: g :: e :: acc) t).bind imaginaryTail
              else none
            else if isDecimal g then
              (digitRun isDecimal (g :: e :: acc) (d :: t)).bind imaginaryTail
            else endNumber (acc, e :: g :: d :: t)
          | [g] =>
            if isDecimal g then some (g :: e :: acc, [])
            else if g == '+' || g == '-' then none
            else endNumber (acc, [e, g])
          | [] => endNumber (acc, [e])) = endNumber (acc, e :: '\n' :: r) := by
        cases r <;> rfl
      rw [List.nil_append, List.nil_append, hnone, hnone]
      exact looksToLine_endNumber X Y acc [e]
    | [g] =>
      exact .ite sameToLine_none (.ite (hdigits _ []) (looksToLine_endNumber X Y acc [e, g]))
    | g :: d :: x =>
      exact .ite (.ite (hdigits _ x) sameToLine_none)
        (.ite (hdigits _ (d :: x)) (looksToLine_endNumber X Y acc (e :: g :: d :: x)))

theorem looksToLine_fractionTail : LooksToLine fractionTail := by
  intro X Y acc x
  cases x with
  | nil => exact looksToLine_exponentTail X Y acc []
  | cons d x =>
    rw [List.cons_append, List.cons_append, fractionTail, fractionTail]
    exact .ite ((looksToLine_digitRun (by decide) X Y _ x).bind looksToLine_exponentTail)
      (looksToLine_exponentTail X Y acc (d :: x))

theorem looksToLine_pointTail : LooksToLine pointTail := by
  intro X Y acc x
  cases x with
  | nil => exact looksToLine_exponentTail X Y acc []
  | cons c x =>
    by_cases hc : c = '.'
    · rw [hc]
      exact looksToLine_fractionTail X Y _ x
    · have hpoint (r : List Char) : pointTail (acc, c :: r) = exponentTail (acc, c :: r) := by
        unfold pointTail
        split
        · next heq => exact absurd (List.cons.inj heq).1 hc
        · rfl
      rw [List.cons_append, List.cons_append, hpoint, hpoint]
      exact looksToLine_exponentTail X Y acc (c :: x)

theorem looksToLine_decimalNumber : LooksToLine fun s ↦ decimalNumber s.2 := by
  intro X Y acc x
  have hhead : (x ++ '\n' :: X).head? = (x ++ '\n' :: Y).head? := by cases x <;> rfl
  have hleaves (w : List Char) :
      leavesInteger (w ++ '\n' :: X) = leavesInteger (w ++ '\n' :: Y) := by cases w <;> rfl
  rintro t ht
  simp only [decimalNumber, Option.bind_eq_bind, Option.bind_eq_some_iff,
    Option.ite_none_left_eq_some, Option.some.injEq] at ht
  obtain ⟨⟨ds, r⟩, hs, hzero, u, hu, hlong, rfl⟩ := ht
  obtain ⟨w, rfl, hw⟩ := looksToLine_digitRun (by decide) X Y [] x _ hs
  obtain ⟨w', hw', hu'⟩ := looksToLine_pointTail X Y ds w _ hu
  refine ⟨w', hw', ?_⟩
  dsimp only at hw hzero hlong ⊢
  rw [hleaves, hhead] at hzero
  simp only [decimalNumber, hw, Option.bind_eq_bind, Option.bind_some, if_neg hzero, hu',
    if_neg hlong]

/-- **A number that opens with a digit** does not look past the end of its line. -/
theorem looksToLine_scanNumber : LooksToLine fun s ↦ scanNumber s.2 := by
  intro X Y acc x
  have hdecimal := looksToLine_decimalNumber X Y acc x
  have hbased {p : Char → Bool} (hp : p '\n' = false) (acc x : List Char) : SameToLine X Y
      ((basedRun p acc (x ++ '\n' :: X)).bind endNumber)
      ((basedRun p acc (x ++ '\n' :: Y)).bind endNumber) :=
    (looksToLine_basedRun hp X Y acc x).bind looksToLine_endNumber
  have hplain {c : Char} (hc : c ≠ '0') (r : List Char) :
      scanNumber (c :: r) = decimalNumber (c :: r) := by
    unfold scanNumber
    split
    · next heq => exact absurd (List.cons.inj heq).1 hc
    · rfl
  dsimp only at hdecimal ⊢
  match x with
  | [] => rwa [List.nil_append, List.nil_append, hplain (by decide), hplain (by decide)]
  | [c] =>
    by_cases hc : c = '0'
    · subst hc
      exact hdecimal
    · rwa [List.cons_append, List.cons_append, hplain hc, hplain hc]
  | c :: b :: x =>
    by_cases hc : c = '0'
    · subst hc
      exact .ite (hbased (by decide) _ x)
        (.ite (hbased (by decide) _ x) (.ite (hbased (by decide) _ x) hdecimal))
    · simp only [List.cons_append] at hdecimal ⊢
      rwa [hplain hc, hplain hc]

/-- What leaves every line feed there is passes none. -/
theorem newline_not_mem_of_leaves {text : List Char} {t : Split}
    (htext : text = t.1.reverse ++ t.2)
    (hleaves : ∀ x X, text = x ++ '\n' :: X → ∃ w, t.2 = w ++ '\n' :: X) : '\n' ∉ t.1 := by
  intro hmem
  obtain ⟨x, y, hxy⟩ := List.append_of_mem (List.mem_reverse.2 hmem)
  obtain ⟨w, hw⟩ := hleaves x (y ++ t.2) (by rw [htext, hxy, List.append_assoc, List.cons_append])
  have hlength := congrArg List.length hw
  simp only [List.length_append, List.length_cons] at hlength
  omega

/-- **Numbers have no line feeds in them.** -/
theorem newline_not_mem_scanNumber {c : Char} {r : List Char} {t : Split} (hc : c.isDigit = true)
    (h : scanNumber (c :: r) = some t) : '\n' ∉ t.1 := by
  refine newline_not_mem_of_leaves (split_scanNumber hc h).1 fun x X hx ↦ ?_
  obtain ⟨w, hw, -⟩ := looksToLine_scanNumber X [] [] x t (by rw [← hx]; exact h)
  exact ⟨w, hw⟩

theorem newline_not_mem_fractionTail {r : List Char} {t : Split}
    (h : fractionTail (['.'], r) = some t) : '\n' ∉ t.1 := by
  refine newline_not_mem_of_leaves (split_fractionTail h).1 fun x X hx ↦ ?_
  cases x with
  | nil => exact absurd (List.cons.inj hx).1 (by decide)
  | cons c x =>
    obtain ⟨-, rfl⟩ := List.cons.inj hx
    obtain ⟨w, hw, -⟩ := looksToLine_fractionTail X [] ['.'] x t h
    exact ⟨w, hw⟩

/-! ## Strings -/

section

variable {q : Char} {acc x body rest X Y : List Char}

theorem length_lt_of_suffix {w : List Char} (h : q :: (w ++ '\n' :: X) <:+ X) : False := by
  have hlength := h.length_le
  rw [List.length_cons, List.length_append, List.length_cons] at hlength
  omega

theorem closeShort_cons {c : Char} (hc : c ≠ '\\') (acc r : List Char) : closeShort q acc (c :: r)
    = if c = q then some (acc, r) else if c = '\n' || c = '\\' then none
      else closeShort q (c :: acc) r := by
  rw [closeShort]
  exact fun _ _ h _ ↦ hc h

theorem closeLong_cons {c : Char} (hc : c ≠ '\\') (acc r : List Char) : closeLong q acc (c :: r)
    = if c = q && r.take 2 == [q, q] then some (acc, r.drop 2) else closeLong q (c :: acc) r := by
  rw [closeLong]
  exact fun _ _ h _ ↦ hc h

theorem closeShort_escape (d : Char) (acc r : List Char) :
    closeShort q acc ('\\' :: d :: r) = closeShort q (d :: '\\' :: acc) r := by
  rw [closeShort]

theorem closeLong_escape (d : Char) (acc r : List Char) :
    closeLong q acc ('\\' :: d :: r) = closeLong q (d :: '\\' :: acc) r := by
  rw [closeLong]

variable (hq : q ≠ '\n')

include hq

theorem closeShort_ahead (h : closeShort q acc (x ++ '\n' :: X) = some (body, rest ++ '\n' :: X)) :
    closeShort q acc (x ++ '\n' :: Y) = some (body, rest ++ '\n' :: Y) := by
  induction hn : x.length using Nat.strong_induction_on generalizing acc x with
  | h n ih =>
    subst hn
    cases x with
    | nil =>
      rw [List.nil_append, closeShort_cons (by decide), if_neg (Ne.symm hq)] at h
      cases h
    | cons c x =>
      by_cases hc : c = '\\'
      · subst hc
        cases x with
        | nil =>
          rw [List.cons_append, List.nil_append, closeShort_escape] at h
          exact (length_lt_of_suffix (closeShort_isSuffix h)).elim
        | cons d x =>
          rw [List.cons_append, List.cons_append, closeShort_escape] at h ⊢
          exact ih x.length (by simp only [List.length_cons]; omega) h rfl
      · rw [List.cons_append, closeShort_cons hc] at h ⊢
        split at h
        · next hcq =>
          obtain ⟨rfl, hrest⟩ := Prod.mk.inj (Option.some.inj h)
          rw [if_pos hcq, List.append_cancel_right hrest]
        · next hcq =>
          split at h
          · cases h
          · next hstop =>
            rw [if_neg hcq, if_neg hstop]
            exact ih x.length (by simp) h rfl

theorem take_ahead (x : List Char) :
    ((x ++ '\n' :: X).take 2 == [q, q]) = ((x ++ '\n' :: Y).take 2 == [q, q]) := by
  have hfeed : ('\n' == q) = false := beq_eq_false_iff_ne.2 (Ne.symm hq)
  match x with
  | [] =>
    rw [List.nil_append, List.nil_append, List.take_succ_cons, List.take_succ_cons,
      List.cons_beq_cons, List.cons_beq_cons, hfeed, Bool.false_and, Bool.false_and]
  | [c] => rfl
  | c :: d :: x => rfl

/-- Three quotes in front of a line feed leave what is in front of it. -/
theorem exists_of_take_eq (h : ((x ++ '\n' :: X).take 2 == [q, q]) = true) :
    ∃ w, x = q :: q :: w := by
  rw [beq_iff_eq] at h
  match x with
  | [] => exact absurd (List.cons.inj h).1 (Ne.symm hq)
  | [c] => exact absurd (List.cons.inj (List.cons.inj h).2).1 (Ne.symm hq)
  | c :: d :: x =>
    obtain ⟨rfl, h⟩ := List.cons.inj h
    obtain ⟨rfl, -⟩ := List.cons.inj h
    exact ⟨x, rfl⟩

theorem closeLong_ahead (h : closeLong q acc (x ++ '\n' :: X) = some (body, rest ++ '\n' :: X)) :
    closeLong q acc (x ++ '\n' :: Y) = some (body, rest ++ '\n' :: Y) := by
  induction hn : x.length using Nat.strong_induction_on generalizing acc x with
  | h n ih =>
    subst hn
    cases x with
    | nil =>
      rw [List.nil_append, closeLong_cons (by decide), if_neg (by simp [Ne.symm hq])] at h
      exact (length_lt_of_suffix (closeLong_isSuffix h)).elim
    | cons c x =>
      by_cases hc : c = '\\'
      · subst hc
        cases x with
        | nil =>
          rw [List.cons_append, List.nil_append, closeLong_escape] at h
          exact (length_lt_of_suffix (closeLong_isSuffix h)).elim
        | cons d x =>
          rw [List.cons_append, List.cons_append, closeLong_escape] at h ⊢
          exact ih x.length (by simp only [List.length_cons]; omega) h rfl
      · rw [List.cons_append, closeLong_cons hc] at h ⊢
        rw [← take_ahead hq x]
        split at h
        · next hend =>
          rw [if_pos hend]
          obtain ⟨w, rfl⟩ := exists_of_take_eq hq (Bool.and_eq_true_iff.1 hend).2
          obtain ⟨rfl, hrest⟩ := Prod.mk.inj (Option.some.inj h)
          rw [← List.append_cancel_right hrest]
          rfl
        · next hend =>
          rw [if_neg hend]
          exact ih x.length (by simp) h rfl

/-- **Where a string ends** is seen without what stands behind the next line feed. -/
theorem closeString_ahead (h : closeString q (x ++ '\n' :: X) = some (body, rest ++ '\n' :: X)) :
    closeString q (x ++ '\n' :: Y) = some (body, rest ++ '\n' :: Y) := by
  rw [closeString] at h ⊢
  obtain ⟨⟨acc, r⟩, hfound, hbody⟩ := Option.map_eq_some_iff.1 h
  obtain ⟨rfl, rfl⟩ := Prod.mk.inj hbody
  rw [← take_ahead hq x]
  split at hfound
  · next hlong =>
    obtain ⟨w, rfl⟩ := exists_of_take_eq hq hlong
    rw [if_pos hlong]
    exact congrArg (Option.map _) (closeLong_ahead hq (x := w) hfound)
  · next hlong =>
    rw [if_neg hlong, closeShort_ahead hq hfound]
    rfl

end

end Source
end TexWeave
