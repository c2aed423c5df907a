import TexWeave.Proofs.Reaching
import TexWeave.Proofs.Shifting

/-!
# Lines of comments

A line that holds nothing or nothing but a comment is passed as a whole: it opens and closes no
block, and its end may as well be the end of the text.

* `Passes` — from the start of a line over such lines to the start of another.
* `exists_passes` — all such lines in front of code or of the end of the text.
* `Passes.leaving` — they are passed whatever stands behind them.
* `Passes.exists_found` — their tokens, and the lines the comments stand on.
* `Passes.elsewhere` — they are passed wherever they stand.
-/

set_option autoImplicit false

namespace TexWeave
namespace Source

open Form

/-- A text of whole lines, each with the line feed that ends it. -/
def WholeLines (cs : List Char) : Prop := ∀ c ∈ cs.getLast?, c = '\n'

theorem wholeLines_nil : WholeLines [] := fun _ h ↦ by cases h

theorem WholeLines.behind {cs : List Char} (h : WholeLines cs) (l : List Char) :
    WholeLines (l ++ '\n' :: cs) := by
  intro c hc
  rw [List.getLast?_append_of_ne_nil l (List.cons_ne_nil _ _), List.getLast?_cons] at hc
  cases hcs : cs.getLast? with
  | none =>
    rw [hcs] at hc
    exact (Option.some.inj hc).symm
  | some e =>
    rw [hcs] at hc
    exact Option.some.inj hc ▸ h e hcs

theorem WholeLines.of_append {l cs : List Char} (h : WholeLines (l ++ cs)) : WholeLines cs :=
  fun c hc ↦ h c (by rw [List.getLast?_append, hc]; rfl)

namespace Scanner

/-- From the start of a line over lines that hold nothing but comments. -/
inductive Passes : Scanner → Scanner → Prop
  | here {s : Scanner} : Passes s s
  | line {s t u : Scanner} (hs : s.atLineStart = true) (h : s.lineStart = some t)
      (ht : t.atLineStart = true) (hrest : Passes t u) : Passes s u

section

variable {s t u : Scanner}

theorem Passes.trans (h : Passes s t) (h' : Passes t u) : Passes s u := by
  induction h with
  | here => exact h'
  | line hs h ht _ ih => exact .line hs h ht (ih h')

theorem Passes.atLineStart_eq (h : Passes s t) (hs : s.atLineStart = true) :
    t.atLineStart = true := by
  induction h with
  | here => exact hs
  | line _ _ ht _ ih => exact ih ht

/-- What is left of a line that holds nothing else is passed up to its end. -/
theorem comment_of_isAlone (h : isAlone s.rest = true) : ∃ w new, s.rest = w ++ s.comment.rest
    ∧ '\n' ∉ w ∧ s.comment = (s.advance w s.comment.rest).adding new
    ∧ ∀ k ∈ new, k = s.part w .comment := by
  cases hs : s.rest with
  | nil =>
    rw [hs] at h
    cases h
  | cons c r =>
    rw [hs] at h
    have hc : c = '#' ∨ c = '\n' := by simpa [isAlone] using h
    rcases hc with rfl | rfl
    · refine ⟨'#' :: r.takeWhile (· != '\n'), [s.part ('#' :: r.takeWhile (· != '\n')) .comment],
        ?_, ?_, ?_, List.forall_mem_singleton.2 rfl⟩
      · rw [comment_of_hash hs, emit_eq, adding_rest, advance_rest, List.cons_append,
          List.takeWhile_append_dropWhile]
      · rw [List.mem_cons, not_or]
        exact ⟨by decide, fun hmem ↦ by simpa using List.mem_takeWhile_imp hmem⟩
      · rw [comment_of_hash hs, emit_eq, adding_rest, advance_rest]
    · have hne : ∀ r', s.rest ≠ '#' :: r' := by
        rw [hs]
        exact fun r' heq ↦ absurd (List.cons.inj heq).1 (by decide)
      rw [comment_of_ne hne]
      exact ⟨[], [], hs.symm, List.not_mem_nil, rfl, List.forall_mem_nil _⟩

/-- **A line that is passed** ends behind its comment. -/
theorem exists_comment_of_lineStart (h : s.lineStart = some t) (ht : t.atLineStart = true) :
    ∃ d held v, measure (s.rest.length + 1) .zero none s = some (d, held, v)
      ∧ isAlone v.rest = true ∧ v.comment.rest = '\n' :: t.rest
      ∧ t = v.comment.emit .gap ['\n'] t.rest := by
  obtain ⟨⟨d, held, v⟩, hmeasure, -⟩ := Option.bind_eq_some_iff.1 h
  rw [lineStart_of_measure hmeasure] at h
  split at h
  · next halone =>
    rw [afterComment] at h
    split at h
    · next r hr =>
      obtain rfl := Option.some.inj h
      have htrest : (v.comment.emit .gap ['\n'] r).rest = r := by
        rw [emit_eq, adding_rest, advance_rest]
      rw [htrest]
      exact ⟨d, held, v, hmeasure, halone, hr, rfl⟩
    · cases h
      cases ht
  · split at h
    · cases h
      cases ht
    · obtain ⟨w, -, rfl⟩ := Option.map_eq_some_iff.1 h
      cases ht

/-- A line that is passed adds a comment at most, which stands on its last line. -/
theorem exists_found_of_passed (h : s.lineStart = some t) (ht : t.atLineStart = true) :
    t.depths = s.depths ∧ t.brackets = s.brackets ∧ ∃ new, t.found = new ++ s.found
      ∧ ∀ k ∈ new, k.isTrivia = true ∧ k.line + 1 = t.line := by
  obtain ⟨d, held, v, hmeasure, halone, hfeed, heq⟩ := exists_comment_of_lineStart h ht
  obtain ⟨used, -, -, hv⟩ := exists_spacing_of_measure hmeasure
  obtain ⟨w, new, -, hw, hcomment, hnew⟩ := comment_of_isAlone halone
  have hline : v.comment.line = v.line := by
    rw [hcomment, adding_line, advance_line, List.count_eq_zero.2 hw, Nat.add_zero]
  have htline : t.line = v.line + 1 := by
    rw [heq, emit_eq, adding_line, advance_line, hline]
    rfl
  have hvfound : v.found = s.found := by rw [hv, advance_found]
  refine ⟨?_, ?_, v.comment.part ['\n'] .gap :: new.reverse, ?_, ?_⟩
  · rw [heq, emit_eq, adding_depths, advance_depths, comment_depths, hv, advance_depths]
  · rw [heq, emit_eq, adding_brackets, advance_brackets, hcomment, adding_brackets,
      advance_brackets, hv, advance_brackets]
  · rw [heq, emit_eq, adding_found, advance_found, hcomment, adding_found, advance_found, hvfound]
    rfl
  · refine List.forall_mem_cons.2 ⟨⟨rfl, ?_⟩, fun k hk ↦ ?_⟩
    · rw [htline, ← hline]
      rfl
    · rw [hnew k (List.mem_reverse.1 hk), htline]
      exact ⟨rfl, rfl⟩

/-- A line that is passed adds nothing the grammar meets. -/
theorem significant_of_passed {new : List Token} (h : s.lineStart = some t)
    (ht : t.atLineStart = true) (hmove : Move s new t) : significant new = [] := by
  obtain ⟨-, -, new', hfound, htrivia⟩ := exists_found_of_passed h ht
  have hsame := List.append_cancel_right (hmove.found.symm.trans hfound)
  rw [significant, List.filter_eq_nil_iff]
  intro k hk
  simp [(htrivia k (hsame ▸ List.mem_reverse.2 hk)).1]

theorem comment_rest {s' : Scanner} (h : s'.rest = s.rest) : s'.comment.rest = s.comment.rest := by
  rw [Scanner.comment, Scanner.comment, h]
  split
  · rw [emit_eq, emit_eq, adding_rest, adding_rest, advance_rest, advance_rest]
  · exact h

/-- A line is passed wherever it stands. -/
theorem lineStart_elsewhere {s' : Scanner} (h : s.lineStart = some t) (ht : t.atLineStart = true)
    (hs' : s'.atLineStart = true) (hrest : s'.rest = s.rest) :
    ∃ t', s'.lineStart = some t' ∧ t'.atLineStart = true ∧ t'.rest = t.rest := by
  obtain ⟨d, held, v, hmeasure, halone, hfeed, -⟩ := exists_comment_of_lineStart h ht
  obtain ⟨used, -, -, hmeasure'⟩ := measure_same hmeasure hrest
  rw [← hrest] at hmeasure'
  have hv : (s'.advance used v.rest).rest = v.rest := advance_rest ..
  rw [lineStart_of_measure hmeasure', hv, if_pos halone,
    afterComment_of_feed ((comment_rest hv).trans hfeed)]
  refine ⟨_, rfl, ?_, ?_⟩
  · obtain ⟨_, _, -, -, hcomment, -⟩ := comment_of_isAlone (hv.symm ▸ halone)
    rw [emit_eq, adding_atLineStart, advance_atLineStart, hcomment, adding_atLineStart,
      advance_atLineStart, advance_atLineStart, hs']
  · rw [emit_eq, adding_rest, advance_rest]

/-- **A line is passed whatever stands behind it.** -/
theorem lineStart_leaving (h : s.lineStart = some t) (ht : t.atLineStart = true) :
    ∃ z, s.rest = z ++ '\n' :: t.rest
      ∧ ∀ Y, (s.leaving (z ++ '\n' :: Y)).lineStart = some (t.leaving Y) := by
  obtain ⟨d, held, v, hmeasure, halone, hfeed, heq⟩ := exists_comment_of_lineStart h ht
  obtain ⟨used, -, hused, -⟩ := exists_spacing_of_measure hmeasure
  obtain ⟨w, new, hw, -⟩ := comment_of_isAlone halone
  rw [hfeed] at hw
  rw [hw, ← List.append_assoc] at hused
  refine ⟨_, hused, fun Y ↦ ?_⟩
  have hahead := measure_ahead (Y := Y) (m := (used ++ w ++ '\n' :: Y).length + 1) hused hw
    (by simp only [List.length_append, List.length_cons]; omega) hmeasure
  obtain ⟨w', hw', hcomment⟩ := comment_ahead (Y := Y) hw
  obtain rfl : w' = [] := by
    rw [hfeed] at hw'
    exact (List.append_left_inj ('\n' :: t.rest)).1 hw'.symm
  rw [lineStart_of_measure (t := v.leaving (w ++ '\n' :: Y)) hahead, hcomment]
  have halone' : isAlone (w ++ '\n' :: Y) = true := by
    rw [hw] at halone
    cases w with
    | nil => rfl
    | cons c w => exact halone
  rw [leaving_rest, if_pos halone', List.nil_append, afterComment_of_feed (leaving_rest ..), heq,
    leaving_emit, emit_leaving]

/-! ## Several lines -/

theorem Passes.reaches (h : Passes s t) : Reaches s [] t := by
  induction h with
  | here => exact .here
  | @line s t u hs h ht hrest ih =>
    have hnext : s.next = some t := by rwa [next, if_pos hs]
    obtain ⟨new, hmove⟩ := exists_move_of_next hnext
    have hreaches := Reaches.move hmove ih hnext
    rwa [significant_of_passed h ht hmove, List.append_nil] at hreaches

theorem Passes.same (h : Passes s t) : t.depths = s.depths ∧ t.brackets = s.brackets := by
  induction h with
  | here => exact ⟨rfl, rfl⟩
  | line _ h ht _ ih =>
    obtain ⟨hdepths, hbrackets, -⟩ := exists_found_of_passed h ht
    exact ⟨ih.1.trans hdepths, ih.2.trans hbrackets⟩

/-- The tokens of lines that are passed, and the lines behind which they stand. -/
theorem Passes.exists_found (h : Passes s t) : ∃ new, t.found = new ++ s.found
    ∧ ∀ k ∈ new, k.isTrivia = true ∧ ∃ u, Passes s u ∧ k.line + 1 = u.line ∧ Passes u t := by
  induction h with
  | here => exact ⟨[], rfl, List.forall_mem_nil _⟩
  | @line s t u hs h ht hrest ih =>
    obtain ⟨-, -, new, hfound, hnew⟩ := exists_found_of_passed h ht
    obtain ⟨more, hmore, hall⟩ := ih
    refine ⟨more ++ new, by rw [hmore, hfound, List.append_assoc],
      List.forall_mem_append.2 ⟨?_, ?_⟩⟩
    · intro k hk
      obtain ⟨htrivia, v, hv, hline, hvu⟩ := hall k hk
      exact ⟨htrivia, v, .line hs h ht hv, hline, hvu⟩
    · intro k hk
      exact ⟨(hnew k hk).1, t, .line hs h ht .here, (hnew k hk).2, hrest⟩

/-- Lines are passed whatever stands behind them. -/
theorem Passes.leaving (h : Passes s t) : ∃ z, s.rest = z ++ t.rest ∧ WholeLines z
    ∧ ∀ Y, Passes (s.leaving (z ++ Y)) (t.leaving Y) := by
  induction h with
  | here => exact ⟨[], rfl, wholeLines_nil, fun Y ↦ .here⟩
  | @line s t u hs h ht hrest ih =>
    obtain ⟨z, hz, hpasses⟩ := lineStart_leaving h ht
    obtain ⟨x, hx, hends, hmore⟩ := ih
    refine ⟨z ++ '\n' :: x, by rw [hz, hx, List.append_assoc, List.cons_append],
      hends.behind z, fun Y ↦ ?_⟩
    rw [List.append_assoc, List.cons_append]
    exact .line hs (hpasses _) ht (hmore Y)

/-- **Lines are passed wherever they stand.** -/
theorem Passes.elsewhere {q : Scanner} (h : Passes s t) (hq : q.atLineStart = true)
    (hrest : q.rest = s.rest) : ∃ t', Passes q t' ∧ t'.rest = t.rest := by
  induction h generalizing q with
  | here => exact ⟨q, .here, hrest⟩
  | line hs h ht _ ih =>
    obtain ⟨t', h', ht', hrest'⟩ := lineStart_elsewhere h ht hq hrest
    obtain ⟨u', hu', hend⟩ := ih ht' hrest'
    exact ⟨u', .line hq h' ht' hu', hend⟩

/-- **All lines of comments in front of code** or of the end of the text. -/
theorem exists_passes {out : List Token} (h : Runs s out) (hs : s.atLineStart = true) :
    ∃ t out', Passes s t ∧ t.atLineStart = true ∧ Runs t out' ∧ significant out' = significant out
      ∧ (t.rest = [] ∨ ∃ u, t.lineStart = some u ∧ u.atLineStart = false) := by
  induction h with
  | @finish s hrest hbrackets =>
    exact ⟨s, _, .here, hs, .finish hrest hbrackets, rfl, .inl hrest⟩
  | @move s t new out hmove hruns hnext ih =>
    have hstart : s.lineStart = some t := by rwa [next, if_pos hs] at hnext
    cases ht : t.atLineStart with
    | false => exact ⟨s, _, .here, hs, .move hmove hruns hnext, rfl, .inr ⟨t, hstart, ht⟩⟩
    | true =>
      obtain ⟨u, out', hpasses, hu, hruns', hout, hend⟩ := ih ht
      refine ⟨u, out', .line hs hstart ht hpasses, hu, hruns', ?_, hend⟩
      rw [significant_append, significant_of_passed hstart ht hmove, hout]
      rfl

end

end Scanner
end Source
end TexWeave
