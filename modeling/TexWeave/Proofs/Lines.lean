import Mathlib.Data.List.DropRight
import TexWeave.Text.Lines

/-!
# Lines put together and taken apart

Joining lines and splitting a text undo each other.  Line feeds at the end of a text are the one
thing that rendering drops, so it matters what the dropping can reach: never a character in front of
one that is kept.

* `splitLines_joinLines`, `joinLines_splitLines` — the two directions.
* `joinLines_append`, `exists_joinLines_append` — more lines make a longer text with the same
  beginning.
* `endLines` — lines that all end, the last one too; nothing depends on which is the last.
* `dropNewlines_append`, `exists_eq_dropNewlines_append` — what dropping line feeds leaves.
-/

set_option autoImplicit false

namespace TexWeave
namespace Text

/-! ## Joining -/

theorem joinWith_cons_cons (sep s t : String) (r : List String) :
    joinWith sep (s :: t :: r) = s ++ (sep ++ joinWith sep (t :: r)) := rfl

theorem joinLines_cons {s : String} {ls : List String} (h : ls ≠ []) :
    joinLines (s :: ls) = s ++ ("\n" ++ joinLines ls) := by
  obtain ⟨t, r, rfl⟩ := List.exists_cons_of_ne_nil h
  exact joinWith_cons_cons "\n" s t r

theorem joinLines_append {ls more : List String} (h : ls ≠ []) (h' : more ≠ []) :
    joinLines (ls ++ more) = joinLines ls ++ ("\n" ++ joinLines more) := by
  induction ls with
  | nil => exact absurd rfl h
  | cons s r ih =>
    rw [List.cons_append, joinLines_cons (List.append_ne_nil_of_right_ne_nil r h')]
    cases r with
    | nil => rfl
    | cons t r =>
      rw [ih (List.cons_ne_nil t r), joinLines_cons (List.cons_ne_nil t r)]
      simp only [String.append_assoc]

theorem exists_joinLines_append (ls more : List String) :
    ∃ t, joinLines (ls ++ more) = joinLines ls ++ t := by
  by_cases h : ls = []
  · exact ⟨joinLines more, by rw [h, List.nil_append]; exact String.empty_append.symm⟩
  by_cases h' : more = []
  · exact ⟨"", by rw [h', List.append_nil, String.append_empty]⟩
  · exact ⟨_, joinLines_append h h'⟩

theorem infix_joinLines {l : String} {ls : List String} (h : l ∈ ls) :
    l.toList <:+: (joinLines ls).toList := by
  induction ls with
  | nil => exact absurd h List.not_mem_nil
  | cons s r ih =>
    by_cases hr : r = []
    · rw [hr, List.mem_singleton] at h
      rw [hr, h]
      exact List.infix_rfl
    · rw [joinLines_cons hr, String.toList_append, String.toList_append]
      rcases List.mem_cons.1 h with rfl | h
      · exact (List.prefix_append _ _).isInfix
      · exact (ih h).trans ((List.suffix_append _ _).trans (List.suffix_append _ _)).isInfix

/-- Lines put together with a line feed after each. -/
def endLines (ls : List String) : String := String.join (ls.map (· ++ "\n"))

@[simp] theorem endLines_nil : endLines [] = "" := rfl

@[simp] theorem endLines_cons (l : String) (ls : List String) :
    endLines (l :: ls) = l ++ ("\n" ++ endLines ls) := by
  rw [endLines, List.map_cons, String.join_cons, String.append_assoc, endLines]

theorem endLines_append (a b : List String) :
    endLines (a ++ b) = endLines a ++ endLines b := by
  rw [endLines, List.map_append, String.join_append, endLines, endLines]

theorem endLines_flatten (bs : List (List String)) :
    endLines bs.flatten = String.join (bs.map endLines) := by
  induction bs with
  | nil => rfl
  | cons b bs ih => rw [List.flatten_cons, endLines_append, ih, List.map_cons, String.join_cons]

theorem endLines_eq {ls : List String} (h : ls ≠ []) : endLines ls = joinLines ls ++ "\n" := by
  induction ls with
  | nil => exact absurd rfl h
  | cons s r ih =>
    by_cases hr : r = []
    · rw [hr, endLines_cons, endLines_nil, String.append_empty]
      rfl
    · rw [endLines_cons, ih hr, joinLines_cons hr, String.append_assoc, String.append_assoc]

/-! ## Splitting -/

theorem splitAt_ne_nil (sep : Char) (cs : List Char) : splitAt sep cs ≠ [] := by
  cases cs with
  | nil => exact List.cons_ne_nil _ _
  | cons c r =>
    rw [splitAt]
    split
    · exact List.cons_ne_nil _ _
    · split <;> exact List.cons_ne_nil _ _

/-- A separator in a text separates its lines. -/
theorem splitAt_append (sep : Char) (a b : List Char) :
    splitAt sep (a ++ sep :: b) = splitAt sep a ++ splitAt sep b := by
  induction a with
  | nil => simp [splitAt]
  | cons c r ih =>
    rw [List.cons_append, splitAt, splitAt, ih]
    by_cases h : c = sep
    · rw [if_pos h, if_pos h, List.cons_append]
    · rw [if_neg h, if_neg h]
      cases hr : splitAt sep r with
      | nil => exact absurd hr (splitAt_ne_nil sep r)
      | cons l ls => rfl

/-- A text is its first line, and a separator before each of the others. -/
theorem exists_splitAt_eq_cons (sep : Char) (cs : List Char) :
    ∃ l ls, splitAt sep cs = l :: ls ∧ cs = l ++ ls.flatMap (sep :: ·) := by
  induction cs with
  | nil => exact ⟨[], [], rfl, rfl⟩
  | cons c r ih =>
    obtain ⟨l, ls, hsplit, hr⟩ := ih
    by_cases hc : c = sep
    · refine ⟨[], l :: ls, ?_, ?_⟩
      · rw [splitAt, if_pos hc, hsplit]
      · rw [hc, hr]
        rfl
    · refine ⟨c :: l, ls, ?_, ?_⟩
      · rw [splitAt, if_neg hc, hsplit]
      · rw [List.cons_append, ← hr]

/-- The lines of a text with a separator behind each. -/
theorem flatMap_splitAt (sep : Char) (cs : List Char) :
    (splitAt sep cs).flatMap (· ++ [sep]) = cs ++ [sep] := by
  induction cs with
  | nil => rfl
  | cons c r ih =>
    by_cases hc : c = sep
    · rw [splitAt, if_pos hc, List.flatMap_cons, ih, hc]
      rfl
    · rw [splitAt, if_neg hc]
      cases hr : splitAt sep r with
      | nil => exact absurd hr (splitAt_ne_nil sep r)
      | cons l ls =>
        rw [hr] at ih
        exact congrArg (c :: ·) ih

theorem splitLines_append (s t : String) :
    splitLines (s ++ ("\n" ++ t)) = splitLines s ++ splitLines t := by
  have h : (s ++ ("\n" ++ t)).toList = s.toList ++ '\n' :: t.toList := by
    simp [String.toList_append]
  rw [splitLines, h, splitAt_append, List.map_append, splitLines, splitLines]

theorem splitLines_joinLines {ls : List String} (h : ls ≠ []) :
    splitLines (joinLines ls) = ls.flatMap splitLines := by
  induction ls with
  | nil => exact absurd rfl h
  | cons s r ih =>
    cases r with
    | nil => simp [joinLines, joinWith]
    | cons t r =>
      rw [joinLines_cons (List.cons_ne_nil t r), splitLines_append, ih (List.cons_ne_nil t r)]
      rfl

/-- A character in front of the first line. -/
theorem toList_joinLines_cons (c : Char) (l : List Char) (ls : List String) :
    (joinLines (String.ofList (c :: l) :: ls)).toList
      = c :: (joinLines (String.ofList l :: ls)).toList := by
  cases ls with
  | nil => simp [joinLines, joinWith]
  | cons m ms => simp [joinLines_cons, String.toList_append]

/-- **Splitting a text loses nothing.** -/
theorem joinLines_splitLines (s : String) : joinLines (splitLines s) = s := by
  have h (cs : List Char) : (joinLines ((splitAt '\n' cs).map String.ofList)).toList = cs := by
    induction cs with
    | nil => rfl
    | cons c r ih =>
      rw [splitAt]
      by_cases hc : c = '\n'
      · rw [if_pos hc, List.map_cons, joinLines_cons (by simpa using splitAt_ne_nil _ _),
          String.toList_append, String.toList_append, ih, hc]
        rfl
      · rw [if_neg hc]
        cases hr : splitAt '\n' r with
        | nil => exact absurd hr (splitAt_ne_nil _ _)
        | cons l ls =>
          rw [hr, List.map_cons] at ih
          rw [List.map_cons, toList_joinLines_cons, ih]
  rw [← String.toList_inj, splitLines, h]

/-- Separators at the end of a text make that many empty lines. -/
theorem splitAt_append_replicate (sep : Char) (a : List Char) (k : Nat) :
    splitAt sep (a ++ List.replicate k sep) = splitAt sep a ++ List.replicate k [] := by
  have hall (k : Nat) : splitAt sep (List.replicate k sep) = List.replicate (k + 1) [] := by
    induction k with
    | zero => rfl
    | succ k ih =>
      rw [List.replicate_succ, splitAt, if_pos rfl, ih]
      rfl
  cases k with
  | zero => rw [List.replicate_zero, List.replicate_zero, List.append_nil, List.append_nil]
  | succ k => rw [List.replicate_succ, splitAt_append, hall]

theorem infix_of_mem_splitLines {l s : String} (h : l ∈ splitLines s) : l.toList <:+: s.toList := by
  have hinfix := infix_joinLines h
  rwa [joinLines_splitLines] at hinfix

theorem splitAt_of_not_mem {sep : Char} {cs : List Char} (h : sep ∉ cs) :
    splitAt sep cs = [cs] := by
  induction cs with
  | nil => rfl
  | cons c r ih =>
    have hc : ¬ c = sep := fun hc ↦ h (hc ▸ List.mem_cons_self)
    rw [splitAt, if_neg hc, ih fun hr ↦ h (List.mem_cons_of_mem c hr)]

theorem not_mem_of_mem_splitAt {sep : Char} {cs l : List Char} (h : l ∈ splitAt sep cs) :
    sep ∉ l := by
  induction cs generalizing l with
  | nil =>
    rw [splitAt, List.mem_singleton] at h
    rw [h]
    exact List.not_mem_nil
  | cons c r ih =>
    rw [splitAt] at h
    split at h
    · rcases List.mem_cons.1 h with rfl | h
      · exact List.not_mem_nil
      · exact ih h
    · rename_i hc
      split at h
      · rename_i hr
        exact absurd hr (splitAt_ne_nil sep r)
      · rename_i m ms hr
        rcases List.mem_cons.1 h with rfl | h
        · have hm : sep ∉ m := ih (hr ▸ List.mem_cons_self)
          exact fun hsep ↦ (List.mem_cons.1 hsep).elim (fun he ↦ hc he.symm) hm
        · exact ih (hr ▸ List.mem_cons_of_mem m h)

theorem unifyNewlines_append {a : List Char} (h : '\r' ∉ a) (b : List Char) :
    unifyNewlines (a ++ b) = a ++ unifyNewlines b := by
  induction a with
  | nil => rfl
  | cons c r ih =>
    have hc : c ≠ '\r' := (List.ne_of_not_mem_cons h).symm
    rw [List.cons_append, unifyNewlines, ih (List.not_mem_of_not_mem_cons h), List.cons_append]
    · exact fun _ hc' ↦ absurd hc' hc
    · exact hc

theorem unifyNewlines_of_not_mem {cs : List Char} (h : '\r' ∉ cs) : unifyNewlines cs = cs := by
  have happend := unifyNewlines_append h []
  rwa [List.append_nil, unifyNewlines, List.append_nil] at happend

/-! ## Dropping line feeds -/

/-- The decimal digits of a number are digits. -/
theorem not_mem_toDigits {c : Char} (hc : c.isDigit = false) (n : Nat) :
    c ∉ Nat.toDigits 10 n := fun h ↦
  absurd (Nat.isDigit_of_mem_toDigits (by decide) (by decide) h) (by rw [hc]; decide)

theorem drop_length_takeWhile (p : Char → Bool) (cs : List Char) :
    cs.drop (cs.takeWhile p).length = cs.dropWhile p :=
  calc cs.drop (cs.takeWhile p).length
      = (cs.takeWhile p ++ cs.dropWhile p).drop (cs.takeWhile p).length := by
        rw [List.takeWhile_append_dropWhile]
    _ = cs.dropWhile p := List.drop_left

theorem dropEnd_eq_rdropWhile (p : Char → Bool) (cs : List Char) :
    dropEnd p cs = cs.rdropWhile p := rfl

theorem dropEnd_append (p : Char → Bool) (a b : List Char) :
    dropEnd p (a ++ b) = if (dropEnd p b).isEmpty then dropEnd p a else a ++ dropEnd p b := by
  rw [dropEnd, List.reverse_append, List.dropWhile_append]
  by_cases h : (b.reverse.dropWhile p).isEmpty
  · rw [if_pos h, if_pos (by rw [dropEnd, List.isEmpty_reverse]; exact h), dropEnd]
  · rw [if_neg h, if_neg (by rw [dropEnd, List.isEmpty_reverse]; exact h), dropEnd,
      List.reverse_append, List.reverse_reverse]

theorem dropEnd_prefix_append (p : Char → Bool) (a b : List Char) :
    dropEnd p a <+: dropEnd p (a ++ b) := by
  rw [dropEnd_append]
  split
  · exact List.prefix_refl _
  · exact (List.rdropWhile_prefix p a).trans (List.prefix_append a _)

theorem dropNewlines_isPrefix (s : String) : (dropNewlines s).toList <+: s.toList := by
  rw [dropNewlines, String.toList_ofList]
  exact List.rdropWhile_prefix _ _

/-- **Dropping line feeds never reaches back**: a longer text keeps what a shorter one has. -/
theorem dropNewlines_append (s t : String) :
    ∃ more, dropNewlines (s ++ t) = dropNewlines s ++ more := by
  obtain ⟨e, he⟩ := dropEnd_prefix_append (· == '\n') s.toList t.toList
  refine ⟨String.ofList e, ?_⟩
  rw [dropNewlines, dropNewlines, String.toList_append, ← he, String.ofList_append]

/-- What stands in front of a character that is no line feed is kept. -/
theorem dropNewlines_append_of_mem {s t : String} {c : Char} (hc : c ∈ t.toList) (hne : c ≠ '\n') :
    dropNewlines (s ++ t) = s ++ dropNewlines t := by
  have hkept : (dropEnd (· == '\n') t.toList).isEmpty = false := by
    rw [List.isEmpty_eq_false_iff, dropEnd_eq_rdropWhile, Ne, List.rdropWhile_eq_nil_iff]
    exact fun h ↦ hne (by simpa using h c hc)
  rw [← String.toList_inj, String.toList_append, dropNewlines, dropNewlines, String.toList_ofList,
    String.toList_ofList, String.toList_append, dropEnd_append, hkept, if_neg Bool.false_ne_true]

/-- **What is dropped is line feeds**, and all there are at the end. -/
theorem exists_eq_dropNewlines_append (s : String) :
    ∃ k, s.toList = (dropNewlines s).toList ++ List.replicate k '\n' := by
  have hdropped : s.toList.rtakeWhile (· == '\n')
      = List.replicate (s.toList.rtakeWhile (· == '\n')).length '\n' :=
    List.eq_replicate_of_mem fun c hc ↦ by simpa using List.mem_rtakeWhile_imp hc
  refine ⟨(s.toList.rtakeWhile (· == '\n')).length, ?_⟩
  rw [← hdropped, dropNewlines, String.toList_ofList, dropEnd_eq_rdropWhile,
    List.rdropWhile_append_rtakeWhile]

theorem mem_dropNewlines {s : String} {c : Char} (hc : c ∈ s.toList) (hne : c ≠ '\n') :
    c ∈ (dropNewlines s).toList := by
  obtain ⟨k, hk⟩ := exists_eq_dropNewlines_append s
  rw [hk, List.mem_append] at hc
  exact hc.resolve_right fun h ↦ hne (List.eq_of_mem_replicate h)

/-- So a text loses empty lines at its end and nothing else. -/
theorem exists_splitLines_dropNewlines (s : String) :
    ∃ k, splitLines s = splitLines (dropNewlines s) ++ List.replicate k "" := by
  obtain ⟨k, hk⟩ := exists_eq_dropNewlines_append s
  refine ⟨k, ?_⟩
  rw [splitLines, hk, splitAt_append_replicate, List.map_append, List.map_replicate, splitLines]

theorem not_newline_isSuffix_dropNewlines (s : String) : ¬ ['\n'] <:+ (dropNewlines s).toList := by
  rintro ⟨front, h⟩
  rw [dropNewlines, String.toList_ofList, dropEnd_eq_rdropWhile] at h
  have hlast := List.rdropWhile_last_not (· == '\n') s.toList (by simp [← h])
  simp [← h] at hlast

theorem dropNewlines_append_newline (s : String) : dropNewlines (s ++ "\n") = dropNewlines s := by
  rw [dropNewlines, String.toList_append]
  exact congrArg String.ofList (List.rdropWhile_concat_pos (· == '\n') s.toList '\n' rfl)

/-- It makes no difference whether the last line ends. -/
theorem dropNewlines_joinLines (ls : List String) :
    dropNewlines (joinLines ls) = dropNewlines (endLines ls) := by
  by_cases hls : ls = []
  · rw [hls]
    rfl
  · rw [endLines_eq hls, dropNewlines_append_newline]

end Text
end TexWeave
