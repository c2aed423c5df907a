import TexWeave.Compose
import TexWeave.Proofs.Lines

/-!
# Indented sources

A source is cut into lines and loses its indentation before anything else is done with it.  So two
sources are alike to all that follows if they have the same lines apart from a common indentation,
and whichever of the three terminators stands between the lines.

* `lineEnds` — the terminators.
* `lines_joinWith` — lines are read back whatever terminator was put between them.
* `stripIndent_indented` — a common indentation is removed, and no more than that.
* `sliceDefinition_indented` — two sources that are alike give the same listing.
-/

set_option autoImplicit false

namespace TexWeave
namespace Text

/-! ## Terminators -/

/-- The three terminators of lines. -/
def lineEnds : List String := ["\n", "\r\n", "\r"]

/-- A line in the sense of all three terminators. -/
def IsLine (l : String) : Prop := '\n' ∉ l.toList ∧ '\r' ∉ l.toList

theorem mem_joinWith {sep : String} {ls : List String} {c : Char}
    (h : c ∈ (joinWith sep ls).toList) : c ∈ sep.toList ∨ ∃ l ∈ ls, c ∈ l.toList := by
  induction ls with
  | nil => simp [joinWith] at h
  | cons s r ih =>
    cases r with
    | nil => exact .inr ⟨s, List.mem_singleton_self s, h⟩
    | cons t r =>
      rw [joinWith_cons_cons, String.toList_append, String.toList_append, List.mem_append,
        List.mem_append] at h
      rcases h with h | h | h
      · exact .inr ⟨s, List.mem_cons_self, h⟩
      · exact .inl h
      · rcases ih h with hsep | ⟨l, hl, hc⟩
        · exact .inl hsep
        · exact .inr ⟨l, List.mem_cons_of_mem s hl, hc⟩

/-- A terminator becomes one line feed, unless it is a lone return and a line feed follows. -/
theorem unifyNewlines_lineEnd {e : String} (he : e ∈ lineEnds) {b : List Char}
    (hb : e = "\r" → '\n' ∉ b) : unifyNewlines (e.toList ++ b) = '\n' :: unifyNewlines b := by
  simp only [lineEnds, List.mem_cons, List.not_mem_nil, or_false] at he
  rcases he with rfl | rfl | rfl
  · exact unifyNewlines_append (by decide : '\r' ∉ ['\n']) b
  · show unifyNewlines ('\r' :: '\n' :: b) = _
    rw [unifyNewlines]
  · show unifyNewlines ('\r' :: b) = _
    rw [unifyNewlines]
    rintro r rfl
    exact hb rfl List.mem_cons_self

/-- With any terminator between lines, the line feeds are where they are with line feeds. -/
theorem unifyNewlines_joinWith {e : String} (he : e ∈ lineEnds) {ls : List String}
    (h : ∀ l ∈ ls, IsLine l) : unifyNewlines (joinWith e ls).toList = (joinLines ls).toList := by
  induction ls with
  | nil => rfl
  | cons s r ih =>
    have hs : '\r' ∉ s.toList := (h s List.mem_cons_self).2
    have hr : ∀ l ∈ r, IsLine l := fun l hl ↦ h l (List.mem_cons_of_mem s hl)
    cases r with
    | nil => exact unifyNewlines_of_not_mem hs
    | cons t r =>
      have hfeed : e = "\r" → '\n' ∉ (joinWith e (t :: r)).toList := by
        rintro rfl hmem
        rcases mem_joinWith hmem with hmem | ⟨l, hl, hmem⟩
        · exact absurd hmem (by decide)
        · exact (hr l hl).1 hmem
      rw [joinWith_cons_cons, joinLines_cons (List.cons_ne_nil t r), String.toList_append,
        String.toList_append, String.toList_append, String.toList_append, unifyNewlines_append hs,
        unifyNewlines_lineEnd he hfeed, ih hr]
      rfl

theorem splitLines_of_isLine {l : String} (h : IsLine l) : splitLines l = [l] := by
  rw [splitLines, splitAt_of_not_mem h.1, List.map_singleton, String.ofList_toList]

theorem splitLines_joinLines_of_isLine {ls : List String} (hne : ls ≠ [])
    (h : ∀ l ∈ ls, IsLine l) : splitLines (joinLines ls) = ls := by
  rw [splitLines_joinLines hne]
  calc ls.flatMap splitLines = ls.flatMap ([·]) :=
        List.flatMap_congr fun l hl ↦ splitLines_of_isLine (h l hl)
    _ = ls := List.flatMap_singleton' ls

/-- **Terminators only separate**: lines are read back whatever stands between them. -/
theorem lines_joinWith {e : String} (he : e ∈ lineEnds) {ls : List String} (hne : ls ≠ [])
    (h : ∀ l ∈ ls, IsLine l) : lines (joinWith e ls) = ls := by
  rw [lines, unifyNewlines_joinWith he h]
  exact splitLines_joinLines_of_isLine hne h

theorem not_mem_unifyNewlines (cs : List Char) : '\r' ∉ unifyNewlines cs := by
  fun_induction unifyNewlines cs with
  | case1 => exact List.not_mem_nil
  | case2 r ih => exact List.not_mem_cons_of_ne_of_not_mem (by decide) ih
  | case3 r _ ih => exact List.not_mem_cons_of_ne_of_not_mem (by decide) ih
  | case4 c r _ hc ih => exact List.not_mem_cons_of_ne_of_not_mem (Ne.symm hc) ih

theorem lines_ne_nil (s : String) : lines s ≠ [] := by
  rw [lines, ne_eq, List.map_eq_nil_iff]
  exact splitAt_ne_nil '\n' _

/-- The lines of a text hold no terminator. -/
theorem isLine_of_mem_lines {s l : String} (h : l ∈ lines s) : IsLine l := by
  obtain ⟨cs, hcs, rfl⟩ := List.mem_map.1 h
  have hpart := infix_of_mem_splitLines (s := String.ofList (unifyNewlines s.toList))
    (l := String.ofList cs) (List.mem_map_of_mem (by rwa [String.toList_ofList]))
  rw [String.toList_ofList, String.toList_ofList] at hpart
  rw [IsLine, String.toList_ofList]
  exact ⟨not_mem_of_mem_splitAt hcs,
    fun hreturn ↦ not_mem_unifyNewlines s.toList (hpart.subset hreturn)⟩

/-- Lines put together again are the text with its terminators unified. -/
theorem toList_joinLines_lines (source : String) :
    (joinLines (lines source)).toList = unifyNewlines source.toList := by
  have hlines : lines source = splitLines (String.ofList (unifyNewlines source.toList)) := by
    rw [lines, splitLines, String.toList_ofList]
  rw [hlines, joinLines_splitLines, String.toList_ofList]

/-! ## Indentation -/

section

variable {p s : String} {ls : List String}

theorem isBlankLine_append (hp : ∀ c ∈ p.toList, isBlank c = true) :
    isBlankLine (p ++ s) = isBlankLine s := by
  rw [isBlankLine, isBlankLine, String.toList_append, List.all_append, List.all_eq_true.2 hp,
    Bool.true_and]

theorem indentOf_append (hp : ∀ c ∈ p.toList, isBlank c = true) :
    indentOf (p ++ s) = p.toList ++ indentOf s := by
  rw [indentOf, indentOf, String.toList_append, List.takeWhile_append_of_pos hp]

theorem dropPrefix_append (p s : String) : dropPrefix p.toList (p ++ s) = s := by
  have hprefix : p.toList.isPrefixOf (p.toList ++ s.toList) = true :=
    List.isPrefixOf_iff_prefix.2 (List.prefix_append _ _)
  rw [dropPrefix, String.toList_append, if_pos hprefix, List.drop_left, String.ofList_toList]

theorem dropPrefix_nil (s : String) : dropPrefix [] s = s := by
  rw [dropPrefix, if_pos (List.isPrefixOf_iff_prefix.2 List.nil_prefix)]
  exact String.ofList_toList

theorem toList_dropPrefix_isSuffix (p : List Char) (s : String) :
    (dropPrefix p s).toList <:+ s.toList := by
  rw [dropPrefix]
  split
  · rw [String.toList_ofList]
    exact List.drop_suffix _ _
  · exact List.suffix_rfl

theorem isLine_of_mem_stripIndent (h : ∀ l ∈ ls, IsLine l) : ∀ l ∈ stripIndent ls, IsLine l := by
  intro l hl
  obtain ⟨m, hm, rfl⟩ := List.mem_map.1 hl
  have hsub := (toList_dropPrefix_isSuffix (commonIndent ls) m).subset
  exact ⟨fun hc ↦ (h m hm).1 (hsub hc), fun hc ↦ (h m hm).2 (hsub hc)⟩

theorem isLine_of_mem_stripIndent_lines (source : String) :
    ∀ l ∈ stripIndent (lines source), IsLine l :=
  isLine_of_mem_stripIndent fun _ hl ↦ isLine_of_mem_lines hl

theorem stripIndent_ne_nil (h : ls ≠ []) : stripIndent ls ≠ [] := by
  rwa [stripIndent, ne_eq, List.map_eq_nil_iff]

/-- Lines whose first that is not blank stands at the margin keep their indentation. -/
theorem stripIndent_of_commonIndent (h : commonIndent ls = []) : stripIndent ls = ls := by
  rw [stripIndent, h]
  calc ls.map (dropPrefix []) = ls.map id := List.map_congr_left fun l _ ↦ dropPrefix_nil l
    _ = ls := List.map_id ls

theorem trimStart_append {h r : List Char} (hh : ∀ c ∈ h, isBlank c = true) :
    trimStart (h ++ r) = trimStart r :=
  List.dropWhile_append_of_pos hh

/-- A line that is not blank is its indentation and what begins with no blank. -/
theorem exists_indentOf_append {l : String} (h : isBlankLine l = false) :
    ∃ c w, l.toList = indentOf l ++ c :: w ∧ isBlank c = false := by
  have hsplit : indentOf l ++ l.toList.dropWhile isBlank = l.toList :=
    List.takeWhile_append_dropWhile
  have hne : l.toList.dropWhile isBlank ≠ [] := fun hnil ↦ by
    rw [isBlankLine, List.all_eq_true.2 (List.dropWhile_eq_nil_iff.1 hnil)] at h
    cases h
  refine ⟨_, _, (List.cons_head_tail hne).symm ▸ hsplit.symm, ?_⟩
  simpa using List.head_dropWhile_not isBlank hne

theorem isBlank_of_mem_indentOf {l : String} {c : Char} (h : c ∈ indentOf l) : isBlank c = true :=
  List.mem_takeWhile_imp h

/-- The common indentation of indented lines. -/
theorem commonIndent_map_append (hp : ∀ c ∈ p.toList, isBlank c = true) {first : String}
    (hfirst : ls.find? (!isBlankLine ·) = some first) :
    commonIndent (ls.map (p ++ ·)) = p.toList ++ indentOf first := by
  have hblank : (fun l ↦ !isBlankLine l) ∘ (p ++ ·) = fun l ↦ !isBlankLine l :=
    funext fun l ↦ congrArg (!·) (isBlankLine_append hp)
  rw [commonIndent, List.find?_map, hblank, hfirst, ← indentOf_append hp]
  rfl

/-- **A common indentation is removed**, and nothing else. -/
theorem stripIndent_indented (hp : ∀ c ∈ p.toList, isBlank c = true) {first : String}
    (hfirst : ls.find? (!isBlankLine ·) = some first) (hmargin : indentOf first = []) :
    stripIndent (ls.map (p ++ ·)) = ls := by
  rw [stripIndent, commonIndent_map_append hp hfirst, hmargin, List.append_nil, List.map_map]
  calc ls.map (dropPrefix p.toList ∘ (p ++ ·)) = ls.map id :=
        List.map_congr_left fun l _ ↦ dropPrefix_append p l
    _ = ls := List.map_id ls

end

end Text

open Text

/-- **Indented sources.**  Let the first of some lines that is not blank stand at the margin.  Then
the lines come back from a source in which they all have the same blanks in front and any of the
three terminators between them.  So this source has the definition that the lines have without
blanks and with line feeds between them, or the same failure, and an entry keeps the same text. -/
theorem Source.sliceDefinition_indented {ls : List String} {p e first : String}
    (hls : ∀ l ∈ ls, IsLine l) (hfirst : ls.find? (!isBlankLine ·) = some first)
    (hmargin : indentOf first = []) (hp : ∀ c ∈ p.toList, isBlank c = true) (hline : IsLine p)
    (he : e ∈ lineEnds) :
    let indented := joinWith e (ls.map (p ++ ·))
    let plain := joinWith "\n" ls
    stripIndent (lines indented) = ls ∧ stripIndent (lines plain) = ls
      ∧ sliceDefinition indented = sliceDefinition plain
      ∧ ∀ text heading, TextEntry.make text heading (.str indented)
          = TextEntry.make text heading (.str plain) := by
  intro indented plain
  have hne : ls ≠ [] := by
    rintro rfl
    cases hfirst
  have hindentedLines : ∀ l ∈ ls.map (p ++ ·), IsLine l := by
    intro l hl
    obtain ⟨m, hm, rfl⟩ := List.mem_map.1 hl
    rw [IsLine, String.toList_append, List.mem_append, List.mem_append, not_or, not_or]
    exact ⟨⟨hline.1, (hls m hm).1⟩, hline.2, (hls m hm).2⟩
  have hindented : stripIndent (lines indented) = ls := by
    rw [lines_joinWith he (by simpa using hne) hindentedLines,
      stripIndent_indented hp hfirst hmargin]
  have hplain : stripIndent (lines plain) = ls := by
    have hfeed : "\n" ∈ lineEnds := List.mem_cons_self
    have hcommon : commonIndent ls = [] := by
      rw [commonIndent, hfirst]
      exact hmargin
    rw [lines_joinWith hfeed hne hls, stripIndent_of_commonIndent hcommon]
  refine ⟨hindented, hplain, ?_, fun text heading ↦ ?_⟩
  · rw [sliceDefinition, sliceDefinition, hindented, hplain]
  · rw [TextEntry.make, TextEntry.make, blockText, blockText, hindented, hplain]

/-- Lines of a definition, two of them blank, behind a tab and a wide blank and with returns. -/
theorem Source.sliceDefinition_indented_of_returns :
    let ls := ["", "def f():", " ", "  return 1"]
    let indented := joinWith "\r" (ls.map ("\t\u3000" ++ ·))
    (∀ l ∈ ls, IsLine l) ∧ ls.find? (!isBlankLine ·) = some "def f():"
      ∧ stripIndent (lines indented) = ls
      ∧ sliceDefinition indented = sliceDefinition "\ndef f():\n \n  return 1" := by
  intro ls indented
  have hls : ∀ l ∈ ls, IsLine l := by
    unfold IsLine
    decide
  have hfirst : ls.find? (!isBlankLine ·) = some "def f():" := by decide
  have hp : ∀ c ∈ "\t\u3000".toList, isBlank c = true := List.all_eq_true.1 (by decide)
  have hreturn : "\r" ∈ lineEnds := by decide
  obtain ⟨hstripped, -, hsame, -⟩ :=
    sliceDefinition_indented hls hfirst rfl hp ⟨by decide, by decide⟩ hreturn
  exact ⟨hls, hfirst, hstripped, hsame⟩

end TexWeave
