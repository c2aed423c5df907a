import TexWeave.Proofs.PassedLines
import TexWeave.Proofs.Recovery

/-!
# Sources that can be read as they are

The indentation of the first line that is not blank is removed from all lines that have it.  If the
source can be read before, that line has no indentation, or it is a comment or is continued, or a
form feed stands in front of it.  As long as no code has the same indentation, the definition is cut
out as it stands.

* `exists_stripIndent_eq`, `sliceLines_stripIndent` — what is left when only comments are indented.
* `exists_of_commonIndent_ne_nil` — where an indentation can come from.
* `sliceDefinition_of_readText` — the definition in a source that can be read.
* `sliceDefinition_of_level_comment` — a source that can be read, but gives no definition.
-/

set_option autoImplicit false

namespace TexWeave
namespace Source

open Text Scanner

/-! ## Removing the indentation -/

theorem isPassed_of_append {i cs : List Char} (hi : ∀ c ∈ i, isBlank c = true)
    (h : (behindRoom (i ++ cs)).head?.all (· == '#') = true) :
    (behindRoom cs).head?.all (· == '#') = true := by
  induction i with
  | nil => exact h
  | cons c i ih =>
    obtain ⟨hc, hi⟩ := List.forall_mem_cons.1 hi
    by_cases hroom : IsRoom c
    · rw [behindRoom, List.cons_append, List.dropWhile_cons_of_pos (by simpa using hroom)] at h
      exact ih hi h
    · rw [behindRoom, List.cons_append, List.dropWhile_cons_of_neg (by simpa using hroom)] at h
      obtain rfl : c = '#' := by simpa using h
      cases hc

theorem isPassed_dropPrefix {i : List Char} (hi : ∀ c ∈ i, isBlank c = true) {l : String}
    (h : isPassed l = true) : isPassed (dropPrefix i l) = true := by
  rw [dropPrefix]
  split
  · next hprefix =>
    obtain ⟨cs, hcs⟩ := List.isPrefixOf_iff_prefix.1 hprefix
    rw [isPassed, ← hcs] at h
    rw [isPassed, String.toList_ofList, ← hcs, List.drop_left]
    exact isPassed_of_append hi h
  · exact h

theorem isBlank_of_mem_commonIndent {ls : List String} {c : Char} (h : c ∈ commonIndent ls) :
    isBlank c = true := by
  by_contra hc
  exact not_mem_commonIndent (by simpa using hc) ls h

theorem dropPrefix_of_not_prefix {i : List Char} {l : String} (h : ¬ i <+: l.toList) :
    dropPrefix i l = l := by
  rw [dropPrefix, if_neg (by rwa [List.isPrefixOf_iff_prefix])]

/-- If code does not stand behind the indentation, only lines that are passed over lose it. -/
theorem exists_stripIndent_eq {ls : List String}
    (h : ∀ l ∈ codeLines ls, ¬ commonIndent ls <+: l.toList) :
    ∃ a, stripIndent ls = a ++ codeLines ls ∧ a.length = (ls.takeWhile isPassed).length
      ∧ ∀ l ∈ a, isPassed l = true := by
  refine ⟨(ls.takeWhile isPassed).map (dropPrefix (commonIndent ls)), ?_, List.length_map .., ?_⟩
  · have hcode : (codeLines ls).map (dropPrefix (commonIndent ls)) = codeLines ls :=
      (List.map_congr_left fun l hl ↦ dropPrefix_of_not_prefix (h l hl)).trans (List.map_id _)
    have hsplit : ls = ls.takeWhile isPassed ++ codeLines ls := List.takeWhile_append_dropWhile.symm
    calc stripIndent ls
        = (ls.takeWhile isPassed ++ codeLines ls).map (dropPrefix (commonIndent ls)) :=
          congrArg (List.map _) hsplit
      _ = _ := by rw [List.map_append, hcode]
  · intro l hl
    obtain ⟨m, hm, rfl⟩ := List.mem_map.1 hl
    exact isPassed_dropPrefix (fun c hc ↦ isBlank_of_mem_commonIndent hc)
      (List.mem_takeWhile_imp hm)

theorem between_append {α : Type} {first last : Nat} {a b : List α} (h : a.length < first) :
    between first last (a ++ b) = between (first - a.length) (last - a.length) b := by
  rw [between, between, List.take_append, List.drop_append, List.length_take]
  have hfront : (a.take last).drop (first - 1) = [] :=
    List.drop_eq_nil_of_le (by rw [List.length_take]; omega)
  rw [hfront, List.nil_append]
  rcases Nat.le_total a.length last with hle | hle
  · rw [Nat.min_eq_right hle, Nat.sub_right_comm]
  · rw [Nat.sub_eq_zero_of_le hle, List.take_zero, List.drop_nil, List.drop_nil]

/-! ## Definitions behind lines that are passed over -/

section

variable {ls : List String} {t d : Tree}

/-- A definition begins on a line that is not passed over. -/
theorem exists_line_of_readText (hls : ∀ l ∈ ls, IsLine l) (hne : ls ≠ [])
    (hread : readText (joinLines ls).toList = .ok t)
    (hd : d ∈ (statementsOf t).filterMap undecorated?) :
    0 < d.firstLine ∧ ∃ l, ls[d.firstLine - 1]? = some l ∧ isPassed l = false := by
  obtain ⟨u, front, s, first, others, name, stop, hplace, hu⟩ := exists_place_of_readText hread hd
  obtain ⟨hpos, hline⟩ := getElem?_of_place hls hne hplace hu
  obtain ⟨hblank, r, hr⟩ := exists_line_of_place hplace hu
  obtain ⟨hword, -⟩ := hplace.isHeader.first_text
  have hpassed : (behindRoom (first.text.toList ++ r)).head?.all (· == '#') = false := by
    simp only [List.mem_cons, List.not_mem_nil, or_false] at hword
    rcases hword with hword | hword | hword <;> rw [hword] <;> rfl
  refine ⟨hpos, _, hline, ?_⟩
  rw [Bool.eq_false_iff]
  intro h
  rw [isPassed, String.toList_ofList, hr] at h
  rw [isPassed_of_append hblank h] at hpassed
  cases hpassed

/-- Lines that are passed over end in front of a definition. -/
theorem length_passed_lt_firstLine (hls : ∀ l ∈ ls, IsLine l) (hne : ls ≠ [])
    (hread : readText (joinLines ls).toList = .ok t)
    (hd : d ∈ (statementsOf t).filterMap undecorated?) :
    (ls.takeWhile isPassed).length < d.firstLine ∧ codeLines ls ≠ [] := by
  obtain ⟨hpos, l, hl, hpassed⟩ := exists_line_of_readText hls hne hread hd
  have hsplit : ls.takeWhile isPassed ++ codeLines ls = ls := List.takeWhile_append_dropWhile
  rw [← hsplit] at hl
  have hle : (ls.takeWhile isPassed).length ≤ d.firstLine - 1 := by
    by_contra hlt
    rw [List.getElem?_append_left (Nat.lt_of_not_le hlt)] at hl
    rw [List.mem_takeWhile_imp (List.mem_of_getElem? hl)] at hpassed
    cases hpassed
  refine ⟨by omega, fun hnil ↦ ?_⟩
  rw [List.getElem?_append_right hle, hnil] at hl
  cases hl

theorem toList_joinLines_ne_nil {l : String} {ls : List String} (hl : l ∈ ls)
    (h : isPassed l = false) : (joinLines ls).toList ≠ [] := by
  intro hnil
  have hinfix := infix_joinLines hl
  rw [hnil, List.infix_nil] at hinfix
  rw [isPassed, hinfix] at h
  cases h

theorem mem_joinLines_stripIndent {c : Char} (hc : c ≠ '\n')
    (h : c ∈ (joinLines (stripIndent ls)).toList) : c ∈ (joinLines ls).toList := by
  obtain ⟨l, hl, hcl⟩ := (mem_joinWith h).resolve_left fun h ↦ hc (by simpa using h)
  obtain ⟨m, hm, rfl⟩ := List.mem_map.1 hl
  exact (infix_joinLines hm).subset ((toList_dropPrefix_isSuffix _ m).subset hcl)

/-- **Removing the indentation** of lines that are passed over changes neither tree nor text. -/
theorem sliceLines_stripIndent (hls : ∀ l ∈ ls, IsLine l) (hne : ls ≠ [])
    (hread : readText (joinLines ls).toList = .ok t)
    (hd : (statementsOf t).filterMap undecorated? = [d])
    (hmargin : ∀ l ∈ codeLines ls, ¬ commonIndent ls <+: l.toList) :
    sliceLines (stripIndent ls) = .ok (cutDefinition ls d) := by
  obtain ⟨hlt, hcode⟩ :=
    length_passed_lt_firstLine hls hne hread (hd ▸ List.mem_singleton_self d)
  have hsplit : ls.takeWhile isPassed ++ codeLines ls = ls := List.takeWhile_append_dropWhile
  have hhead : (joinLines (codeLines ls)).toList ≠ [] := by
    have hfirst := List.head_dropWhile_not isPassed hcode
    exact toList_joinLines_ne_nil (List.head_mem hcode) hfirst
  obtain ⟨a, hstrip, hlength, hpassed⟩ := exists_stripIndent_eq hmargin
  have hlines : ∀ l ∈ a, isPassed l = true ∧ '\n' ∉ l.toList := fun l hl ↦
    ⟨hpassed l hl, (isLine_of_mem_stripIndent hls l (hstrip ▸ List.mem_append_left _ hl)).1⟩
  have hfront : ∀ l ∈ ls.takeWhile isPassed, isPassed l = true ∧ '\n' ∉ l.toList := fun l hl ↦
    ⟨List.mem_takeWhile_imp hl, (hls l ((List.takeWhile_prefix _).subset hl)).1⟩
  have hscan : (scan (joinLines (stripIndent ls)).toList).sentence?
      = (scan (joinLines ls).toList).sentence? := by
    have hplain := sentence?_of_passed hfront hcode hhead
    rw [hsplit] at hplain
    rw [hstrip, sentence?_of_passed hlines hcode hhead, hplain, hlength]
  have hstripped : readText (joinLines (stripIndent ls)).toList = .ok t := by
    have hnull : '\x00' ∉ (joinLines (stripIndent ls)).toList := fun h ↦ by
      rw [(readText_eq_null_iff _).2 (mem_joinLines_stripIndent (by decide) h)] at hread
      cases hread
    obtain ⟨ts, hts, hparse⟩ := exists_sentence_of_readText hread
    rw [readText, if_neg (by simpa using hnull), hscan, hts, Option.bind_some, hparse]
  refine sliceLines_eq_ok_iff.2 ⟨t, d, hstripped, hd, ?_⟩
  have hbetween : between d.firstLine d.lastLine (stripIndent ls)
      = between d.firstLine d.lastLine ls := by
    conv_rhs => rw [← hsplit]
    rw [hstrip, between_append hlt, between_append (hlength ▸ hlt), hlength]
  rw [cutDefinition, cutDefinition, hbetween]

end

/-! ## Where an indentation comes from -/

section

variable {ls : List String} {t d : Tree}

/-- The first line that is not passed over comes no later than any other that is not. -/
theorem exists_codeLines_eq (b more : List String) {l : String} (hl : isPassed l = false) :
    ∃ m code, codeLines (b ++ l :: more) = m :: code ∧ isPassed m = false ∧ (m ∈ b ∨ m = l) := by
  induction b with
  | nil =>
    exact ⟨l, more, List.dropWhile_cons_of_neg (by simp [hl]), hl, .inr rfl⟩
  | cons m b ih =>
    by_cases hm : isPassed m = true
    · obtain ⟨m', code, hcode, hm', hmem⟩ := ih
      exact ⟨m', code, (List.dropWhile_cons_of_pos hm).trans hcode, hm',
        hmem.imp_left (List.mem_cons_of_mem m)⟩
    · exact ⟨m, b ++ l :: more, List.dropWhile_cons_of_neg hm, by simpa using hm,
        .inl List.mem_cons_self⟩

/-- Room at the start of a line, and the first character behind it. -/
theorem exists_behindRoom_eq {l : String} (h : isPassed l = false) :
    ∃ p x r, l.toList = p ++ x :: r ∧ (∀ c ∈ p, IsRoom c) ∧ ¬ IsRoom x ∧ x ≠ '#' := by
  rw [isPassed] at h
  cases hbehind : behindRoom l.toList with
  | nil => simp [hbehind] at h
  | cons x r =>
    refine ⟨l.toList.takeWhile (decide <| IsRoom ·), x, r, ?_, fun c hc ↦ ?_, ?_, ?_⟩
    · rw [← hbehind]
      exact List.takeWhile_append_dropWhile.symm
    · simpa using List.mem_takeWhile_imp hc
    · have hne : behindRoom l.toList ≠ [] := hbehind ▸ List.cons_ne_nil x r
      have hhead : ¬ IsRoom ((behindRoom l.toList).head hne) :=
        of_decide_eq_false (List.head_dropWhile_not (decide <| IsRoom ·) hne)
      simpa only [hbehind, List.head_cons] using hhead
    · simpa [hbehind] using h

/-- The first line that is not passed over is at the margin, and what follows its room is no
blank. -/
theorem codeLines_at_margin (hls : ∀ l ∈ ls, IsLine l)
    (hread : readText (joinLines ls).toList = .ok t) {m : String} {code : List String}
    (hcode : codeLines ls = m :: code) {p r : List Char} {x : Char} (hm : m.toList = p ++ x :: r)
    (hp : ∀ c ∈ p, IsRoom c) (hroom : ¬ IsRoom x) (hx : x ≠ '#' ∧ x ≠ '\\') :
    (depthAlong .zero p).wide = 0 ∧ isBlank x = false := by
  obtain ⟨ts, hts, hparse⟩ := exists_sentence_of_readText hread
  have hsplit : ls.takeWhile isPassed ++ m :: code = ls :=
    hcode ▸ List.takeWhile_append_dropWhile
  have hnewline : x ≠ '\n' := by
    rintro rfl
    have hline := (hls m (hsplit ▸ List.mem_append_right _ List.mem_cons_self)).1
    exact hline (hm ▸ List.mem_append_right p List.mem_cons_self)
  have hfront : ∀ l ∈ ls.takeWhile isPassed, isPassed l = true ∧ '\n' ∉ l.toList := fun l hl ↦
    ⟨List.mem_takeWhile_imp hl, (hls l ((List.takeWhile_prefix _).subset hl)).1⟩
  obtain ⟨more, htext⟩ : ∃ more, (joinLines (m :: code)).toList = p ++ x :: more := by
    obtain ⟨more, hmore⟩ := exists_joinLines_append [m] code
    refine ⟨r ++ more.toList, ?_⟩
    rw [← List.singleton_append, hmore, String.toList_append]
    show m.toList ++ more.toList = _
    rw [hm, List.append_assoc, List.cons_append]
  obtain ⟨rest, hrest⟩ : ∃ rest, closed (joinLines (m :: code)).toList = p ++ x :: rest := by
    rcases closed_eq (joinLines (m :: code)).toList with hclosed | hclosed
    · exact ⟨more, hclosed.trans htext⟩
    · exact ⟨more ++ ['\n'], by rw [hclosed, htext, List.append_assoc, List.cons_append]⟩
  have hsentence := sentence?_of_passed hfront (List.cons_ne_nil m code) (by simp [htext])
  rw [hsplit, hts, hrest] at hsentence
  exact opens_at_margin hp hroom (by simp [hx, hnewline]) hsentence.symm hparse

theorem isPassed_of_indentOf {l : String} {c : Char} {w : List Char}
    (hl : l.toList = indentOf l ++ c :: w) (hc : isBlank c = false) (hcomment : c ≠ '#') :
    isPassed l = false := by
  have hroom : ¬ IsRoom c := fun h ↦ by
    rw [isBlank_of_isRoom h] at hc
    cases hc
  rw [Bool.eq_false_iff]
  intro h
  rw [isPassed, hl] at h
  have hbehind := isPassed_of_append (fun e he ↦ isBlank_of_mem_indentOf he) h
  rw [behindRoom, List.dropWhile_cons_of_neg (by simpa using hroom)] at hbehind
  exact hcomment (by simpa using hbehind)

/-- The first line that is not blank stands at the margin if no form feed stands in front of it and
it neither is a comment nor is continued at once. -/
theorem indentOf_eq_nil (hls : ∀ l ∈ ls, IsLine l) (hread : readText (joinLines ls).toList = .ok t)
    {b more : List String} {l : String} (hsplit : ls = b ++ l :: more)
    (hb : ∀ m ∈ b, isBlankLine m = true) {c : Char} {w : List Char}
    (hl : l.toList = indentOf l ++ c :: w) (hc : isBlank c = false) (hcs : c ≠ '#' ∧ c ≠ '\\')
    (hfeed : '\x0c' ∉ indentOf l) : indentOf l = [] := by
  obtain ⟨m, code, hcode, hm, hmem⟩ :=
    exists_codeLines_eq b more (isPassed_of_indentOf hl hc hcs.1)
  rw [← hsplit] at hcode
  obtain ⟨p, x, r, hmsplit, hp, hroom, hcomment⟩ := exists_behindRoom_eq hm
  have hmargin := codeLines_at_margin hls hread hcode hmsplit hp hroom
  by_cases hx : isBlank x = true
  · have hslash : x ≠ '\\' := by
      rintro rfl
      cases hx
    rw [(hmargin ⟨hcomment, hslash⟩).2] at hx
    cases hx
  · -- What is behind the room is no blank, so all of the indentation is room.
    have hml : m = l := hmem.resolve_left fun hmb ↦ hx <|
      List.all_eq_true.1 (hb m hmb) x (hmsplit ▸ List.mem_append_right p List.mem_cons_self)
    rw [hml] at hmsplit
    have hindent : indentOf l = p := by
      rw [indentOf, hmsplit, List.takeWhile_append_of_pos fun e he ↦ isBlank_of_isRoom (hp e he),
        List.takeWhile_cons_of_neg hx, List.append_nil]
    rw [hl, hindent] at hmsplit
    obtain rfl := (List.cons.inj (List.append_cancel_left hmsplit)).1
    have hle := length_le_wide hp (hindent ▸ hfeed) .zero
    rw [(hmargin hcs).1] at hle
    rw [hindent, ← List.length_eq_zero_iff]
    omega

/-- **A source that can be read begins at the margin**, unless its first line that is not blank
begins with a comment or is continued, or a form feed stands in front of it. -/
theorem exists_of_commonIndent_ne_nil (hls : ∀ l ∈ ls, IsLine l)
    (hread : readText (joinLines ls).toList = .ok t) (hindent : commonIndent ls ≠ []) :
    '\x0c' ∈ commonIndent ls ∨ ∃ l c, ls.find? (!isBlankLine ·) = some l
      ∧ (trimStart l.toList).head? = some c ∧ (c = '#' ∨ c = '\\') := by
  cases hfind : ls.find? (!isBlankLine ·) with
  | none =>
    rw [commonIndent, hfind] at hindent
    exact absurd rfl hindent
  | some l =>
    have hcommon : commonIndent ls = indentOf l := by
      rw [commonIndent, hfind]
      rfl
    rw [hcommon] at hindent ⊢
    obtain ⟨hlblank, b, more, hsplit, hb⟩ := List.find?_eq_some_iff_append.1 hfind
    obtain ⟨c, w, hl, hc⟩ := exists_indentOf_append (by simpa using hlblank)
    have htrim : (trimStart l.toList).head? = some c := by
      rw [hl, trimStart_append fun e he ↦ isBlank_of_mem_indentOf he, trimStart,
        List.dropWhile_cons_of_neg (by simp [hc])]
      rfl
    by_contra hcon
    rw [not_or] at hcon
    obtain ⟨hfeed, hcon⟩ := hcon
    have hcs : c ≠ '#' ∧ c ≠ '\\' :=
      ⟨fun h ↦ hcon ⟨l, c, rfl, htrim, .inl h⟩, fun h ↦ hcon ⟨l, c, rfl, htrim, .inr h⟩⟩
    exact hindent (indentOf_eq_nil hls hread hsplit (by simpa using hb) hl hc hcs hfeed)

end

/-! ## Sources that can be read -/

/-- **Sources that can be read as they are.**  Let a source have a tree with only one definition.
The definition is cut out with its lines unchanged if the first line that is not blank stands at the
margin, and also if no line behind the comments at the start has the indentation of that line.  Such
an indentation can only stand in front of a comment, in front of a line that is continued, or hold a
form feed. -/
theorem sliceDefinition_of_readText {source : String} {t d : Tree}
    (hread : readText (unifyNewlines source.toList) = .ok t)
    (hd : (statementsOf t).filterMap undecorated? = [d]) :
    let ls := lines source
    (commonIndent ls = [] ∨ (∀ l ∈ codeLines ls, ¬ commonIndent ls <+: l.toList) →
        ∃ x, sliceDefinition source = .ok x
          ∧ x.text = joinLines (between d.firstLine d.lastLine ls))
      ∧ (commonIndent ls ≠ [] → '\x0c' ∈ commonIndent ls
        ∨ ∃ l c, ls.find? (!isBlankLine ·) = some l ∧ (trimStart l.toList).head? = some c
          ∧ (c = '#' ∨ c = '\\')) := by
  intro ls
  have hls : ∀ l ∈ ls, IsLine l := fun l hl ↦ isLine_of_mem_lines hl
  rw [← toList_joinLines_lines] at hread
  refine ⟨fun hmargin ↦ ⟨cutDefinition ls d, ?_, rfl⟩, exists_of_commonIndent_ne_nil hls hread⟩
  rw [sliceDefinition]
  rcases hmargin with hmargin | hmargin
  · rw [stripIndent_of_commonIndent hmargin]
    exact sliceLines_eq_ok_iff.2 ⟨t, d, hread, hd, rfl⟩
  · exact sliceLines_stripIndent hls (lines_ne_nil source) hread hd hmargin

/-- A comment that is further in than the body of the definition. -/
theorem sliceDefinition_of_deep_comment :
    let source := "      # c\n\ndef f():\n    return 1\n"
    ∃ x, sliceDefinition source = .ok x ∧ x.text = "def f():\n    return 1" := by
  intro source
  have hplaces : (readText (unifyNewlines source.toList)).toOption.map (fun t ↦
      ((statementsOf t).filterMap undecorated?).map fun d ↦ (d.firstLine, d.lastLine))
      = some [(3, 4)] := by decide +kernel
  cases hread : readText (unifyNewlines source.toList) with
  | error f =>
    rw [hread] at hplaces
    cases hplaces
  | ok t =>
    rw [hread] at hplaces
    obtain ⟨d, hd, hlines⟩ := List.map_eq_singleton_iff.1 (Option.some.inj hplaces)
    obtain ⟨x, hx, htext⟩ := (sliceDefinition_of_readText hread hd).1 (.inr (by decide +kernel))
    refine ⟨x, hx, htext.trans ?_⟩
    rw [(Prod.mk.inj hlines).1, (Prod.mk.inj hlines).2]
    decide +kernel

/-- A comment that is as far in as the body: the source can be read, but not once the indentation is
removed. -/
theorem sliceDefinition_of_level_comment :
    let source := "    # c\ndef f():\n    return 1\n"
    (readText (unifyNewlines source.toList)).toOption.map
        (fun t ↦ ((statementsOf t).filterMap undecorated?).length) = some 1
      ∧ stripIndent (lines source) = ["# c", "def f():", "return 1", ""]
      ∧ sliceDefinition source = .error (.unsourced .unreadable) := by
  intro source
  have hlines : stripIndent (lines source) = ["# c", "def f():", "return 1", ""] := by
    decide +kernel
  have hbroken :
      readText (joinLines (stripIndent (lines source))).toList = .error .brokenSource := by
    rw [hlines]
    exact readText_of_unparsed (by decide) (by decide +kernel)
  refine ⟨by decide +kernel, hlines, ?_⟩
  rw [sliceDefinition, sliceLines, hbroken]

end Source
end TexWeave
