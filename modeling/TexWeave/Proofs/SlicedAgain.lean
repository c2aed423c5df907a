import TexWeave.Proofs.DeclaredNames
import TexWeave.Proofs.Stretches
import TexWeave.Proofs.ValidSources

/-!
# Definitions sliced again

The text of a definition is a source of its own.  It begins with the definition, since decorators
are left out, and it ends with it.  So slicing it once more gives the same name and the same text,
unless the text begins with blanks, which the second time are an indentation, or its last line is
continued behind the definition.

* `Stretch.readText_own` — the tree of the lines of a definition.
* `between_lines` — the lines that are cut out.
* `indentOf_of_sliceDefinition` — a text that is its own definition begins at the margin.
* `sliceDefinition_sliced` — when slicing once more changes nothing.
-/

set_option autoImplicit false

namespace TexWeave
namespace Source

open Text Form Scanner

/-! ## The tree of the lines of a definition -/

theorem stringsAgree_map_look (ts : List Token) : stringsAgree (ts.map look) = stringsAgree ts := by
  induction ts with
  | nil => rfl
  | cons a ts ih =>
    cases ts with
    | nil => rfl
    | cons b ts => exact congrArg (!stringsClash a b && ·) ih

theorem stringsAgree_finish {last : Token} (hlast : last.kind = .finish) (ts : List Token) :
    stringsAgree (ts ++ [last]) = stringsAgree ts := by
  induction ts with
  | nil => rfl
  | cons a ts ih =>
    cases ts with
    | nil =>
      have hopens : last.opensString = false := by rw [Token.opensString, hlast]; rfl
      rw [List.singleton_append, stringsAgree, stringsClash, hopens, Bool.and_false,
        Bool.false_and]
      rfl
    | cons b ts => exact congrArg (!stringsClash a b && ·) ih

theorem lastWord?_map_down (n : Nat) (ts : List Token) :
    lastWord? (ts.map (Token.down n)) = (lastWord? ts).map (Token.down n) := by
  rw [lastWord?, ← List.map_reverse, List.find?_map]
  rfl

theorem closed_of_getLast? {own : List Char} (hne : own ≠ []) (hend : own.getLast? ≠ some '\n') :
    closed own = own ++ ['\n'] := by
  rw [closed, if_neg]
  simpa [hne] using hend

section

variable {text u X : List Char} {d : Tree} {s e : Scanner} {ts closing behind : List Token}
  {f : Syn}

/-- **The tree of the lines of a definition** holds that definition alone. -/
theorem Stretch.readText_own (h : Stretch text d u s ts e X closing) (hu : lineHead u = [])
    (hends : EndsOnLastLine d) (hnull : '\x00' ∉ text) (hf : f ∈ definitionForms)
    (hparses : Parses grammar f (d.tokens ++ behind) (some ([d], behind)))
    (hagree : stringsAgree d.tokens = true) :
    ∃ own t' d', text = u ++ (own ++ '\n' :: X) ∧ own ≠ []
      ∧ d.lastLine = 1 + u.count '\n' + own.count '\n' ∧ readText own = .ok t'
      ∧ (statementsOf t').filterMap undecorated? = [d'] ∧ d'.firstLine = 1
      ∧ d'.lastLine = 1 + own.count '\n' ∧ declaredName d' = declaredName d := by
  obtain ⟨own, D, last, htext, hne, hcomplete, htokens, hlast, hlook, more, hdown, hmore⟩ :=
    h.exists_tokens hu
  obtain ⟨hlines, hend⟩ := h.lastLine_eq hends htext hne
  obtain ⟨d', hparse, hD, hname, hd'⟩ := exists_parse_of_definition hf hparses hlook hlast
  have hsentence : (scan own).sentence? = some (D ++ [last]) := by
    have hscan : scan own = ({ rest := own ++ ['\n'] } : Scanner).whole := by
      rw [scan_eq_whole, closed_of_getLast? hne hend]
    have hstrings : stringsAgree (D ++ [last]) = true := by
      rw [stringsAgree_finish hlast, ← stringsAgree_map_look, hlook, stringsAgree_map_look, hagree]
    have htokens : ({ rest := own ++ ['\n'] } : Scanner).whole.tokens.filter
        (fun k ↦ !k.isTrivia) = D ++ [last] := htokens
    rw [hscan, Scanned.sentence?, hcomplete, htokens, hstrings]
    rfl
  have hread : readText own = .ok (.node .text [d', .leaf last]) := by
    have hown : '\x00' ∉ own := fun hmem ↦
      hnull (htext ▸ List.mem_append_right u (List.mem_append_left _ hmem))
    rw [readText, if_neg (by simpa using hown), hsentence, Option.bind_some, hparse]
  obtain ⟨k', D', rfl⟩ : ∃ k' D', D = k' :: D' := by
    obtain ⟨k, ks, hts, -⟩ := h.first
    cases D with
    | nil =>
      rw [hts] at hdown
      cases hdown
    | cons k' D' => exact ⟨k', D', rfl⟩
  refine ⟨own, _, d', htext, hne, hlines, hread, ?_, ?_, ?_, hname⟩
  · cases d' with
    | leaf k => cases hd'
    | node kind cs => exact (List.filterMap_cons_some hd').trans rfl
  · obtain ⟨front, hs, -⟩ := h.start
    obtain ⟨k, ks, hts, -, hline⟩ := h.first
    have hk : k'.down (u.count '\n') = k := by
      rw [hts] at hdown
      exact (List.cons.inj hdown).1
    have hsum : k'.line + u.count '\n' = 1 + u.count '\n' := by
      rw [← hs.line_eq, ← hline, ← hk]
      rfl
    rw [Tree.firstLine, hD]
    exact Nat.add_right_cancel hsum
  · have hword : (lastWord? (k' :: D')).map (Token.down (u.count '\n')) = lastWord? d.tokens := by
      rw [← lastWord?_map_down, hdown, lastWord?_append_of_layout hmore, h.lastWord?_eq]
    rw [Source.lastLine_eq, ← hword] at hlines
    rw [Source.lastLine_eq, hD]
    cases hlast : lastWord? (k' :: D') with
    | none =>
      rw [hlast] at hlines
      exact absurd hlines (by simp; omega)
    | some k =>
      rw [hlast] at hlines
      have hsum : k.endLine + u.count '\n' = 1 + u.count '\n' + own.count '\n' := hlines
      exact Nat.add_right_cancel (hsum.trans (Nat.add_right_comm ..))

end

/-! ## The lines that are cut out -/

section

variable {ls : List String} {u own X : List Char}

/-- The lines of a part of a text that begins with a line and ends with one. -/
theorem between_splitAt (hu : lineHead u = []) (own X : List Char) :
    between (1 + u.count '\n') (1 + u.count '\n' + own.count '\n')
      (splitAt '\n' (u ++ (own ++ '\n' :: X))) = splitAt '\n' own := by
  have hown : between 1 (1 + own.count '\n') (splitAt '\n' (own ++ '\n' :: X))
      = splitAt '\n' own := by
    rw [between, Nat.sub_self, List.drop_zero, splitAt_append, Nat.add_comm, ← length_splitAt,
      List.take_left]
  rcases exists_of_lineHead_eq_nil hu with rfl | ⟨v, rfl⟩
  · exact hown
  · have hlength := length_splitAt '\n' v
    rw [List.append_assoc, List.singleton_append, splitAt_append, List.count_append,
      List.count_singleton_self, between_append (by omega), hlength]
    rw [show 1 + (v.count '\n' + 1) - (v.count '\n' + 1) = 1 by omega,
      show 1 + (v.count '\n' + 1) + own.count '\n' - (v.count '\n' + 1) = 1 + own.count '\n'
        by omega]
    exact hown

theorem between_map {α β : Type} (f : α → β) (first last : Nat) (xs : List α) :
    between first last (xs.map f) = (between first last xs).map f := by
  rw [between, between, ← List.map_take, ← List.map_drop]

/-- The same for a text that is given by its lines. -/
theorem between_lines (hls : ∀ l ∈ ls, IsLine l) (hne : ls ≠ []) (hu : lineHead u = [])
    (htext : closed (joinLines ls).toList = u ++ (own ++ '\n' :: X)) :
    between (1 + u.count '\n') (1 + u.count '\n' + own.count '\n') ls
      = splitLines (String.ofList own) := by
  have hclosed := between_splitAt hu own X
  have hcount := congrArg (List.count '\n') htext
  simp only [List.count_append, List.count_cons_self] at hcount
  have hlength := length_splitAt '\n' (joinLines ls).toList
  have hplain : between (1 + u.count '\n') (1 + u.count '\n' + own.count '\n')
      (splitAt '\n' (joinLines ls).toList) = splitAt '\n' own := by
    rw [← htext] at hclosed
    rcases closed_eq (joinLines ls).toList with h | h
    · rwa [h] at hclosed
    · rw [h, List.count_append, List.count_singleton_self] at hcount
      rwa [h, splitAt_append, between, List.take_append_of_le_length (by omega)] at hclosed
  rw [← splitLines_joinLines_of_isLine hne hls, splitLines, between_map, hplain, splitLines,
    String.toList_ofList]

end

/-! ## Slicing once more -/

section

variable {ls : List String} {u X : List Char} {d : Tree} {s e : Scanner} {ts closing : List Token}

/-- A definition in front of which nothing stands on its line, if its text begins without blanks. -/
theorem Stretch.lineHead_eq_nil (hls : ∀ l ∈ ls, IsLine l) (hne : ls ≠ [])
    (h : Stretch (closed (joinLines ls).toList) d u s ts e X closing)
    (hle : d.firstLine ≤ d.lastLine) (hindent : indentOf (cutDefinition ls d).text = []) :
    lineHead u = [] := by
  obtain ⟨before, hstands⟩ := h.stands
  obtain ⟨c, r, hopening, -, hc⟩ := h.opening
  have hfirst : d.firstLine = s.line := h.firstLine_eq.trans hstands.line_eq.symm
  have htail : lineTail s.rest ≠ [] := by
    rw [hopening, lineTail, List.takeWhile_cons_of_pos]
    · exact List.cons_ne_nil _ _
    · simpa using fun hfeed : c = '\n' ↦ absurd (hfeed ▸ hc) (by decide)
  have hline := getElem?_of_stands hls hne hstands (List.append_ne_nil_of_right_ne_nil _ htail)
  rw [← hfirst] at hline
  have hhead := head?_between hline (by rw [hfirst, hstands.line_eq]; omega) hle
  obtain ⟨more, hmore⟩ := List.head?_eq_some_iff.1 hhead
  obtain ⟨w, hw⟩ := exists_joinLines_append [String.ofList (lineHead u ++ lineTail s.rest)] more
  cases hu : lineHead u with
  | nil => rfl
  | cons a v =>
    have hblank : isBlank a = true := h.fresh a (hu ▸ List.mem_cons_self)
    rw [cutDefinition, hmore, ← List.singleton_append, hw, hu, indentOf, String.toList_append,
      joinLines, joinWith, String.toList_ofList, List.append_assoc, List.cons_append,
      List.takeWhile_cons_of_pos hblank] at hindent
    cases hindent

/-- Lines of which the first begins without a blank have no indentation. -/
theorem commonIndent_splitLines {c : Char} (hc : isBlank c = false) (q : List Char) :
    commonIndent (splitLines (String.ofList (c :: q))) = [] := by
  have hfeed : (c != '\n') = true := bne_iff_ne.2 fun h ↦ by
    rw [h] at hc
    cases hc
  obtain ⟨more, hmore⟩ := splitAt_eq_takeWhile_cons '\n' (c :: q)
  rw [List.takeWhile_cons_of_pos (by exact hfeed)] at hmore
  rw [splitLines, String.toList_ofList, hmore, List.map_cons, commonIndent,
    List.find?_cons_of_pos (by simp [isBlankLine, hc]), Option.map_some, Option.getD_some,
    indentOf, String.toList_ofList, List.takeWhile_cons_of_neg (by simp [hc])]

theorem between_all (s : String) :
    between 1 (1 + s.toList.count '\n') (splitLines s) = splitLines s := by
  have hlength : (splitLines s).length = 1 + s.toList.count '\n' := by
    rw [splitLines, List.length_map, length_splitAt, Nat.add_comm]
  rw [between, ← hlength, List.take_length]
  rfl

end

/-- What is cut out of lines is read back as the lines between the two ends. -/
theorem lines_cutDefinition {ls : List String} {d : Tree} (hls : ∀ l ∈ ls, IsLine l)
    (hown : between d.firstLine d.lastLine ls ≠ []) :
    lines (cutDefinition ls d).text = between d.firstLine d.lastLine ls :=
  lines_joinWith List.mem_cons_self hown fun l hl ↦
    hls l (List.mem_of_mem_take (List.mem_of_mem_drop hl))

/-- The text of a definition has lines, and the first is not blank. -/
theorem exists_between_eq_cons {ls : List String} {t d : Tree} (hls : ∀ l ∈ ls, IsLine l)
    (hne : ls ≠ []) (hread : readText (joinLines ls).toList = .ok t)
    (hd : d ∈ (statementsOf t).filterMap undecorated?) :
    ∃ l more, between d.firstLine d.lastLine ls = l :: more ∧ isBlankLine l = false := by
  obtain ⟨u, front, s, first, others, name, stop, hplace, hu⟩ := exists_place_of_readText hread hd
  obtain ⟨hpos, hline⟩ := getElem?_of_place hls hne hplace hu
  obtain ⟨-, r, hr⟩ := exists_line_of_place hplace hu
  have hhead := head?_between hline hpos hplace.firstLine_le
  obtain ⟨more, hmore⟩ := List.head?_eq_some_iff.1 hhead
  refine ⟨_, more, hmore, ?_⟩
  have hwords : ∀ w ∈ ["def", "class", "async"], w.toList.all isBlank = false := by decide
  rw [isBlankLine, String.toList_ofList, hr, List.all_append, List.all_append,
    hwords _ hplace.isHeader.first_text.1, Bool.false_and, Bool.and_false]

/-- **A text that is its own definition** begins at the margin. -/
theorem indentOf_of_sliceDefinition {x : Definition} (h : sliceDefinition x.text = .ok x) :
    indentOf x.text = [] := by
  obtain ⟨t, d, hread, hd, hx⟩ := sliceLines_eq_ok_iff.1 h
  obtain ⟨l, more, hown, hl⟩ := exists_between_eq_cons (isLine_of_mem_stripIndent_lines x.text)
    (stripIndent_ne_nil (lines_ne_nil x.text)) hread (hd ▸ List.mem_singleton_self d)
  have hlines : lines x.text = l :: more := by
    conv_lhs => rw [← hx]
    rw [lines_cutDefinition (isLine_of_mem_stripIndent_lines x.text) (by simp [hown]), hown]
  -- the lines are as many with their indentation as without
  have hstripped : lines x.text = stripIndent (lines x.text) := by
    have hsub : (between d.firstLine d.lastLine (stripIndent (lines x.text))).Sublist
        (stripIndent (lines x.text)) := (List.drop_sublist ..).trans (List.take_sublist ..)
    rw [hown, ← hlines] at hsub
    exact hsub.eq_of_length (by rw [stripIndent, List.length_map])
  have hcommon : commonIndent (lines x.text) = indentOf l := by
    rw [hlines, commonIndent, List.find?_cons_of_pos (by simp [hl])]
    rfl
  have hmargin : indentOf l = [] := by
    rw [stripIndent, hcommon, hlines, List.map_cons] at hstripped
    have hprefix : (indentOf l).isPrefixOf l.toList = true :=
      List.isPrefixOf_iff_prefix.2 (List.takeWhile_prefix _)
    have hlength := congrArg String.length (List.cons.inj hstripped).1
    rw [dropPrefix, if_pos hprefix, String.length_ofList, List.length_drop,
      ← String.length_toList] at hlength
    have hle : (indentOf l).length ≤ l.toList.length := (List.takeWhile_prefix _).length_le
    exact List.eq_nil_of_length_eq_zero (by omega)
  obtain ⟨c, w, hsplit, hc⟩ := exists_indentOf_append hl
  obtain ⟨rest, hrest⟩ := exists_joinLines_append [l] more
  have htext : x.text = l ++ rest := by
    rw [← hx, cutDefinition, hown]
    exact hrest
  rw [htext, indentOf, String.toList_append, hsplit, hmargin, List.nil_append, List.cons_append,
    List.takeWhile_cons_of_neg (by simp [hc])]

/-- A text whose scan does not come to its end has no definition. -/
theorem sliceLines_of_not_complete {own : List Char} {x : Definition}
    (hend : own.getLast? = some '\\')
    (h : ({ rest := own ++ ['\n'] } : Scanner).whole.complete = false) :
    sliceLines (splitLines (String.ofList own)) ≠ .ok x := by
  intro hx
  obtain ⟨t, d, hread, -⟩ := sliceLines_eq_ok_iff.1 hx
  obtain ⟨ts, hts, -⟩ := exists_sentence_of_readText hread
  have hne : own ≠ [] := by
    rintro rfl
    cases hend
  rw [joinLines_splitLines, String.toList_ofList, scan_eq_whole,
    closed_of_getLast? hne (by rw [hend]; decide)] at hts
  have hcomplete := (exists_sentence?_eq hts).1.symm.trans h
  cases hcomplete

section

variable {ls : List String} {u own X Y : List Char} {d : Tree} {s e : Scanner}
  {ts closing : List Token}

/-- The lines that are cut out are those of a part of the text. -/
theorem Stretch.between_own (h : Stretch (closed (joinLines ls).toList) d u s ts e X closing)
    (hls : ∀ l ∈ ls, IsLine l) (hne : ls ≠ []) (hu : lineHead u = [])
    (htext : closed (joinLines ls).toList = u ++ (own ++ '\n' :: Y))
    (hlast : d.lastLine = 1 + u.count '\n' + own.count '\n') :
    between d.firstLine d.lastLine ls = splitLines (String.ofList own) := by
  rw [h.firstLine_eq, hlast, between_lines hls hne hu htext]

/-- They begin at the margin, so they are sliced as they are. -/
theorem Stretch.sliceDefinition_own
    (h : Stretch (closed (joinLines ls).toList) d u s ts e X closing)
    (hls : ∀ l ∈ ls, IsLine l) (hne : ls ≠ []) (hu : lineHead u = [])
    (htext : closed (joinLines ls).toList = u ++ (own ++ '\n' :: Y))
    (hlast : d.lastLine = 1 + u.count '\n' + own.count '\n') :
    sliceDefinition (cutDefinition ls d).text = sliceLines (splitLines (String.ofList own)) := by
  have hbetween := h.between_own hls hne hu htext hlast
  obtain ⟨c, r, hopening, hstart, hc⟩ := h.opening
  obtain ⟨_, hs, -⟩ := h.start
  have hsame := List.append_cancel_left (htext.symm.trans hs.text_eq)
  obtain ⟨q, rfl⟩ := exists_cons_of_opening hstart (hopening.symm.trans hsame.symm)
  have hsome : between d.firstLine d.lastLine ls ≠ [] := by
    rw [hbetween, splitLines, ne_eq, List.map_eq_nil_iff]
    exact splitAt_ne_nil '\n' _
  rw [sliceDefinition, lines_cutDefinition hls hsome, hbetween,
    stripIndent_of_commonIndent (commonIndent_splitLines hc q)]

end

/-- **Definitions sliced again.**  The text of a definition has the same definition, with the same
name and text, exactly if it begins at the margin and the line feed that ends the definition stands
where its last word ends, so that its last line is not continued. -/
theorem sliceDefinition_sliced {source : String} {x : Definition}
    (h : sliceDefinition source = .ok x) :
    ∃ t d, readText (joinLines (stripIndent (lines source))).toList = .ok t
      ∧ (statementsOf t).filterMap undecorated? = [d]
      ∧ (sliceDefinition x.text = .ok x ↔ indentOf x.text = [] ∧ EndsOnLastLine d) := by
  obtain ⟨t, d, hread, hd, rfl⟩ := sliceLines_eq_ok_iff.1 h
  refine ⟨t, d, hread, hd, ?_⟩
  have hlines := isLine_of_mem_stripIndent_lines source
  have hne := stripIndent_ne_nil (lines_ne_nil source)
  generalize stripIndent (lines source) = ls at hread hlines hne ⊢
  have hmem : d ∈ (statementsOf t).filterMap undecorated? := hd ▸ List.mem_singleton_self d
  obtain ⟨u, s, ts, e, X, closing, f, behind, hstretch, hf, hparses, hagree⟩ :=
    exists_stretch hread hmem
  obtain ⟨_, _, _, _, _, _, _, hplace, -⟩ := exists_place_of_readText hread hmem
  refine ⟨fun hagain ↦ ?_, fun ⟨hindent, hends⟩ ↦ ?_⟩
  · have hindent := indentOf_of_sliceDefinition hagain
    have hu := hstretch.lineHead_eq_nil hlines hne hplace.firstLine_le hindent
    refine ⟨hindent, by_contra fun hends ↦ ?_⟩
    obtain ⟨own, r, htext, hback, hlast, hcomplete⟩ := hstretch.not_complete hu hends
    rw [hstretch.sliceDefinition_own hlines hne hu htext hlast] at hagain
    exact sliceLines_of_not_complete hback hcomplete hagain
  · have hu := hstretch.lineHead_eq_nil hlines hne hplace.firstLine_le hindent
    have hnull : '\x00' ∉ closed (joinLines ls).toList := by
      have hplain : '\x00' ∉ (joinLines ls).toList := fun hmem ↦ by
        rw [(readText_eq_null_iff _).2 hmem] at hread
        cases hread
      rcases closed_eq (joinLines ls).toList with hclosed | hclosed
      · rwa [hclosed]
      · rw [hclosed, List.mem_append, not_or]
        exact ⟨hplain, by decide⟩
    obtain ⟨own, t', d', htext, hown, hlast, hread', hd', hfirst', hlast', hname⟩ :=
      hstretch.readText_own hu hends hnull hf hparses hagree
    rw [hstretch.sliceDefinition_own hlines hne hu htext hlast]
    refine sliceLines_eq_ok_iff.2 ⟨t', d', ?_, hd', ?_⟩
    · rw [joinLines_splitLines, String.toList_ofList, hread']
    · have hall := between_all (String.ofList own)
      rw [String.toList_ofList] at hall
      rw [cutDefinition, cutDefinition, hstretch.between_own hlines hne hu htext hlast, hfirst',
        hlast', hall, hname]

/-- A decorated method with comments at its end. -/
theorem sliceDefinition_sliced_of_method :
    let source := "  @dec\n  async def f(self):\n    # c\n    return 1 # d\n"
    let x : Definition := ⟨"f", "async def f(self):\n  # c\n  return 1 # d"⟩
    sliceDefinition source = .ok x ∧ sliceDefinition x.text = .ok x := by
  intro source x
  have hfound : (sliceDefinition source).toOption = some x := by decide +kernel
  have hslice : sliceDefinition source = .ok x := by
    cases h : sliceDefinition source with
    | error f => rw [h] at hfound; cases hfound
    | ok y => rw [h] at hfound; exact congrArg Except.ok (Option.some.inj hfound)
  obtain ⟨t, d, hread, hd, hagain⟩ := sliceDefinition_sliced hslice
  have hends : (readText (joinLines (stripIndent (lines source))).toList).toOption.map (fun t ↦
      ((statementsOf t).filterMap undecorated?).map fun d ↦ decide (EndsOnLastLine d))
        = some [true] := by decide +kernel
  rw [hread, Except.toOption, Option.map_some, hd, Option.some_inj] at hends
  refine ⟨hslice, hagain.2 ⟨by decide, ?_⟩⟩
  simpa using hends

/-- A form feed in front of a definition is an indentation only where no decorator is above it, and
a line can only be continued if there is another. -/
theorem sliceDefinition_not_sliced :
    let x : Definition := ⟨"f", "\x0cdef f():\n  pass"⟩
    let y : Definition := ⟨"f", "def f(): pass \\"⟩
    (sliceDefinition "@dec\n\x0cdef f():\n  pass\n").toOption = some x
      ∧ (sliceDefinition x.text).toOption = some ⟨"f", "def f():\n  pass"⟩
      ∧ (sliceDefinition "def f(): pass \\\n\n").toOption = some y
      ∧ (sliceDefinition y.text).toOption = none := by
  decide +kernel

end Source
end TexWeave
