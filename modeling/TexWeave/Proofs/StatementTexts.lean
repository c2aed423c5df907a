import TexWeave.Proofs.UnindentedTrees

/-!
# The text of a statement

A definition that stands somewhere in a file is found by its first line, and its lines are sliced
once more.  That gives the text of the definition if its first line does not continue another one,
and if its lines of code compare in depth as they did once they have lost the indentation of the
first: where indentations are made of tabs and spaces at once they need not.

* `lineStarts` — where the lines of a text begin.
* `IsAligned` — how a statement has to be laid out.
* `statementText` — the text of a definition without its indentation.
* `sliceDefinition_linesFrom` — the lines that are found are sliced to this text.
-/

set_option autoImplicit false

namespace TexWeave
namespace Source

open Text Form Scanner Tree

/-! ## The places where lines begin -/

namespace Scanner

/-- The states a scan comes to, in order. -/
def states : Nat → Scanner → List Scanner
  | 0, s => [s]
  | n + 1, s => s :: match s.next with
    | some t => states n t
    | none => []

section

variable {s t : Scanner} {ts : List Token} {n : Nat}

theorem exists_reaches_of_mem_states (h : t ∈ states n s) : ∃ ts, Reaches s ts t := by
  induction n generalizing s with
  | zero =>
    obtain rfl := List.mem_singleton.1 h
    exact ⟨[], .here⟩
  | succ n ih =>
    rw [states, List.mem_cons] at h
    rcases h with rfl | h
    · exact ⟨[], .here⟩
    · cases hnext : s.next with
      | none =>
        rw [hnext] at h
        cases h
      | some u =>
        rw [hnext] at h
        obtain ⟨new, hmove⟩ := exists_move_of_next hnext
        obtain ⟨ts, hts⟩ := ih h
        exact ⟨_, .move hmove hts hnext⟩

theorem Reaches.mem_states (h : Reaches s ts t) (hn : s.size ≤ n) : t ∈ states n s := by
  induction h generalizing n with
  | @here s =>
    cases n with
    | zero => exact List.mem_singleton_self s
    | succ n => exact List.mem_cons_self
  | move hmove _ hnext ih =>
    have hlt := hmove.size_lt
    cases n with
    | zero => omega
    | succ n =>
      rw [states, hnext]
      exact List.mem_cons_of_mem _ (ih (by omega))

end

end Scanner

/-- Where the lines of a text begin, those inside brackets and literals left out, and those that
continue another. -/
def lineStarts (text : List Char) : List Scanner :=
  (states (2 * text.length + 1) { rest := text }).filter fun s ↦
    s.atLineStart && s.brackets.isEmpty

theorem mem_lineStarts {text : List Char} {s : Scanner} :
    s ∈ lineStarts text ↔ OpensLine text s := by
  rw [lineStarts, List.mem_filter, Bool.and_eq_true, List.isEmpty_iff, OpensLine]
  constructor
  · rintro ⟨hmem, hs, hbrackets⟩
    exact ⟨hs, hbrackets, exists_reaches_of_mem_states hmem⟩
  · rintro ⟨hs, hbrackets, ts, hreaches⟩
    exact ⟨hreaches.mem_states (Nat.le_refl _), hs, hbrackets⟩

/-! ## How a statement is laid out -/

/-- The indentation of the first line of a statement, in the lines of its text. -/
def indentation (ls : List String) (s : Tree) : List Char := indentOf (ls.getD (s.firstLine - 1) "")

/-- The line on which the line feed stands that ends a statement. -/
def feedLine (s : Tree) : Nat :=
  ((s.tokens.reverse.find? fun k ↦ k.kind == .newline).map Token.line).getD 0

/-- The lines of a statement that do not continue another. -/
def linesOf (text : List Char) (s : Tree) : List Scanner :=
  (lineStarts text).filter fun u ↦ s.firstLine ≤ u.line && u.line ≤ feedLine s

/-- How deep each line of code of a statement stands, and how deep it stands without the
indentation of the first; none stands less deep than this. -/
def depthsOf (text : List Char) (s : Tree) : List (Depth × Depth) :=
  let p := indentation (splitLines (String.ofList text)) s
  (linesOf text s).filterMap fun u ↦ (codeDepth? u.rest).bind fun d ↦
    if (depthAlong .zero p).wide ≤ d.wide then (codeDepth? (unindented p u.rest)).map (d, ·)
    else none

/-- The first line of a statement begins with the statement, and its lines of code compare in depth
with and without the indentation of the first alike. -/
structure IsAligned (text : List Char) (s : Tree) : Prop where
  opens : ∃ u ∈ lineStarts text, u.line = s.firstLine
  wide : ∀ x ∈ depthsOf text s, ∀ y ∈ depthsOf text s, x.1.wide < y.1.wide ↔ x.2.wide < y.2.wide
  narrow : ∀ x ∈ depthsOf text s, ∀ y ∈ depthsOf text s,
    x.1.narrow < y.1.narrow ↔ x.2.narrow < y.2.narrow

instance (text : List Char) (s : Tree) : Decidable (IsAligned text s) :=
  decidable_of_iff ((∃ u ∈ lineStarts text, u.line = s.firstLine)
    ∧ (∀ x ∈ depthsOf text s, ∀ y ∈ depthsOf text s, x.1.wide < y.1.wide ↔ x.2.wide < y.2.wide)
    ∧ ∀ x ∈ depthsOf text s, ∀ y ∈ depthsOf text s,
      x.1.narrow < y.1.narrow ↔ x.2.narrow < y.2.narrow)
    ⟨fun ⟨h, hwide, hnarrow⟩ ↦ ⟨h, hwide, hnarrow⟩, fun h ↦ ⟨h.opens, h.wide, h.narrow⟩⟩

/-- The lines of a definition `d` in the lines of a file: from the line with its opening word to its
last line, without the indentation of the statement `s` it is with its decorators. -/
def statementLines (ls : List String) (s d : Tree) : List String :=
  (between d.firstLine d.lastLine ls).map (dropPrefix (indentation ls s))

/-- The text of a definition. -/
def statementText (ls : List String) (s d : Tree) : String := joinLines (statementLines ls s d)

/-- The name of a definition, as its first line spells it. -/
def statementName (ls : List String) (s d : Tree) : String :=
  (headerName? ((statementLines ls s d).headD "")).getD (declaredName d)

section

variable {text X p r : List Char} {x : Char} {d s : Tree} {q e t : Scanner}
  {ts closing behind : List Token}

/-- The first line, with its indentation. -/
theorem getElem?_firstLine (ht : OpensLine text t) (hline : t.line = s.firstLine)
    (hp : IsIndented p x) (hrest : t.rest = p ++ x :: r) :
    (splitAt '\n' text)[s.firstLine - 1]? = some (p ++ x :: lineTail r) := by
  obtain ⟨hstart, -, before, hbefore⟩ := ht
  obtain ⟨V, hV⟩ := (stands_start text).reaches hbefore
  have hplace : (splitAt '\n' (V ++ t.rest))[V.count '\n']?
      = some (lineHead V ++ lineTail t.rest) :=
    getElem?_splitAt '\n' V t.rest
  have hcount : V.count '\n' = s.firstLine - 1 := by
    rw [← hline, hV.line_eq]
    omega
  rw [← hV.text_eq, hcount, hV.start hstart, List.nil_append, hrest,
    lineTail_append hp.not_mem_newline] at hplace
  have htail : lineTail (x :: r) = x :: lineTail r :=
    List.takeWhile_cons_of_pos (by simpa using hp.ne_newline)
  rw [hplace, htail]

/-- The first line begins with the indentation that is taken away. -/
theorem indentation_eq (ht : OpensLine text t) (hline : t.line = s.firstLine)
    (hp : IsIndented p x) (hx : isBlank x = false) (hrest : t.rest = p ++ x :: r) :
    indentation (splitLines (String.ofList text)) s = p := by
  have hblank : ∀ c ∈ p, isBlank c = true := fun c hc ↦ isBlank_of_isRoom (hp.room c hc)
  rw [indentation, splitLines, String.toList_ofList, List.getD_eq_getElem?_getD, List.getElem?_map,
    getElem?_firstLine ht hline hp hrest, Option.map_some, Option.getD_some, indentOf,
    String.toList_ofList, List.takeWhile_append_of_pos hblank,
    List.takeWhile_cons_of_neg (by simp [hx]), List.append_nil]

theorem NestedStretch.feedLine_eq (h : NestedStretch text s q ts e X closing behind) :
    feedLine s = e.line := by
  have hclosing : closing.reverse.find? (fun k ↦ k.kind == .newline) = none := by
    refine List.find?_eq_none.2 fun k hk ↦ ?_
    rw [(h.closes k (List.mem_reverse.1 hk)).1]
    decide
  rw [feedLine, h.tokens_eq, List.reverse_append, List.reverse_cons, List.append_assoc,
    List.find?_append, hclosing, Option.none_or]
  rfl

/-- The depths of an aligned statement compare as they did. -/
theorem IsAligned.keepsOrder (h : IsAligned (closed text) s) (ht : OpensLine (closed text) t)
    (hline : t.line = s.firstLine)
    (hstretch : NestedStretch (closed text) s q ts e X closing behind)
    (hp : indentation (splitLines (String.ofList (closed text))) s = p) :
    KeepsOrder (Corresponds p t e) := by
  have hmem {d d' : Depth} (hd : Corresponds p t e d d') : (d, d') ∈ depthsOf (closed text) s := by
    obtain ⟨hle, u, ⟨a, hu⟩, ⟨b, he⟩, hstart, hbrackets, hd, hd'⟩ := hd
    obtain ⟨-, -, before, hbefore⟩ := ht
    refine List.mem_filterMap.2 ⟨u, List.mem_filter.2
      ⟨mem_lineStarts.2 ⟨hstart, hbrackets, _, hbefore.trans hu⟩, ?_⟩, ?_⟩
    · rw [Bool.and_eq_true, decide_eq_true_eq, decide_eq_true_eq, ← hline, hstretch.feedLine_eq]
      exact ⟨hu.line_le, he.line_le⟩
    · rw [hp, hd, Option.bind_some, if_pos hle, hd', Option.map_some]
  constructor
  · exact fun hx hy ↦ h.wide _ (hmem hx) _ (hmem hy)
  · exact fun hx hy ↦ h.narrow _ (hmem hx) _ (hmem hy)

/-- The tokens of a stretch stand on its lines. -/
theorem Scanner.Reaches.line_le_of_mem (h : Reaches q ts e) : ∀ k ∈ ts, q.line ≤ k.line := by
  induction h with
  | here => exact List.forall_mem_nil _
  | move hmove _ _ ih =>
    refine List.forall_mem_append.2 ⟨fun k hk ↦ ?_, fun k hk ↦ hmove.line_le.trans (ih k hk)⟩
    exact (hmove.addedFrom.lines k (List.mem_of_mem_filter hk)).1

theorem NestedStretch.isLayout_of_mem (h : NestedStretch text s q ts e X closing behind) :
    ∀ j ∈ e.part ['\n'] .newline :: closing, j.isLayout = true :=
  List.forall_mem_cons.2 ⟨rfl, fun j hj ↦ by rw [Token.isLayout, (h.closes j hj).1]⟩

/-- No word of a statement stands above its first line. -/
theorem NestedStretch.firstLine_le (h : NestedStretch text s q ts e X closing behind) {k : Token}
    (hmem : k ∈ s.tokens) (hk : k.isLayout = false) : s.firstLine ≤ k.line := by
  rw [h.tokens_eq] at hmem
  rw [h.firstLine_eq]
  refine h.reaches.line_le_of_mem k ((List.mem_append.1 hmem).resolve_right fun hmem ↦ ?_)
  rw [h.isLayout_of_mem k hmem] at hk
  cases hk

/-- What stands under the decorators lies within the statement. -/
theorem NestedStretch.line_bounds (h : NestedStretch text s q ts e X closing behind)
    {front w : List Token} {k : Token} (htokens : s.tokens = front ++ d.tokens)
    (hd : d.tokens = k :: w) (hk : k.isLayout = false) :
    s.firstLine ≤ d.firstLine ∧ d.lastLine ≤ e.line := by
  constructor
  · rw [show d.firstLine = k.line by rw [firstLine, hd]; rfl]
    exact h.firstLine_le (htokens ▸ List.mem_append_right front (hd ▸ List.mem_cons_self)) hk
  · obtain ⟨j, hj⟩ := exists_lastWord? hk (hd ▸ List.mem_cons_self : k ∈ d.tokens)
    have hjts : lastWord? ts = some j := by
      have hall := lastWord?_append front d.tokens
      rw [← htokens, h.tokens_eq, lastWord?_append_of_layout h.isLayout_of_mem, hj,
        Option.some_or] at hall
      exact hall
    obtain ⟨before, u, hbefore, -, htracks⟩ := h.start
    obtain ⟨v, hv⟩ := htracks.reaches h.reaches
    obtain ⟨a, c, b, rfl, -, hend⟩ := hv.ends j (by rw [lastWord?_append, hjts, Option.some_or])
    rw [Source.lastLine_eq, hj, hv.line_eq, Option.map_some, Option.getD_some, hend,
      List.count_append]
    omega

/-- The same lines of a text and of a part of it. -/
theorem between_within {α : Type} {first last : Nat} {b : List α} (a c : List α)
    (hfirst : 0 < first) (hlast : last ≤ b.length) :
    between (first + a.length) (last + a.length) (a ++ (b ++ c)) = between first last b := by
  rw [between_append (by omega), Nat.add_sub_cancel, Nat.add_sub_cancel, between, between,
    List.take_append_of_le_length hlast]

/-! ## Slicing what is found -/

/-- A text as it is read from a file: every line ends with a line feed, and only with that. -/
structure IsFile (text : List Char) : Prop where
  ends : WholeLines text
  plain : '\r' ∉ text

theorem IsFile.closed_eq (h : IsFile text) : closed text = text := by
  rcases h.ends.eq_nil_or with rfl | ⟨v, rfl⟩
  · rfl
  · rw [closed, if_pos (by simp)]

/-- The first line of what is found has the indentation. -/
theorem commonIndent_found {F Y : List Char} (hp : IsIndented p x) (hx : isBlank x = false)
    (hF : p ++ x :: r = F ++ Y) (hends : WholeLines F) (hne : F ≠ []) :
    commonIndent (splitLines (String.ofList F)) = p := by
  obtain ⟨w, rfl⟩ : ∃ w, F = p ++ x :: w := by
    rcases List.append_eq_append_iff.1 hF with ⟨w, rfl, hw⟩ | ⟨w, hw, -⟩
    · cases w with
      | nil =>
        rw [List.append_nil] at hends hne
        obtain ⟨G, rfl⟩ := hends.eq_nil_or.resolve_left hne
        exact absurd (List.mem_append_right G (List.mem_singleton_self _)) hp.not_mem_newline
      | cons c w => exact ⟨w, by rw [(List.cons.inj hw).1]⟩
    · obtain ⟨G, rfl⟩ := hends.eq_nil_or.resolve_left hne
      have hmem : '\n' ∈ G ++ ['\n'] ++ w := by simp
      exact absurd (hw ▸ hmem) hp.not_mem_newline
  have hblank : ∀ c ∈ p, isBlank c = true := fun c hc ↦ isBlank_of_isRoom (hp.room c hc)
  obtain ⟨more, hmore⟩ := splitAt_eq_takeWhile_cons '\n' (p ++ x :: w)
  have hfirst : (p ++ x :: w).takeWhile (· != '\n') = p ++ x :: lineTail w := by
    rw [← lineTail, lineTail_append hp.not_mem_newline]
    exact congrArg (p ++ ·) (List.takeWhile_cons_of_pos (by simpa using hp.ne_newline))
  rw [splitLines, String.toList_ofList, hmore, hfirst, List.map_cons, commonIndent,
    List.find?_cons_of_pos (by simp [isBlankLine, hx]), Option.map_some, Option.getD_some,
    indentOf, String.toList_ofList, List.takeWhile_append_of_pos hblank,
    List.takeWhile_cons_of_neg (by simp [hx]), List.append_nil]

theorem lines_of_plain {F : List Char} (h : '\r' ∉ F) :
    lines (String.ofList F) = splitLines (String.ofList F) := by
  rw [lines, splitLines, String.toList_ofList, unifyNewlines_of_not_mem h]

/-- The lines of a part of a text, which is a text of its own. -/
theorem between_found {V F Y : List Char} (hV : WholeLines V) (hF : WholeLines F) {first last : Nat}
    (hfirst : 0 < first) (hlast : last ≤ F.count '\n') :
    between (first + V.count '\n') (last + V.count '\n')
        (splitLines (String.ofList (V ++ (F ++ Y))))
      = between first last (splitLines (String.ofList F)) := by
  have hown : splitLines (String.ofList F)
      = [] ++ ((splitAt '\n' F).dropLast.map String.ofList ++ [""]) := by
    have hsplit : splitAt '\n' F = (splitAt '\n' F).dropLast ++ [[]] := by
      conv_lhs => rw [← List.append_nil F]
      exact splitAt_of_wholeLines hF []
    conv_lhs => rw [splitLines, String.toList_ofList, hsplit]
    rw [List.map_append]
    rfl
  have hall : splitLines (String.ofList (V ++ (F ++ Y)))
      = (splitAt '\n' V).dropLast.map String.ofList
        ++ ((splitAt '\n' F).dropLast.map String.ofList ++ (splitAt '\n' Y).map String.ofList) := by
    rw [splitLines, String.toList_ofList, splitAt_of_wholeLines hV, splitAt_of_wholeLines hF,
      List.map_append, List.map_append]
  have hlength : last ≤ ((splitAt '\n' F).dropLast.map String.ofList).length := by
    rwa [List.length_map, length_dropLast_splitAt]
  have hfront := between_within ((splitAt '\n' V).dropLast.map String.ofList)
    ((splitAt '\n' Y).map String.ofList) hfirst hlength
  rw [List.length_map, length_dropLast_splitAt] at hfront
  rw [hall, hfront, hown]
  exact (between_within [] [""] hfirst hlength).symm

/-- **The lines that are found for a statement** are sliced to the text of the definition it is. -/
theorem sliceDefinition_linesFrom {text : List Char} {t s d : Tree} (hfile : IsFile text)
    (hread : readText text = .ok t) (hs : s ∈ t.definitions) (hd : undecorated? s = some d)
    (haligned : IsAligned text s) :
    sliceDefinition (Module.linesFrom text (s.firstLine - 1))
      = .ok ⟨statementName (splitLines (String.ofList text)) s d,
        statementText (splitLines (String.ofList text)) s d⟩ := by
  obtain ⟨q, ts, e, X, closing, f, behind, h, hf, hparses, hagree⟩ := exists_nestedStretch hread hs
  obtain ⟨b, hb, hline⟩ := haligned.opens
  have hopens : OpensLine (closed text) b := hfile.closed_eq.symm ▸ mem_lineStarts.1 hb
  obtain ⟨p, x, r, hp, hx, hrest⟩ := h.exists_indented hopens hline
  have hindent := indentation_eq hopens hline hp hx hrest
  have hP : KeepsOrder (Corresponds p b e) := by
    refine IsAligned.keepsOrder ?_ hopens hline h hindent
    rwa [hfile.closed_eq]
  obtain ⟨u, F, hpasses, hF, hends, hend, hfound⟩ := h.exists_found hopens hline
  rw [hfile.closed_eq] at hfound hindent
  -- what is found, as a part of the text
  obtain ⟨V, hV⟩ := (stands_start (closed text)).reaches hopens.2.2.choose_spec
  have htext : text = V ++ (F ++ u.rest) := by rw [← hF, ← hV.text_eq, hfile.closed_eq]
  have hVends := wholeLines_of_lineHead (hV.start hopens.1)
  have hVcount : V.count '\n' = s.firstLine - 1 := by
    rw [← hline, hV.line_eq]
    omega
  have hsub : F ⊆ text := fun c hc ↦
    htext ▸ List.mem_append_right V (List.mem_append_left _ hc)
  have hnull : '\x00' ∉ F := fun hmem ↦ by
    rw [(readText_eq_null_iff _).2 (hsub hmem)] at hread
    cases hread
  have hlines := lines_of_plain fun hmem ↦ hfile.plain (hsub hmem)
  have hne : F ≠ [] := by
    rintro rfl
    obtain ⟨_, hbq⟩ := hopens.reaches h hline
    have hle := (hbq.trans h.reaches).line_le
    simp at hend
    omega
  have hcommon := commonIndent_found hp hx (hrest.symm.trans hF) hends hne
  -- the tree of it, and the definition under the decorators
  obtain ⟨s', last, hread', hs', hlined⟩ := h.readText_unindented hopens hline hp hrest hP hpasses
    hF hends hnull hf hparses hagree
  obtain ⟨v, hv, hyields⟩ := exists_yields_of_parses terminates_grammar hparses
    (isGrounded_of_mem_definingForms hf)
  obtain ⟨c, front, k, w, hc, htokens, hfirst, hk⟩ := exists_undecorated hf hyields
  obtain rfl : c = d := Option.some.inj (hc.symm.trans hd)
  obtain ⟨d', hd', hname, hlinedD⟩ := exists_undecorated_of_lined hc hs' hlined
  have hfirstLine := firstLine_of_lined hlinedD hfirst hk
  have hlastLine := lastLine_of_lined hlinedD hfirst hk
  obtain ⟨hge, hle⟩ := h.line_bounds htokens hfirst hk
  have hpos : 0 < s.firstLine := by
    rw [← hline, hV.line_eq]
    omega
  have hown : between (d'.firstLine + V.count '\n') (d'.lastLine + V.count '\n')
        (splitLines (String.ofList (V ++ (F ++ u.rest))))
      = between d'.firstLine d'.lastLine (splitLines (String.ofList F)) :=
    between_found hVends hends (by omega) (by omega)
  rw [← htext, hVcount, ← hfirstLine, ← hlastLine] at hown
  rw [hfound, sliceDefinition, hlines]
  refine sliceLines_eq_ok_iff.2 ⟨.node .text [s', .leaf last], d', ?_, ?_, ?_⟩
  · rw [joinLines_stripIndent _ (hlines ▸ fun l hl ↦ isLine_of_mem_lines hl)
      (hlines ▸ lines_ne_nil _), hcommon, joinLines_splitLines, String.toList_ofList, hread']
  · cases s' with
    | leaf j => cases hd'
    | node kind cs => exact (List.filterMap_cons_some hd').trans rfl
  · rw [cutDefinition, stripIndent, between_map, ← hown, hcommon, hname, statementName,
      statementText, statementLines, hindent]

end

end Source
end TexWeave
