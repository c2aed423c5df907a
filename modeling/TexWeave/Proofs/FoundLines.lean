import TexWeave.Proofs.ReadingOn
import TexWeave.Source.Module

/-!
# The lines that are found for a definition

Reading on from the first line of a definition, as many lines are found as the definition takes, or
more if lines of comments follow.  So what is found ends where the definition does or behind a
comment, and the scan comes to that place.

* `linesFrom_eq` — the text of the lines that are found.
* `NestedStretch.exists_extent` — how many lines are found for a definition.
* `NestedStretch.exists_found` — where their text begins and ends.
-/

set_option autoImplicit false

namespace TexWeave
namespace Source

open Form Scanner Tree

/-! ## The lines of a part of a text -/

section

open Text

variable {F V Y : List Char}

theorem WholeLines.eq_nil_or (h : WholeLines F) : F = [] ∨ ∃ G, F = G ++ ['\n'] := by
  cases F using List.reverseRecOn with
  | nil => exact .inl rfl
  | append_singleton G c => exact .inr ⟨G, by rw [h c List.getLast?_concat]⟩

theorem wholeLines_of_lineHead (h : lineHead F = []) : WholeLines F := by
  rcases exists_of_lineHead_eq_nil h with rfl | ⟨G, rfl⟩
  · exact wholeLines_nil
  · exact wholeLines_nil.behind G

/-- The lines of a text behind whole lines. -/
theorem splitAt_of_wholeLines (hF : WholeLines F) (Y : List Char) :
    splitAt '\n' (F ++ Y) = (splitAt '\n' F).dropLast ++ splitAt '\n' Y := by
  rcases hF.eq_nil_or with rfl | ⟨G, rfl⟩
  · rfl
  · have hG : splitAt '\n' (G ++ ['\n']) = splitAt '\n' G ++ [[]] := splitAt_append '\n' G []
    rw [hG, List.dropLast_concat, List.append_assoc, List.singleton_append, splitAt_append]

theorem dropLast_splitAt_append (hF : WholeLines F) (Y : List Char) :
    (splitAt '\n' (F ++ Y)).dropLast
      = (splitAt '\n' F).dropLast ++ (splitAt '\n' Y).dropLast := by
  rw [splitAt_of_wholeLines hF, List.dropLast_append_of_ne_nil (splitAt_ne_nil _ _)]

theorem length_dropLast_splitAt (cs : List Char) :
    (splitAt '\n' cs).dropLast.length = cs.count '\n' := by
  rw [List.length_dropLast, length_splitAt, Nat.add_sub_cancel]

theorem flatMap_dropLast_splitAt (hF : WholeLines F) :
    (splitAt '\n' F).dropLast.flatMap (fun l ↦ l ++ ['\n']) = F := by
  rcases hF.eq_nil_or with rfl | ⟨G, rfl⟩
  · rfl
  · have hG : splitAt '\n' (G ++ ['\n']) = splitAt '\n' G ++ [[]] := splitAt_append '\n' G []
    rw [hG, List.dropLast_concat]
    exact flatMap_splitAt '\n' G

/-- The lines that are found from a line on, in a text cut at the ends of lines. -/
theorem linesFrom_eq (hV : WholeLines V) (hF : WholeLines F) (hY : WholeLines Y)
    (hextent : extent (F ++ Y) = F.count '\n') :
    Module.linesFrom (V ++ (F ++ Y)) (V.count '\n') = String.ofList F := by
  rw [Module.linesFrom, dropLast_splitAt_append hV, ← length_dropLast_splitAt V, List.drop_left,
    dropLast_splitAt_append hF, List.flatMap_append, flatMap_dropLast_splitAt hF,
    flatMap_dropLast_splitAt hY, hextent, ← length_dropLast_splitAt F, List.take_left,
    flatMap_dropLast_splitAt hF]

end

/-! ## How many lines are found -/

namespace Scanner

section

variable {s t : Scanner} {p r X : List Char} {x : Char}

theorem FirstScan.reaches (h : FirstScan p x s) (r : List Char) :
    ∃ ts, Reaches { rest := p ++ x :: r } ts (s.leaving (x :: r)) := by
  have hnext : ({ rest := p ++ x :: r } : Scanner).next = some (s.leaving (x :: r)) :=
    h.lineStart_eq r
  obtain ⟨new, hmove⟩ := exists_move_of_next hnext
  exact ⟨_, .move hmove .here hnext⟩

/-- The blocks in which a line stands are no more than the first scan has. -/
theorem FirstScan.depths_length_le (h : FirstScan p x s)
    (htop : t.depths.headD .zero = s.depths.headD .zero) : s.depths.length ≤ t.depths.length := by
  cases hs : s.depths with
  | nil => exact Nat.zero_le _
  | cons d below =>
    have hd : 0 < d.wide := h.deep d (hs ▸ List.mem_cons_self)
    have hlength : (d :: below).length ≤ 1 := hs ▸ h.depths_length
    refine hlength.trans (List.length_pos_iff.2 fun hnil ↦ ?_)
    rw [hnil, hs] at htop
    have hzero : d = .zero := htop.symm
    rw [hzero] at hd
    cases hd

theorem next_of_newline (hrest : s.rest = '\n' :: X) (hs : s.atLineStart = false) :
    s.next = some (s.lineBreak X) := by
  rw [next, if_neg (by rw [hs]; decide), token, hrest]
  rfl

theorem lineBreak_depths : (s.lineBreak X).depths = s.depths := by
  rw [lineBreak, emit_eq]
  exact advance_depths ..

theorem lineBreak_brackets : (s.lineBreak X).brackets = s.brackets := by
  rw [lineBreak, emit_eq]
  exact advance_brackets ..

theorem lineBreak_found (hs : s.brackets = []) :
    (s.lineBreak X).found = s.part ['\n'] .newline :: s.found := by
  rw [lineBreak, hs, emit_eq]
  exact congrArg (_ :: ·) (advance_found ..)

theorem lineBreak_line : (s.lineBreak X).line = s.line + 1 := by
  rw [lineBreak, emit_eq]
  exact advance_line ..

/-- The end of a line leads to the start of the next one. -/
theorem reaches_lineBreak (hrest : s.rest = '\n' :: X) (hs : s.atLineStart = false) :
    ∃ ts, Reaches s ts (s.lineBreak X) := by
  obtain ⟨new, hmove⟩ := exists_move_of_next (next_of_newline hrest hs)
  exact ⟨_, .move hmove .here (next_of_newline hrest hs)⟩

end

end Scanner

theorem extent_eq {text : List Char} (hlast : text.getLast? = some '\n') : extent text
    = (Extent.run {} ({ rest := text } : Scanner).whole.tokens).last := by
  have hclosed : closed text = text := by rw [closed, if_pos (by rw [hlast]; rfl)]
  rw [extent, scan_eq_whole, hclosed]

/-- A scan from the first line of a definition on stands in front of the line feed that ends the
definition: `raw` are the tokens of the definition, `inner` its `n` blocks, and `B` those around. -/
structure ComesToEnd (text X : List Char) (n : Nat) (marks raw : List Token) (inner B : List Depth)
    (e : Scanner) : Prop where
  reaches : ∃ ts, Reaches { rest := text } ts e
  rest_eq : e.rest = '\n' :: X
  inLine : e.atLineStart = false
  brackets : e.brackets = []
  depths_eq : e.depths = inner ++ B
  length_eq : inner.length = n
  found_eq : e.found = raw.reverse ++ marks
  marks : ∀ k ∈ marks, k.kind = .indent
  isDefinition : IsDefinition (significant raw) n
  arranged : ∃ fresh, arranged false raw = some fresh

section

variable {text X p r : List Char} {x : Char} {d : Tree} {s e t : Scanner}
  {ts closing behind : List Token}

/-- **A definition is scanned again** from its first line on. -/
theorem NestedStretch.exists_comesToEnd (h : NestedStretch (closed text) d s ts e X closing behind)
    (ht : OpensLine (closed text) t) (hline : t.line = d.firstLine) (hp : IsIndented p x)
    (hrest : t.rest = p ++ x :: r) : ∃ marks raw inner B e₁,
      ComesToEnd t.rest X closing.length marks raw inner B e₁ ∧ e.depths = inner ++ s.depths
        ∧ s.depths.headD .zero = B.headD .zero := by
  obtain ⟨hs, htop⟩ := h.opens ht hline hp hrest
  obtain ⟨s₁, hs₁⟩ := exists_firstScan hp
  obtain ⟨front, v, hfront, -, htracks⟩ := h.start
  have hlineEq : s.line = (s₁.leaving (x :: r)).line + (d.firstLine - 1) := by
    change s.line = s₁.line + _
    rw [hs₁.line_eq, h.firstLine_eq, htracks.line_eq, Nat.add_sub_cancel_left]
  have htopEq := htop.trans hs₁.top_eq.symm
  obtain ⟨ts₁, e₁, inner, hreaches, hbeside, he₁, hdepths, hdepths₁, hinner⟩ :=
    h.reaches.elsewhere (eq_newline_of_closed htracks.text_eq)
      (show (s₁.leaving (x :: r)).rest = s.rest from hs.symm) h.inLine hs₁.inLine
      (h.brackets.trans hs₁.brackets.symm) hlineEq htopEq (hs₁.depths_length_le htopEq) h.walk_eq
      h.rest_eq
  obtain ⟨raw, -, hraw, hsignificant, -⟩ :=
    h.reaches.arranged false fun hs ↦ by rw [h.inLine] at hs; cases hs
  obtain ⟨raw₁, fresh, hraw₁, -, harranged⟩ :=
    hreaches.arranged false fun hs ↦ absurd (hs.symm.trans hs₁.inLine) (by decide)
  have halike : List.Forall₂ (Alike (d.firstLine - 1)) raw raw₁ := by
    obtain ⟨new, new₁, hnew, hnew₁, hall⟩ := hbeside.found
    obtain rfl : new = raw.reverse := List.append_cancel_right (hnew.symm.trans hraw)
    obtain rfl : new₁ = raw₁.reverse := List.append_cancel_right (hnew₁.symm.trans hraw₁)
    exact List.forall₂_reverse_iff.1 hall
  obtain ⟨_, hfirst⟩ := hs₁.reaches r
  refine ⟨s₁.found, raw₁, inner, s₁.depths, e₁, ?_, hdepths, htop.trans hs₁.top_eq.symm⟩
  exact {
    reaches := ⟨_, hrest ▸ hfirst.trans hreaches⟩
    rest_eq := he₁
    inLine := hbeside.atLineStart_eq.symm.trans h.endInLine
    brackets := hbeside.brackets_eq.symm.trans h.endBrackets
    depths_eq := hdepths₁
    length_eq := hinner
    found_eq := hraw₁
    marks := hs₁.found
    isDefinition := h.isDefinition.alike (hsignificant ▸ significant_alike halike)
    arranged := ⟨fresh, harranged⟩ }

/-- How many lines are found if the scan closes the blocks of the definition behind comments. -/
theorem ComesToEnd.exists_extent {n : Nat} {marks raw tail : List Token} {inner B : List Depth}
    (h : ComesToEnd text X n marks raw inner B e) (hlast : text.getLast? = some '\n')
    (hpasses : Passes (e.lineBreak X) t) (htokens : t.whole.tokens = t.found.reverse ++ tail)
    (htail : Extent.Closes n tail) :
    ∃ u, Passes (e.lineBreak X) u ∧ Passes u t ∧ extent text + 1 = u.line := by
  obtain ⟨_, hreaches⟩ := h.reaches
  obtain ⟨_, hfeed⟩ := reaches_lineBreak h.rest_eq h.inLine
  obtain ⟨trail, htrail, htrivia⟩ := hpasses.exists_found
  obtain ⟨fresh, harranged⟩ := h.arranged
  have hwhole : ({ rest := text } : Scanner).whole = t.whole :=
    (hreaches.trans (hfeed.trans hpasses.reaches)).same_whole
  have hfound : t.found.reverse
      = marks.reverse ++ (raw ++ e.part ['\n'] .newline :: trail.reverse) := by
    rw [htrail, lineBreak_found h.brackets, h.found_eq]
    simp
  obtain ⟨k, hk, hkind, hend⟩ := exists_last (fun k hk ↦ h.marks k (List.mem_reverse.1 hk))
    h.isDefinition harranged (show (e.part ['\n'] .newline).kind = .newline from rfl)
    (fun k hk ↦ (htrivia k (List.mem_reverse.1 hk)).1) htail
  have hextent : extent text = k.line := by
    rw [extent_eq hlast, hwhole, htokens, hfound, ← hend]
    simp
  rcases List.mem_cons.1 hk with rfl | hk
  · exact ⟨_, .here, hpasses, by rw [hextent, lineBreak_line]; rfl⟩
  · obtain ⟨-, u, hu, hline, hut⟩ := htrivia k (List.mem_reverse.1 hk)
    exact ⟨u, hu, hut, by rw [hextent, hline]⟩

/-- **The lines that are found for a definition** end with the definition, or with comments behind
it. -/
theorem NestedStretch.exists_extent (h : NestedStretch (closed text) d s ts e X closing behind)
    (ht : OpensLine (closed text) t) (hline : t.line = d.firstLine) (hp : IsIndented p x)
    (hrest : t.rest = p ++ x :: r) :
    ∃ u, Passes (e.lineBreak X) u ∧ u.line = t.line + extent t.rest := by
  obtain ⟨marks, raw, inner, B, e₁, h₁, hdepths, htop⟩ := h.exists_comesToEnd ht hline hp hrest
  obtain ⟨-, -, _, hbefore⟩ := ht
  obtain ⟨v, htracks⟩ := (tracks_start (closed text)).reaches hbefore
  obtain ⟨front, _, hfront, -⟩ := h.start
  obtain ⟨_, hfeed⟩ := reaches_lineBreak h.rest_eq h.endInLine
  obtain ⟨_, hfeed₁⟩ := reaches_lineBreak h₁.rest_eq h₁.inLine
  obtain ⟨out, hruns, hout⟩ := h.runs
  -- over all comments behind the definition, in either scan
  obtain ⟨f, out', hpasses, hf, hruns', hout', hend⟩ := exists_passes hruns rfl
  obtain ⟨f₁, hpasses₁, hf₁⟩ := hpasses.elsewhere (q := e₁.lineBreak X) rfl
    (by rw [lineBreak_rest, lineBreak_rest])
  obtain ⟨v', htracks'⟩ := (tracks_start (closed text)).reaches
    ((hfront.trans h.reaches).trans (hfeed.trans hpasses.reaches))
  obtain ⟨_, hreaches₁⟩ := h₁.reaches
  obtain ⟨v₁, htracks₁⟩ := (tracks_start t.rest).reaches
    (hreaches₁.trans (hfeed₁.trans hpasses₁.reaches))
  obtain ⟨tail, htokens, htail⟩ := exists_tail hf (hpasses₁.atLineStart_eq rfl)
    (by rw [hpasses.same.2, lineBreak_brackets, h.endBrackets])
    (by rw [hpasses₁.same.2, lineBreak_brackets, h₁.brackets]) hf₁
    (by rw [hpasses.same.1, lineBreak_depths, hdepths])
    (by rw [hpasses₁.same.1, lineBreak_depths, h₁.depths_eq]) htop htracks₁.deep hruns'
    (hout'.trans hout) (fun k hk ↦ (h.closes k hk).1) h₁.length_eq h.level
    (eq_newline_of_closed htracks'.text_eq) hend
  have hlast : t.rest.getLast? = some '\n' := by
    obtain ⟨c, hc⟩ : ∃ c, t.rest.getLast? = some c :=
      ⟨_, List.getLast?_eq_some_getLast (by simp [hrest])⟩
    rw [hc, eq_newline_of_closed htracks.text_eq c hc]
  obtain ⟨u₁, hu₁, -, hextent⟩ := h₁.exists_extent hlast hpasses₁ htokens htail
  -- the place is the same in the first scan
  obtain ⟨u, hu, hurest⟩ := hu₁.elsewhere (q := e.lineBreak X) rfl
    (by rw [lineBreak_rest, lineBreak_rest])
  refine ⟨u, hu, ?_⟩
  obtain ⟨w, hw⟩ := (tracks_start (closed text)).reaches
    ((hfront.trans h.reaches).trans (hfeed.trans hu.reaches))
  obtain ⟨w₁, hw₁⟩ := (tracks_start t.rest).reaches (hreaches₁.trans (hfeed₁.trans hu₁.reaches))
  have hsplit : w = v ++ w₁ := by
    have htext := hw.text_eq
    rw [htracks.text_eq, hw₁.text_eq, hurest, ← List.append_assoc] at htext
    exact (List.append_cancel_right htext).symm
  rw [hw.line_eq, hsplit, List.count_append, htracks.line_eq]
  rw [hw₁.line_eq] at hextent
  omega

/-- **The text that is found for a definition**: it begins with the line of the definition and ends
behind its last line, or behind comments that follow. -/
theorem NestedStretch.exists_found (h : NestedStretch (closed text) d s ts e X closing behind)
    (ht : OpensLine (closed text) t) (hline : t.line = d.firstLine) :
    ∃ u F, Passes (e.lineBreak X) u ∧ t.rest = F ++ u.rest ∧ WholeLines F
      ∧ e.line < t.line + F.count '\n'
      ∧ Module.linesFrom (closed text) (d.firstLine - 1) = String.ofList F := by
  obtain ⟨p, x, r, hp, -, hrest⟩ := h.exists_indented ht hline
  obtain ⟨u, hpasses, hextent⟩ := h.exists_extent ht hline hp hrest
  have hstart : t.next = some s := by rw [next, if_pos ht.1, h.lineStart_eq ht hline]
  obtain ⟨new, hmove⟩ := exists_move_of_next hstart
  have hreaches := (Reaches.move hmove .here hstart).trans h.reaches
  obtain ⟨G, hG, hend⟩ := hreaches.text
  obtain ⟨_, hfeed⟩ := reaches_lineBreak h.rest_eq h.endInLine
  obtain ⟨F, hF, hcount⟩ := (hreaches.trans (hfeed.trans hpasses.reaches)).text
  obtain ⟨z, hz, hends, -⟩ := hpasses.leaving
  have hX : X = z ++ u.rest := by rwa [lineBreak_rest] at hz
  -- the text ends with the line of the definition and with those that are passed
  obtain rfl : F = G ++ '\n' :: z := by
    rw [hF, h.rest_eq, hX, ← List.cons_append, ← List.append_assoc] at hG
    exact List.append_cancel_right hG
  obtain ⟨hstart', -, before, hbefore⟩ := ht
  obtain ⟨V, hV⟩ := (stands_start (closed text)).reaches hbefore
  refine ⟨u, _, hpasses, hF, hends.behind G, ?_, ?_⟩
  · rw [hend, List.count_append, List.count_cons_self]
    omega
  have hY : WholeLines u.rest := by
    have hsplit : closed text = (V ++ (G ++ '\n' :: z)) ++ u.rest := by
      rw [List.append_assoc, ← hF, hV.text_eq]
    exact eq_newline_of_closed hsplit
  have hlines := linesFrom_eq (wholeLines_of_lineHead (hV.start hstart')) (hends.behind G) hY
    (by rw [← hF]; omega)
  rwa [← hF, ← hV.text_eq, show V.count '\n' = d.firstLine - 1 by rw [← hline, hV.line_eq]; omega]
    at hlines

end

end Source
end TexWeave
