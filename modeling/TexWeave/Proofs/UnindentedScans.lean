import TexWeave.Proofs.FoundLines
import TexWeave.Proofs.LostIndents

/-!
# Scanning a definition without its indentation

The lines of a definition that stands in a block are a text of their own once they have lost the
indentation of the first of them.  They are scanned as they were, provided that any two lines of
code compare in depth as they did.

* `Passes.beside` — lines of comments behind the definition.
* `NestedStretch.exists_beside` — the definition up to the end of its last line.
* `Lined`, `NestedStretch.exists_tokens` — all tokens of the text that is left.
-/

set_option autoImplicit false

namespace TexWeave
namespace Source

open Text Form Scanner Tree

namespace Scanner

/-! ## The first line -/

section

variable {p r : List Char} {x : Char}

theorem IsIndented.ne_newline (h : IsIndented p x) : x ≠ '\n' :=
  fun hx ↦ h.opens (by rw [hx]; decide)

theorem IsIndented.not_mem_newline (h : IsIndented p x) : '\n' ∉ p :=
  fun hmem ↦ ne_newline_of_isRoom (h.room _ hmem) rfl

/-- The first line begins with the indentation that is lost. -/
theorem exists_unindented_first (hp : IsIndented p x) (hr : '\n' ∈ r) :
    ∃ r', unindented p (p ++ x :: r) = x :: r'
      ∧ Trims (LosesIndent p) false (x :: r) (x :: r') := by
  obtain ⟨l, R, rfl, hl⟩ := List.eq_append_cons_of_mem hr
  have hline : '\n' ∉ p ++ x :: l := by
    rw [List.mem_append, List.mem_cons, not_or, not_or]
    exact ⟨hp.not_mem_newline, Ne.symm hp.ne_newline, hl⟩
  refine ⟨l ++ '\n' :: unindented p R, ?_, ?_⟩
  · have hlost := unindented_indented hline R
    rwa [List.append_assoc, List.cons_append] at hlost
  · exact trims_append_newline (fun hmem ↦ hline (List.mem_append_right p hmem))
      (show LosesIndent p R _ from rfl) (trims_unindented hp.room R) _

/-- The depth behind room, unless nothing but a comment follows. -/
theorem codeDepth?_of_room (hp : ∀ c ∈ p, IsRoom c) (hx : ¬ IsRoom x) (hslash : x ≠ '\\')
    (r : List Char) : codeDepth? (p ++ x :: r)
      = if isAlone (x :: r) then none else some (depthAlong .zero p) := by
  have hmeasure : measure ((p ++ x :: r).length + 1) .zero none { rest := p ++ x :: r }
      = some (depthAlong .zero p, none, ({ rest := p ++ x :: r } : Scanner).advance p (x :: r)) :=
    measure_room hp hx hslash rfl (by rw [List.length_append]; omega)
  rw [codeDepth?, hmeasure, Option.bind_some]
  dsimp only
  rw [advance_rest]
  rfl

/-- The depth of a line with code. -/
theorem codeDepth?_of_code (hp : IsIndented p x) (r : List Char) :
    codeDepth? (p ++ x :: r) = some (depthAlong .zero p) := by
  have hopens := hp.opens
  simp only [List.mem_cons, List.not_mem_nil, or_false, not_or] at hopens
  rw [codeDepth?_of_room hp.room hp.code hopens.2.2, if_neg (by simp [isAlone, hopens])]

/-- A text that begins at the margin. -/
theorem lineStart_at_margin (hx : IsIndented [] x) (r : List Char) :
    ({ rest := x :: r } : Scanner).lineStart = some { rest := x :: r, atLineStart := false } := by
  have hstart := lineStart_of_code (s := { rest := x :: r }) (p := []) (r := r) hx.room hx.code
    hx.opens rfl rfl
  rw [hstart, advance_nil]
  exact congrArg (Option.map _) (arrange_zero (List.forall_mem_nil _))

end

/-! ## Lines of comments -/

section

variable {G : List Char → List Char → Prop} {n : Nat} {old old' : List Token}
  {P : Depth → Depth → Prop} {B B' : List Depth} {inner : List (Depth × Depth)}
  {s s' t : Scanner}

theorem codeDepth?_of_passed (h : s.lineStart = some t) (ht : t.atLineStart = true) :
    codeDepth? s.rest = none := by
  obtain ⟨d, held, v, hmeasure, halone, -⟩ := exists_comment_of_lineStart h ht
  rw [codeDepth?_of_measure hmeasure, if_pos halone]

/-- Lines of comments that have lost room are passed as they were. -/
theorem Passes.beside (h : Passes s t) (hbeside : Beside G n old old' s s') (hP : KeepsOrder P)
    (hshift : Shifted P B B' inner s s') (hground : Grounds P B B')
    (hlast : ∀ c ∈ s.rest.getLast?, ¬ IsRoom c) : ∃ t' inner', Passes s' t'
      ∧ Beside G n old old' t t' ∧ Shifted P B B' inner' t t' ∧ inner'.length = inner.length := by
  induction h generalizing s' inner with
  | here => exact ⟨s', inner, .here, hbeside, hshift, rfl⟩
  | @line s t u hs ht hstart hrest ih =>
    obtain ⟨hdepths, -⟩ := exists_found_of_passed ht hstart
    have hnone : Sheds P (B.headD .zero).wide s.rest s'.rest := fun d hd ↦ by
      rw [codeDepth?_of_passed ht hstart] at hd
      cases hd
    have hbase : B.length ≤ t.depths.length := by
      rw [hdepths, hshift.depths_eq, List.length_append]
      exact Nat.le_add_left _ _
    obtain ⟨t', inner', ht', hbeside', hshift'⟩ :=
      hbeside.lineStart hP hshift hground (fun _ ↦ hnone) hlast ht hbase
    have hlength : inner'.length = inner.length := by
      have hsame := congrArg List.length (hdepths.trans hshift.depths_eq)
      rw [hshift'.depths_eq, List.length_append, List.length_append, List.length_map,
        List.length_map] at hsame
      exact Nat.add_right_cancel hsame
    obtain ⟨z, hz, -⟩ := lineStart_leaving ht hstart
    obtain ⟨u', inner'', hpasses, hfinal, hlast', hend⟩ := ih hbeside' hshift' fun c hc ↦
      hlast c (by rw [hz, List.getLast?_append, List.getLast?_cons, hc]; rfl)
    exact ⟨u', inner'', .line (hbeside.atLineStart_eq ▸ hs) ht' (hbeside'.atLineStart_eq ▸ hstart)
      hpasses, hfinal, hlast', hend.trans hlength⟩

end

end Scanner

/-! ## The definition -/

section

variable {text F X p r : List Char} {x : Char} {d : Tree} {s e t u : Scanner}
  {ts closing behind : List Token}

theorem OpensLine.reaches (h : NestedStretch text d s ts e X closing behind)
    (ht : OpensLine text t) (hline : t.line = d.firstLine) : ∃ a, Reaches t a s := by
  have hnext : t.next = some s := by rw [next, if_pos ht.1, h.lineStart_eq ht hline]
  obtain ⟨new, hmove⟩ := exists_move_of_next hnext
  exact ⟨_, .move hmove .here hnext⟩

/-- What is left at any place of a scan ends with a line. -/
theorem wholeLines_of_reaches {a : List Token} (h : Reaches { rest := closed text } a s) :
    WholeLines s.rest := by
  obtain ⟨v, htracks⟩ := (tracks_start (closed text)).reaches h
  exact eq_newline_of_closed htracks.text_eq

/-- **The tokens of a definition are found without its indentation**, on lines further up. -/
theorem NestedStretch.exists_beside (h : NestedStretch (closed text) d s ts e X closing behind)
    (ht : OpensLine (closed text) t) (hline : t.line = d.firstLine) (hp : IsIndented p x)
    (hrest : t.rest = p ++ x :: r) (hP : KeepsOrder (Corresponds p t e)) :
    ∃ r' ts' e' inner, unindented p t.rest = x :: r'
      ∧ Reaches { rest := x :: r', atLineStart := false } ts' e'
      ∧ Beside (LosesIndent p) (d.firstLine - 1) s.found [] e e'
      ∧ Shifted (Corresponds p t e) s.depths [] inner e e' ∧ Grounds (Corresponds p t e) s.depths []
      ∧ inner.length = closing.length := by
  obtain ⟨hs, htop⟩ := h.opens ht hline hp hrest
  obtain ⟨a, hts⟩ := ht.reaches h hline
  obtain ⟨front, v, hfront, -, htracks⟩ := h.start
  have hends {b : List Token} {q : Scanner} (hq : Reaches s b q) :
      ∀ c ∈ q.rest.getLast?, ¬ IsRoom c := fun c hc ↦ by
    rw [wholeLines_of_reaches (hfront.trans hq) c hc]
    decide
  have hfeed : '\n' ∈ r := by
    obtain ⟨w, hw, -⟩ := h.reaches.text
    have hmem : '\n' ∈ x :: r := by
      rw [← hs, hw, h.rest_eq]
      exact List.mem_append_right w List.mem_cons_self
    exact (List.mem_cons.1 hmem).resolve_left hp.ne_newline.symm
  obtain ⟨r', hr', htrims⟩ := exists_unindented_first hp hfeed
  rw [← hrest] at hr'
  have hground : Grounds (Corresponds p t e) s.depths [] := by
    refine ⟨⟨by rw [htop], t, ⟨_, .here⟩, ⟨_, hts.trans h.reaches⟩, ht.1, ht.2.1, ?_, ?_⟩,
      Nat.zero_le _⟩
    · rw [hrest, codeDepth?_of_code hp, htop]
    · have hmargin : IsIndented [] x := ⟨List.forall_mem_nil _, hp.code, hp.opens⟩
      rw [hr']
      exact codeDepth?_of_code hmargin r'
  have hstart : Beside (LosesIndent p) (d.firstLine - 1) s.found [] s
      { rest := x :: r', atLineStart := false } := {
    rest := hs ▸ htrims.loosen
    start := fun hstart ↦ by rw [h.inLine] at hstart; cases hstart
    line_eq := by
      change s.line = 1 + _
      rw [h.firstLine_eq, htracks.line_eq]
      omega
    atLineStart_eq := h.inLine
    brackets_eq := h.brackets
    found := ⟨[], [], rfl, rfl, .nil⟩ }
  have hshifted : Shifted (Corresponds p t e) s.depths [] [] s
      { rest := x :: r', atLineStart := false } :=
    ⟨rfl, rfl, List.forall_mem_nil _, List.forall_mem_nil _⟩
  obtain ⟨ts', e', inner, hreaches, hbeside, hshift, hinner⟩ := h.reaches.beside hP hground
    (fun b q b' hq hq' hstart hbrackets r'' hr'' d hd hle ↦ by
      obtain ⟨d', hd'⟩ := exists_codeDepth?_of_trims hd (trims_unindented hp.room q.rest) (hends hq)
      exact ⟨d', hr'' ▸ hd', htop ▸ hle, q, ⟨_, hts.trans hq⟩, ⟨_, hq'⟩, hstart, hbrackets, hd,
        hd'⟩)
    hstart hshifted (hends .here) h.walk_eq
  exact ⟨r', ts', e', inner, hr', hreaches, hbeside, hshift, hground, hinner⟩

/-- Tokens that look alike, on lines that differ by `n` if they are more than layout. -/
structure Lined (n : Nat) (k k' : Token) : Prop where
  look_eq : look k = look k'
  line_eq : k.isLayout = false → k.line = k'.line + n
  endLine_eq : k.isLayout = false → k.endLine = k'.endLine + n

theorem Scanner.Alike.lined {n : Nat} {k k' : Token} (h : Alike n k k') : Lined n k k' where
  look_eq := by
    have hopens : k'.opensString = k.opensString := by
      rw [Token.opensString, Token.opensString, h.kind_eq]
    rw [look, look, h.kind_eq, hopens]
    split
    · rfl
    · next hplain => rw [h.text_eq (by simpa using hplain)]
  line_eq _ := h.line_eq
  endLine_eq _ := h.endLine_eq

theorem forall₂_lined_closing {n : Nat} {k' : Token} (hkind : k'.kind = .dedent)
    (htext : k'.text = "") (h : ∀ k ∈ closing, k.kind = .dedent ∧ k.text = "") :
    List.Forall₂ (Lined n) closing (List.replicate closing.length k') := by
  induction closing with
  | nil => exact .nil
  | cons k closing ih =>
    obtain ⟨⟨hk, hktext⟩, hmore⟩ := List.forall_mem_cons.1 h
    have hlayout : k.isLayout = true := by rw [Token.isLayout, hk]
    refine .cons ⟨?_, fun hword ↦ ?_, fun hword ↦ ?_⟩ (ih hmore)
    · rw [look, look, Token.opensString, Token.opensString, hk, hkind, hktext, htext]
    · rw [hlayout] at hword
      cases hword
    · rw [hlayout] at hword
      cases hword

/-- The scan behind all lines of a text. -/
theorem Scanner.whole_of_lines {q : Scanner} (hrest : q.rest = []) (hs : q.atLineStart = true)
    (hbrackets : q.brackets = []) (hdeep : ∀ d ∈ q.depths, 0 < d.wide) :
    q.whole = ⟨q.found.reverse ++ (List.replicate q.depths.length (closingMark q.line q.column)
      ++ [⟨.finish, "", q.line, q.column, q.line⟩]), true⟩ := by
  have hnext : q.next = q.lineStart := by rw [next, if_pos hs]
  rw [whole_of_next (hnext.trans (lineStart_of_nil hrest hbrackets hdeep))]
  refine (whole_of_end (by exact hrest) rfl).trans ?_
  simp [run.finish, mark, adding, hbrackets]

/-- The grammar meets all tokens at the end of a text. -/
theorem significant_ending (n line column : Nat) :
    significant (List.replicate n (closingMark line column) ++ [⟨.finish, "", line, column, line⟩])
      = List.replicate n (closingMark line column) ++ [⟨.finish, "", line, column, line⟩] := by
  refine List.filter_eq_self.2 fun k hk ↦ ?_
  rcases List.mem_append.1 hk with hk | hk
  · rw [List.eq_of_mem_replicate hk]
    rfl
  · rw [List.mem_singleton.1 hk]
    rfl

/-- A stretch from the margin on, with lines of comments behind it, is scanned as it is if it is a
text of its own. -/
theorem Scanner.Reaches.exists_own {e' u' : Scanner} {ts' : List Token} {X' F' : List Char}
    (h : Reaches { rest := x :: r, atLineStart := false } ts' e') (hx : IsIndented [] x)
    (hrest : e'.rest = '\n' :: X') (hs : e'.atLineStart = false)
    (hu : Passes (e'.lineBreak X') u') (hF : x :: r = F' ++ u'.rest) :
    WholeLines F' ∧ ∃ a, Reaches { rest := F' } a (u'.leaving []) := by
  obtain ⟨z, hz, hzends, hpasses⟩ := hu.leaving
  rw [lineBreak_rest] at hz
  obtain ⟨used, hused, hreaches⟩ := h.leaving (w := []) (Y := z) hrest
    (by rw [hz, List.length_append]; exact Nat.le_add_right _ _)
  change x :: r = used ++ e'.rest at hused
  obtain rfl : F' = used ++ '\n' :: z := by
    refine List.append_cancel_right (hF.symm.trans ?_)
    rw [hused, hrest, hz, List.append_assoc, List.cons_append]
  obtain ⟨w, hw⟩ : ∃ w, used ++ '\n' :: z = x :: w := by
    cases used with
    | nil =>
      rw [List.nil_append, hrest] at hused
      exact ⟨z, by rw [(List.cons.inj hused).1]; rfl⟩
    | cons c used => exact ⟨used ++ '\n' :: z, by rw [(List.cons.inj hused).1]; rfl⟩
  -- to the first word, to the end of the stretch, over the line feed, and over the comments
  obtain ⟨_, hfirst⟩ : ∃ a, Reaches { rest := used ++ '\n' :: z } a
      { rest := used ++ '\n' :: z, atLineStart := false } := by
    have hnext : ({ rest := used ++ '\n' :: z } : Scanner).next = some _ :=
      hw ▸ lineStart_at_margin hx w
    obtain ⟨new, hmove⟩ := exists_move_of_next hnext
    exact ⟨_, .move hmove .here hnext⟩
  obtain ⟨_, hbreak⟩ := reaches_lineBreak (s := e'.leaving ('\n' :: z)) rfl hs
  have hcomments := (hpasses []).reaches
  rw [List.append_nil, leaving_lineBreak, ← lineBreak_leaving (s := e') (r := '\n' :: z)]
    at hcomments
  exact ⟨hzends.behind _, _, hfirst.trans (hreaches.trans (hbreak.trans hcomments))⟩

/-- **The text of a definition without its indentation** is scanned to its end, and has the tokens
of the definition. -/
theorem NestedStretch.exists_tokens (h : NestedStretch (closed text) d s ts e X closing behind)
    (ht : OpensLine (closed text) t) (hline : t.line = d.firstLine) (hp : IsIndented p x)
    (hrest : t.rest = p ++ x :: r) (hP : KeepsOrder (Corresponds p t e))
    (hu : Passes (e.lineBreak X) u) (hF : t.rest = F ++ u.rest) (hends : WholeLines F) :
    ∃ D last, ({ rest := unindented p F } : Scanner).whole.complete = true
      ∧ significant ({ rest := unindented p F } : Scanner).whole.tokens = D ++ [last]
      ∧ last.kind = .finish ∧ List.Forall₂ (Lined (d.firstLine - 1)) d.tokens D
      ∧ WholeLines (unindented p F) := by
  obtain ⟨r', ts', e', inner, hr', hreaches, hbeside, hshift, hground, hinner⟩ :=
    h.exists_beside ht hline hp hrest hP
  obtain ⟨front, v, hfront, -, -⟩ := h.start
  have hlast : ∀ c ∈ (e.lineBreak X).rest.getLast?, ¬ IsRoom c := fun c hc ↦ by
    obtain ⟨_, hfeed⟩ := reaches_lineBreak h.rest_eq h.endInLine
    rw [wholeLines_of_reaches ((hfront.trans h.reaches).trans hfeed) c hc]
    decide
  -- over the line feed and the comments behind it
  obtain ⟨X', hX', hlost, htrims⟩ := (h.rest_eq ▸ hbeside.rest).of_cons fun _ ↦ by decide
  have hbreak := hbeside.lineBreak h.endInLine (hlost rfl) htrims
  obtain ⟨u', inner', hpasses, hbeside', hshift', hlength⟩ := hu.beside hbreak hP
    (hshift.of_depths_eq lineBreak_depths lineBreak_depths) hground hlast
  have hu' : u'.rest = unindented p u.rest := hbeside'.start (hu.atLineStart_eq rfl)
  have hs' : u'.atLineStart = true := hpasses.atLineStart_eq rfl
  have hown : x :: r' = unindented p F ++ u'.rest := by
    rw [hu', ← unindented_append hends, ← hF, hr']
  have hmargin : IsIndented [] x := ⟨List.forall_mem_nil _, hp.code, hp.opens⟩
  obtain ⟨hlines, _, hall⟩ := hreaches.exists_own hmargin hX'
    (hbeside.atLineStart_eq.symm.trans h.endInLine) hpasses hown
  obtain ⟨_, htracks⟩ := (tracks_start (unindented p F)).reaches hall
  have hbrackets : e'.brackets = [] := hbeside.brackets_eq.symm.trans h.endBrackets
  have hwhole := whole_of_lines (q := u'.leaving []) rfl hs'
    (hpasses.same.2.trans (lineBreak_brackets.trans hbrackets)) htracks.deep
  rw [← hall.same_whole] at hwhole
  -- the tokens in front of the line feed, the line feed, and the blocks that are closed
  obtain ⟨new, new', hnew, hnew', halike⟩ := hbeside.found
  obtain ⟨trail, htrail, htrivia⟩ := hpasses.exists_found
  have hts : significant new.reverse = ts := by
    have hfound := h.reaches.found
    rw [hnew, List.reverse_append, significant_append] at hfound
    exact List.append_cancel_left hfound
  have hnone : significant trail.reverse = [] :=
    List.filter_eq_nil_iff.2 fun k hk ↦ by simp [(htrivia k (List.mem_reverse.1 hk)).1]
  have hfound : significant u'.found.reverse
      = significant new'.reverse ++ [e'.part ['\n'] .newline] := by
    rw [htrail, lineBreak_found hbrackets, hnew', List.reverse_append, significant_append, hnone,
      List.append_nil, List.append_nil, List.reverse_cons, significant_append,
      significant_singleton rfl]
  have hcount : u'.depths.length = closing.length := by
    rw [hshift'.depths_eq', List.append_nil, List.length_map, hlength, hinner]
  refine ⟨significant new'.reverse ++ e'.part ['\n'] .newline
      :: List.replicate closing.length (closingMark u'.line u'.column),
    ⟨.finish, "", u'.line, u'.column, u'.line⟩, by rw [hwhole], ?_, rfl, ?_, hlines⟩
  · rw [hwhole, leaving_found, leaving_depths, leaving_line, leaving_column, hcount,
      significant_append, hfound, significant_ending]
    simp only [List.append_assoc, List.cons_append, List.nil_append]
  · rw [h.tokens_eq, ← hts]
    refine List.rel_append (significant_alike (List.forall₂_reverse_iff.2 halike)
      |>.imp fun _ _ ↦ Alike.lined) (.cons (Alike.lined (hbeside.part _ rfl fun _ ↦ rfl)) ?_)
    exact forall₂_lined_closing rfl rfl h.closes

end

end Source
end TexWeave
