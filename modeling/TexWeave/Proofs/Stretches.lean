import TexWeave.Proofs.ContinuedLines
import TexWeave.Proofs.Definitions
import TexWeave.Proofs.LoneDefinitions

/-!
# The stretch of a text that a definition takes

A definition on the top level begins where no block and no bracket is open, and ends with the line
feed behind its last statement, which stands outside brackets, and with the marks that close its
blocks.  If its lines are cut out, they are scanned as they were in the text, and the end of the
text closes the same blocks.

* `Passage`, `exists_passage` — the way of a scan from a word to the line feed that ends a line.
* `Stretch`, `exists_stretch` — the scan in front of a definition and in front of its last line
  feed.
* `Stretch.exists_tokens` — the tokens of the lines of a definition.
* `Stretch.lastLine_eq`, `Stretch.not_complete` — where its lines end, and what comes of lines that
  end with a backslash.
-/

set_option autoImplicit false

namespace TexWeave
namespace Source

open Form

namespace Scanner

/-! ## Moves over the ends of lines -/

section

variable {s t : Scanner} {new w : List Token} {k : Token}

theorem Move.inLine (h : Move s new t) (hk : significant new = k :: w) (hsolid : IsSolid k) :
    s.atLineStart = false := by
  cases h with
  | start _ hstep => exact absurd hsolid (hstep.not_isSolid hk)
  | token hs => exact hs

/-- The line feed that ends a statement is read by a move of its own, outside brackets. -/
theorem Move.lineEnd (h : Move s new t) (hk : significant new = k :: w)
    (hkind : k.kind = .newline) :
    w = [] ∧ s.atLineStart = false ∧ s.brackets = [] ∧ s.rest = '\n' :: t.rest
      ∧ k = s.part ['\n'] .newline := by
  cases h with
  | start _ hstep =>
    cases hstep with
    | passed _ hnew =>
      rw [significant_of_areTrivia hnew] at hk
      cases hk
    | last hnew =>
      rw [significant_of_areTrivia hnew] at hk
      cases hk
    | inside => cases hk
    | arranged _ _ _ hmarks =>
      rw [significant_of_areMarks hmarks] at hk
      rcases (hmarks k (hk ▸ List.mem_cons_self)).1 with h | h <;> rw [hkind] at h <;> cases h
  | token hs hstep =>
    have hother {used : List Char} {kind : TokenKind} {js : List Token}
        (hkinds : kind ∉ [TokenKind.comment, .gap, .newline])
        (hnew : new = s.part used kind :: js) : False := by
      simp only [List.mem_cons, List.not_mem_nil, or_false, not_or] at hkinds
      rw [hnew, significant, List.filter_cons_of_pos (by simp [Token.isTrivia, part, hkinds])] at hk
      rw [← (List.cons.inj hk).1] at hkind
      exact hkinds.2.2 hkind
    cases hstep with
    | blank => cases hk
    | fold => cases hk
    | comment => cases hk
    | @lineBreak rest hrest =>
      cases hbrackets : s.brackets with
      | cons b below =>
        rw [hbrackets] at hk
        cases hk
      | nil =>
        rw [hbrackets] at hk
        obtain ⟨rfl, rfl⟩ := List.cons.inj hk
        refine ⟨rfl, hs, rfl, ?_, rfl⟩
        rw [hrest, lineBreak_rest]
    | word _ _ hkinds => exact (hother (by rcases hkinds with rfl | rfl <;> decide) rfl).elim
    | literal _ _ hkinds =>
      exact (hother (by rcases hkinds with rfl | rfl | rfl <;> decide) rfl).elim
    | embedded => exact (hother (by decide) rfl).elim
    | operator => exact (hother (by decide) rfl).elim
    | stray => exact (hother (by decide) rfl).elim

/-- Tokens that close blocks have no text. -/
theorem Move.text_of_dedent (h : Move s new t) : ∀ k ∈ new, k.kind = .dedent → k.text = "" := by
  intro k hk hkind
  have htrivia {line : Nat} (hnew : AreTrivia line new) : k.text = "" := by
    have hk := (hnew k hk).1
    rw [Token.isTrivia, hkind] at hk
    cases hk
  cases h with
  | token _ h =>
    have hflat := h.flat k hk
    rw [hkind] at hflat
    cases hflat
  | start _ h =>
    cases h with
    | passed _ hnew => exact htrivia hnew
    | last hnew => exact htrivia hnew
    | inside => exact absurd hk List.not_mem_nil
    | arranged _ _ _ _ harranges => exact harranges.text_eq k hk

theorem Runs.text_of_dedent {out : List Token} (h : Runs s out) :
    ∀ k ∈ out, k.kind = .dedent → k.text = "" := by
  induction h with
  | finish => exact List.forall_mem_singleton.2 fun hkind ↦ by cases hkind
  | move hmove _ _ ih => exact List.forall_mem_append.2 ⟨hmove.text_of_dedent, ih⟩

end

end Scanner

open Scanner

/-! ## Where a definition begins and ends -/

/-- The stretch of a text that a definition takes: `s` is the scan in front of it, behind the
characters `u`, and `t` the scan in front of its last line feed, behind which `X` is left; the
tokens in between are `ts`, and `closing` are those that close its blocks. -/
structure Stretch (text : List Char) (d : Tree) (u : List Char) (s : Scanner) (ts : List Token)
    (t : Scanner) (X : List Char) (closing : List Token) : Prop where
  start : ∃ front, Tracks text u front s ∧ IsFront front
  stands : ∃ before, Stands text u before s
  fresh : IsFresh u
  atLineStart_eq : s.atLineStart = false
  brackets_eq : s.brackets = []
  opening : ∃ c r, s.rest = c :: r ∧ isWordLikeStart c = true ∧ Text.isBlank c = false
  reaches : Reaches s ts t
  first : ∃ k ks, ts = k :: ks ∧ k.isLayout = false ∧ k.line = s.line
  rest_eq : t.rest = '\n' :: X
  inLine : t.atLineStart = false
  outside : t.brackets = []
  tokens_eq : d.tokens = ts ++ t.part ['\n'] .newline :: closing
  walk_eq : walk blockCost 0 d.tokens = some 0
  closes : ∀ k ∈ closing, k.kind = .dedent ∧ k.text = ""

theorem stringsAgree_of_append {a b : List Token} (h : stringsAgree (a ++ b) = true) :
    stringsAgree a = true ∧ stringsAgree b = true := by
  induction a with
  | nil => exact ⟨rfl, h⟩
  | cons k a ih =>
    cases a with
    | nil =>
      cases b with
      | nil => exact ⟨rfl, rfl⟩
      | cons j b => exact ⟨rfl, (Bool.and_eq_true_iff.1 h).2⟩
    | cons j a =>
      obtain ⟨hclash, hrest⟩ := Bool.and_eq_true_iff.1 h
      exact ⟨Bool.and_eq_true_iff.2 ⟨hclash, (ih hrest).1⟩, (ih hrest).2⟩

theorem stringsAgree_of_sentence? {s : Scanned} {ts : List Token} (h : s.sentence? = some ts) :
    stringsAgree ts = true := by
  rw [Scanned.sentence?] at h
  split at h
  · next hboth => exact Option.some.inj h ▸ (Bool.and_eq_true_iff.1 hboth).2
  · cases h

/-- The tokens of a definition end with a line feed and the marks that close its blocks. -/
theorem tokens_of_definition {f : Syn} {u : List Token} {a : List Tree} (hf : f ∈ definitionForms)
    (h : Yields grammar f u a) :
    EndsLine u ∧ excess u = 0 ∧ walk blockCost 0 u = some 0 := by
  have hends := (ending.sound _ ending_grammar h).2
  have hbalance := balance.sound _ balance_grammar h 0
  have hnesting := (nesting blockCost).sound _ nesting_grammar h 0 0
  simp only [definitionForms, List.mem_cons, List.not_mem_nil, or_false] at hf
  rcases hf with rfl | rfl | rfl <;> exact ⟨hends rfl, hbalance rfl, hnesting rfl 0⟩

/-- The way of a scan over tokens of which `feed` ends a line: `s` is the scan in front of the first
of them, and `e` the scan in front of the line feed, behind which `X` is left. -/
structure Passage (text : List Char) (front : List Token) (first : Token) (ts : List Token)
    (feed : Token) (closing behind : List Token) (s e : Scanner) (X : List Char) : Prop where
  reached : Reaches { rest := text } front s
  reads : ∃ s', Reads s first s'
  inLine : s.atLineStart = false
  reaches : Reaches s ts e
  feed_eq : feed = e.part ['\n'] .newline
  rest_eq : e.rest = '\n' :: X
  endInLine : e.atLineStart = false
  outside : e.brackets = []
  closes : ∀ k ∈ closing, k.kind = .dedent ∧ k.text = ""
  runs : ∃ out, Runs (e.lineBreak X) out ∧ significant out = closing ++ behind

/-- Tokens that begin with a word and end with a line feed, and with marks that close blocks, stand
in the text in one piece. -/
theorem exists_passage {text : List Char} {out front others ts closing behind : List Token}
    {first feed : Token} (hruns : Runs { rest := text } out)
    (hout : significant out = front ++ (first :: others ++ behind)) (hfront : excess front = 0)
    (hfirst : IsSolid first) (hexcess : excess (first :: others) = 0)
    (hends : first :: others = ts ++ feed :: closing) (hfeed : feed.kind = .newline)
    (hclosing : ∀ k ∈ closing, k.kind = .dedent) :
    ∃ s e X, Passage text front first ts feed closing behind s e X := by
  -- the scan in front of the first word
  obtain ⟨s, s', new, w, out', hreaches, hmove, hnext, hnew, hruns', hafter⟩ :=
    exists_reaches_move hruns hout hfront hfirst.hasRoom
  obtain ⟨rfl, hreads⟩ := hmove.piece hnew hfirst
  -- and in front of the line feed
  have hbehind : significant (new ++ out') = ts ++ feed :: (closing ++ behind) := by
    have hjoin : ts ++ feed :: (closing ++ behind) = first :: others ++ behind := by
      rw [hends, List.append_assoc, List.cons_append]
    rw [significant_append, hnew, hjoin]
    exact congrArg (first :: ·) hafter
  have hzero : excess ts = 0 := by
    have hnone : excess (feed :: closing) = 0 := by
      refine (wellClosed_of_weight (List.forall_mem_cons.2 ⟨?_, fun k hk ↦ ?_⟩)).1
      · rw [weight, hfeed]
      · rw [weight, hclosing k hk]
    rwa [hends, excess_append, hnone, add_zero] at hexcess
  have hroom : HasRoom feed := by
    rw [HasRoom, hfeed]
    decide
  obtain ⟨e, e', new', w', out'', hreaches', hmove', hnext', hnew', hruns'', hrest⟩ :=
    exists_reaches_move (.move hmove hruns' hnext) hbehind hzero hroom
  obtain ⟨rfl, hline, houtside, hfeedRest, hfeed_eq⟩ := hmove'.lineEnd hnew' hfeed
  refine ⟨s, e, e'.rest, hreaches, ⟨s', hreads⟩, hmove.inLine hnew hfirst, hreaches', hfeed_eq,
    hfeedRest, hline, houtside, fun k hk ↦ ⟨hclosing k hk, ?_⟩, out'', ?_, hrest⟩
  · have hmem : k ∈ first :: others :=
      hends ▸ List.mem_append_right ts (List.mem_cons_of_mem _ hk)
    have hall : k ∈ significant out :=
      hout ▸ List.mem_append_right front (List.mem_append_left behind hmem)
    exact hruns.text_of_dedent k (List.mem_of_mem_filter hall) (hclosing k hk)
  · have hbreak : e.next = some (e.lineBreak e'.rest) := by
      rw [next, if_neg (by rw [hline]; decide), token, hfeedRest]
      rfl
    rw [hnext'] at hbreak
    rw [← Option.some.inj hbreak]
    exact hruns''

/-- **Every definition takes a stretch of its text**, which its form reads whatever comes behind. -/
theorem exists_stretch {text : List Char} {t d : Tree} (hread : readText text = .ok t)
    (hd : d ∈ (statementsOf t).filterMap undecorated?) :
    ∃ u s ts e X closing f behind, Stretch (closed text) d u s ts e X closing
      ∧ f ∈ definitionForms ∧ Parses grammar f (d.tokens ++ behind) (some ([d], behind))
      ∧ stringsAgree d.tokens = true := by
  obtain ⟨all, hall, hparse⟩ := exists_sentence_of_readText hread
  obtain ⟨out, hruns, hout⟩ := exists_runs_of_sentence hall
  obtain ⟨front, words, name, stop, rest, behind, hfront, hheader, hsplit, htokens, -, f, hf,
    hyields, hparses⟩ := exists_header_of_parse hparse hd
  obtain ⟨first, others, rfl, hsolid⟩ := hheader.exists_first
  have hfirst := (hsolid first List.mem_cons_self).1
  obtain ⟨⟨ts, feed, closing, hends, hfeed, hclosing⟩, hexcess, hwalk⟩ :=
    tokens_of_definition hf hyields
  have hdefinition : d.tokens = first :: (others ++ name :: stop :: rest) := htokens
  rw [← htokens, List.append_assoc] at hsplit
  obtain ⟨s, e, X, hpassage⟩ := exists_passage hruns (hout.trans (hdefinition ▸ hsplit))
    hfront.excess_eq hfirst (hdefinition ▸ hexcess) (hdefinition ▸ hends) hfeed hclosing
  obtain ⟨s', hreads⟩ := hpassage.reads
  obtain rfl := hpassage.feed_eq
  -- the place in front of it
  obtain ⟨u, hu⟩ := (tracks_start (closed text)).reaches hpassage.reached
  obtain ⟨u', hu'⟩ := (stands_start (closed text)).reaches hpassage.reached
  obtain rfl : u' = u := List.append_cancel_right (hu'.text_eq.symm.trans hu.text_eq)
  obtain ⟨hbrackets, hlayout⟩ := hu'.layout (afterLayout_of_isFront hfront)
  obtain ⟨c, r, hopening, hstart, hblank⟩ :
      ∃ c r, s.rest = c :: r ∧ isWordLikeStart c = true ∧ Text.isBlank c = false := by
    have hwords : ∀ w ∈ ["def", "class", "async"], w.toList.head?.map
        (fun c ↦ (isWordLikeStart c, Text.isBlank c)) = some (true, false) := by decide
    obtain ⟨c, hc, hstart⟩ := Option.map_eq_some_iff.1 (hwords _ hheader.first_text.1)
    obtain ⟨q, hq⟩ := List.head?_eq_some_iff.1 hc
    exact ⟨c, q ++ s'.rest, by rw [hreads.rest_eq, hq, List.cons_append], Prod.mk.inj hstart⟩
  have hfresh : IsFresh u' := hlayout.resolve_right fun hend ↦ by
    rw [hend c r hopening] at hstart
    exact absurd hstart (by decide)
  refine ⟨u', s, ts, e, X, closing, f, behind, ⟨⟨front, hu, hfront⟩, ⟨_, hu'⟩, hfresh,
    hpassage.inLine, hbrackets, ⟨c, r, hopening, hstart, hblank⟩, hpassage.reaches, ?_,
    hpassage.rest_eq, hpassage.endInLine, hpassage.outside, hends, hwalk, hpassage.closes⟩, hf,
    hparses, ?_⟩
  · cases ts with
    | nil =>
      rw [hdefinition] at hends
      rw [← (List.cons.inj hends).1] at hfeed
      exact absurd hfirst (not_isSolid_of_kind _ hfeed (by decide))
    | cons k ks =>
      rw [hdefinition] at hends
      rw [← (List.cons.inj hends).1]
      exact ⟨first, ks, rfl, not_isLayout_of_isSolid hfirst, hreads.line_eq⟩
  · rw [hsplit] at hall
    exact (stringsAgree_of_append (stringsAgree_of_append
      (stringsAgree_of_sentence? hall)).2).1

/-! ## The lines of a definition by themselves -/

theorem map_look_down (n : Nat) (ts : List Token) :
    (ts.map (Token.down n)).map look = ts.map look := by
  rw [List.map_map]
  rfl

/-- As many blocks are closed as are open. -/
theorem length_eq_of_walk {closing : List Token} (h : ∀ k ∈ closing, k.kind = .dedent) {n : Nat}
    (hwalk : walk blockCost n closing = some 0) : closing.length = n := by
  induction closing generalizing n with
  | nil => exact (Option.some.inj hwalk).symm
  | cons k ks ih =>
    obtain ⟨hk, hks⟩ := List.forall_mem_cons.1 h
    rw [walk, hk] at hwalk
    dsimp only [blockCost] at hwalk
    split at hwalk
    · rw [List.length_cons, ih hks hwalk]
      omega
    · cases hwalk

theorem map_look_closing {closing : List Token}
    (h : ∀ k ∈ closing, k.kind = .dedent ∧ k.text = "") (line column : Nat) :
    closing.map look = (List.replicate closing.length (closingMark line column)).map look := by
  rw [List.map_replicate]
  refine List.eq_replicate_iff.2 ⟨List.length_map _, fun j hj ↦ ?_⟩
  obtain ⟨k, hk, rfl⟩ := List.mem_map.1 hj
  rw [look, (h k hk).1, (h k hk).2, ite_self]
  rfl

section

variable {text u X : List Char} {d : Tree} {s e : Scanner} {ts closing : List Token}

theorem Stretch.depths_eq (h : Stretch text d u s ts e X closing) : s.depths = [] := by
  obtain ⟨front, hu, hfront⟩ := h.start
  have hwalk := hu.walk_eq.symm.trans hfront.walk_eq
  exact List.eq_nil_of_length_eq_zero (Option.some.inj hwalk)

/-- The scan in front of the last line feed. -/
theorem Stretch.tracks (h : Stretch text d u s ts e X closing) : ∃ front v, IsFront front
    ∧ Tracks text v (front ++ ts) e ∧ walk blockCost 0 ts = some e.depths.length := by
  obtain ⟨front, hu, hfront⟩ := h.start
  obtain ⟨v, hv⟩ := hu.reaches h.reaches
  refine ⟨front, v, hfront, hv, ?_⟩
  have hwalk := hv.walk_eq
  rwa [walk_append, hfront.walk_eq, Option.bind_some] at hwalk

theorem Stretch.length_closing (h : Stretch text d u s ts e X closing) :
    closing.length = e.depths.length := by
  obtain ⟨front, v, -, -, hwalk⟩ := h.tracks
  refine length_eq_of_walk (fun k hk ↦ (h.closes k hk).1) ?_
  have hfeed := walk_cons_of_cost blockCost (p := 0) (c := 0) (t := e.part ['\n'] .newline) rfl
    e.depths.length closing
  have hall := h.walk_eq
  rw [h.tokens_eq, walk_append, hwalk, Option.bind_some] at hall
  exact hfeed.symm.trans hall

/-- **The lines of a definition by themselves** have the tokens of the definition, further up. -/
theorem Stretch.exists_tokens (h : Stretch text d u s ts e X closing) (hu : lineHead u = []) :
    ∃ own D last, text = u ++ (own ++ '\n' :: X) ∧ own ≠ []
      ∧ ({ rest := own ++ ['\n'] } : Scanner).whole.complete = true
      ∧ significant ({ rest := own ++ ['\n'] } : Scanner).whole.tokens = D ++ [last]
      ∧ last.kind = .finish ∧ D.map look = d.tokens.map look
      ∧ ∃ more, D.map (Token.down (u.count '\n')) = ts ++ more
        ∧ ∀ k ∈ more, k.isLayout = true := by
  obtain ⟨front, hs, -⟩ := h.start
  obtain ⟨_, _, -, he, -⟩ := h.tracks
  obtain ⟨c, r, hopening, hc, -⟩ := h.opening
  have hcolumn : s.column = 0 := hs.column_eq.trans (columnAfter_eq_zero hu)
  obtain ⟨own, hown, hne, hcomplete, htokens⟩ :=
    whole_excerpt h.reaches h.atLineStart_eq hcolumn h.depths_eq h.brackets_eq hs.line_eq hopening
      hc h.rest_eq h.inLine h.outside he.deep
  have hmarks : endingTokens e = (e.part ['\n'] .newline
      :: List.replicate e.depths.length (closingMark (e.line + 1) 0))
        ++ [⟨.finish, "", e.line + 1, 0, e.line + 1⟩] := rfl
  rw [hmarks, ← List.append_assoc] at htokens
  obtain ⟨D, lasts, hsplit, hD, hlasts⟩ := List.map_eq_append_iff.1 htokens
  obtain ⟨last, rfl, hlast⟩ := List.map_eq_singleton_iff.1 hlasts
  refine ⟨own, D, last, by rw [hs.text_eq, hown], hne, hcomplete, hsplit,
    congrArg Token.kind hlast, ?_, _, hD, ?_⟩
  · rw [← map_look_down (u.count '\n'), hD, h.tokens_eq, List.map_append, List.map_append,
      List.map_cons, List.map_cons, map_look_closing h.closes (e.line + 1) 0, h.length_closing]
  · refine List.forall_mem_cons.2 ⟨rfl, fun k hk ↦ ?_⟩
    rw [List.eq_of_mem_replicate hk]
    rfl

theorem lastLine_eq (d : Tree) : d.lastLine = ((lastWord? d.tokens).map Token.endLine).getD 0 := rfl

/-- The last word of a definition is that of the tokens in front of its last line feed. -/
theorem Stretch.lastWord?_eq (h : Stretch text d u s ts e X closing) :
    lastWord? d.tokens = lastWord? ts := by
  rw [h.tokens_eq]
  refine lastWord?_append_of_layout (List.forall_mem_cons.2 ⟨rfl, fun k hk ↦ ?_⟩) ts
  rw [Token.isLayout, (h.closes k hk).1]

theorem Stretch.firstLine_eq (h : Stretch text d u s ts e X closing) :
    d.firstLine = 1 + u.count '\n' := by
  obtain ⟨front, hu, -⟩ := h.start
  obtain ⟨k, ks, hts, -, hline⟩ := h.first
  rw [← hu.line_eq, ← hline, Tree.firstLine, h.tokens_eq, hts]
  rfl

/-- Whether the line feed that ends a definition stands on the line on which its last word ends. -/
def EndsOnLastLine (d : Tree) : Prop :=
  ∀ k ∈ d.tokens.reverse.find? fun k ↦ k.kind == .newline, k.line ≤ d.lastLine

instance : DecidablePred EndsOnLastLine := fun _ ↦ Option.decidableForallMem _

theorem Stretch.endsOnLastLine_iff (h : Stretch text d u s ts e X closing) :
    EndsOnLastLine d ↔ e.line ≤ d.lastLine := by
  have hclosing : closing.reverse.find? (fun k ↦ k.kind == .newline) = none := by
    refine List.find?_eq_none.2 fun k hk ↦ ?_
    rw [(h.closes k (List.mem_reverse.1 hk)).1]
    decide
  have hfeed : d.tokens.reverse.find? (fun k ↦ k.kind == .newline)
      = some (e.part ['\n'] .newline) := by
    rw [h.tokens_eq, List.reverse_append, List.reverse_cons, List.append_assoc, List.find?_append,
      hclosing, Option.none_or]
    rfl
  rw [EndsOnLastLine, hfeed]
  exact ⟨fun hall ↦ hall _ rfl, fun hle k hk ↦ Option.some.inj hk ▸ hle⟩

/-- The last word of a definition, and where it ends. -/
theorem Stretch.exists_lastWord (h : Stretch text d u s ts e X closing) :
    ∃ j, lastWord? ts = some j ∧ d.lastLine = j.endLine := by
  obtain ⟨k, ks, hts, hk, -⟩ := h.first
  obtain ⟨j, hj⟩ := exists_lastWord? hk (hts ▸ List.mem_cons_self : k ∈ ts)
  exact ⟨j, hj, by rw [Source.lastLine_eq, h.lastWord?_eq, hj]; rfl⟩

/-- A definition that ends on its last line has no line feed at the end of its text. -/
theorem Stretch.lastLine_eq (h : Stretch text d u s ts e X closing) (hends : EndsOnLastLine d)
    {own : List Char} (htext : text = u ++ (own ++ '\n' :: X)) (hne : own ≠ []) :
    d.lastLine = 1 + u.count '\n' + own.count '\n' ∧ own.getLast? ≠ some '\n' := by
  obtain ⟨front, v, -, he, -⟩ := h.tracks
  obtain ⟨j, hj, hend⟩ := h.exists_lastWord
  obtain ⟨a, c, w, hv, hc, hline⟩ := he.ends j (by rw [lastWord?_append, hj, Option.some_or])
  have hown : u ++ own = a ++ c :: w := by
    have hsame := htext.symm.trans he.text_eq
    rw [h.rest_eq, ← List.append_assoc] at hsame
    rw [List.append_cancel_right hsame, hv]
  have hlast : d.lastLine = 1 + a.count '\n' := hend.trans hline
  have hfeed : e.line ≤ d.lastLine := h.endsOnLastLine_iff.1 hends
  have hcount : (c :: w).count '\n' = 0 := by
    rw [he.line_eq, hv, hlast, List.count_append] at hfeed
    omega
  refine ⟨?_, fun hend ↦ ?_⟩
  · have hsum := congrArg (List.count '\n') hown
    rw [List.count_append, List.count_append, hcount] at hsum
    omega
  · have hlast : (c :: w).getLast? = some '\n' := by
      rw [← hend, ← List.getLast?_append_of_ne_nil u hne, hown,
        List.getLast?_append_of_ne_nil a (List.cons_ne_nil c w)]
    exact List.count_eq_zero.1 hcount (List.mem_of_getLast? hlast)

/-- **The lines of a definition that does not end on its last line** end with a backslash, and are
not scanned to their end. -/
theorem Stretch.not_complete (h : Stretch text d u s ts e X closing) (hu : lineHead u = [])
    (hends : ¬ EndsOnLastLine d) :
    ∃ own r, text = u ++ (own ++ '\n' :: r) ∧ own.getLast? = some '\\'
      ∧ d.lastLine = 1 + u.count '\n' + own.count '\n'
      ∧ ({ rest := own ++ ['\n'] } : Scanner).whole.complete = false := by
  obtain ⟨front, hs, -⟩ := h.start
  obtain ⟨c, q, hopening, hc, -⟩ := h.opening
  obtain ⟨j, hj, hend⟩ := h.exists_lastWord
  rw [h.endsOnLastLine_iff, hend, Nat.not_le] at hends
  obtain ⟨before, p, r, hp, hline, hinLine, hrest⟩ :=
    h.reaches.exists_fold hj h.inLine h.rest_eq h.outside hends
  obtain ⟨own, hown, hback, hcount, hcomplete⟩ := hp.whole_of_fold hinLine hrest
  obtain ⟨own, rfl⟩ := exists_cons_of_opening hc (hopening.symm.trans hown)
  have hcolumn : s.column = 0 := hs.column_eq.trans (columnAfter_eq_zero hu)
  refine ⟨c :: own, r, by rw [hs.text_eq, hown], hback, ?_, ?_⟩
  · rw [hend, ← hline, hcount, hs.line_eq]
  · rw [List.cons_append, whole_leaving h.atLineStart_eq hcolumn h.depths_eq h.brackets_eq
      hs.line_eq hc] at hcomplete
    exact hcomplete

end

end Source
end TexWeave
