import TexWeave.Proofs.Renumbering
import TexWeave.Proofs.ScanningAhead
import TexWeave.Proofs.Tracks

/-!
# A text cut out of another

A scan that has come to the end of a line outside brackets may as well be at the end of its text:
then all blocks are closed.  So lines cut out of a text are scanned as they were in it, if a scan of
the text came to their start with no block and no bracket open.

* `whole_of_lineEnd` — a scan in front of a line feed that ends its text.
* `Reaches.whole_eq` — a scan up to a line feed, whatever stands behind that.
* `whole_excerpt` — the tokens of lines that are cut out.
-/

set_option autoImplicit false

namespace TexWeave
namespace Source

open Form

namespace Scanner

section

variable {s t : Scanner}

/-! ## The end of a text -/

/-- The token that closes a block. -/
def closingMark (line column : Nat) : Token := ⟨.dedent, "", line, column, line⟩

theorem closeBlocks_zero {depths : List Depth} (h : ∀ d ∈ depths, 0 < d.wide) (s : Scanner) :
    closeBlocks .zero depths s
      = ([], s.adding (List.replicate depths.length (closingMark s.line s.column))) := by
  induction depths generalizing s with
  | nil => rfl
  | cons top below ih =>
    obtain ⟨htop, hbelow⟩ := List.forall_mem_cons.1 h
    have hmark : s.mark .dedent = s.adding [closingMark s.line s.column] := rfl
    rw [closeBlocks, ih hbelow, hmark, adding_adding]
    exact if_pos htop

theorem arrange_zero (h : ∀ d ∈ s.depths, 0 < d.wide) : arrange .zero s
    = some { s.adding (List.replicate s.depths.length (closingMark s.line s.column)) with
      depths := [] } := by
  rw [arrange, closeBlocks_zero h]
  cases hdepths : s.depths with
  | nil =>
    obtain ⟨rest, line, column, atLineStart, depths, brackets, found⟩ := s
    obtain rfl : depths = [] := hdepths
    rfl
  | cons top below =>
    have htop : Depth.zero.wide < ((top :: below).headD .zero).wide :=
      h top (hdepths ▸ List.mem_cons_self)
    exact (if_neg (Nat.ne_of_lt htop)).trans
      ((if_neg (Nat.lt_asymm htop)).trans (if_pos ⟨rfl, rfl⟩))

/-- The start of a line behind which nothing is left closes all blocks. -/
theorem lineStart_of_nil (hrest : s.rest = []) (hbrackets : s.brackets = [])
    (hdeep : ∀ d ∈ s.depths, 0 < d.wide) : s.lineStart
      = some { s.adding (List.replicate s.depths.length (closingMark s.line s.column)) with
        depths := [], atLineStart := false } := by
  have hmeasure : measure (s.rest.length + 1) .zero none s = some (.zero, none, s) := by
    unfold measure
    rw [hrest]
  rw [lineStart, hmeasure]
  simp only [Option.bind_eq_bind, Option.bind_some, hrest, List.head?_nil, hbrackets,
    List.isEmpty_nil]
  rw [arrange_zero hdeep]
  rfl

/-- What is found from the end of the last line on. -/
def endingTokens (s : Scanner) : List Token :=
  s.part ['\n'] .newline :: (List.replicate s.depths.length (closingMark (s.line + 1) 0)
    ++ [⟨.finish, "", s.line + 1, 0, s.line + 1⟩])

theorem whole_of_end (hrest : s.rest = []) (hs : s.atLineStart = false) :
    s.whole = run.finish s := by
  rw [whole, run, if_pos (by rw [hrest, hs]; rfl)]

/-- **At the end of the last line** all blocks are closed. -/
theorem whole_of_lineEnd (hrest : s.rest = ['\n']) (hs : s.atLineStart = false)
    (hbrackets : s.brackets = []) (hdeep : ∀ d ∈ s.depths, 0 < d.wide) :
    s.whole = ⟨s.found.reverse ++ s.endingTokens, true⟩ := by
  have hbreak : s.next = some (s.lineBreak []) := by
    rw [next, hs, token, hrest]
    rfl
  have hclose : (s.lineBreak []).next = some ⟨[], s.line + 1, 0, false, [], [],
      (List.replicate s.depths.length (closingMark (s.line + 1) 0)).reverse
        ++ s.part ['\n'] .newline :: s.found⟩ := by
    obtain ⟨rest, line, column, atLineStart, depths, brackets, found⟩ := s
    obtain rfl : brackets = [] := hbrackets
    exact lineStart_of_nil rfl rfl hdeep
  rw [whole_of_next hbreak, whole_of_next hclose, whole_of_end rfl rfl]
  refine congrArg (Scanned.mk · true) ?_
  simp only [mark, endingTokens, List.reverse_cons, List.reverse_append, List.reverse_reverse,
    List.append_assoc, List.cons_append, List.nil_append]

/-! ## Up to a line feed -/

/-- **Up to a line feed** a scan finds the same whatever stands behind that, as long as it is not
more. -/
theorem Reaches.whole_eq {ts : List Token} (h : Reaches s ts t) {w X Y : List Char}
    (ht : t.rest = w ++ '\n' :: X) (hY : Y.length ≤ X.length) :
    ∃ used, s.rest = used ++ t.rest
      ∧ (s.leaving (used ++ (w ++ '\n' :: Y))).whole = (t.leaving (w ++ '\n' :: Y)).whole := by
  induction h with
  | here => exact ⟨[], rfl, rfl⟩
  | @move s t u new ts hmove hrest hnext ih =>
    obtain ⟨used, hused, hwhole⟩ := ih ht
    obtain ⟨passed, hpassed, -⟩ := hmove.text
    refine ⟨passed ++ used, by rw [hpassed, hused, List.append_assoc], ?_⟩
    rw [ht, ← List.append_assoc] at hused
    rw [hused, ← List.append_assoc] at hpassed
    have hahead := next_ahead (Y := Y) hpassed hused hY hnext
    rw [← hwhole, List.append_assoc, ← List.append_assoc used, ← List.append_assoc passed]
    exact whole_of_next hahead

theorem Reaches.found {ts : List Token} (h : Reaches s ts t) :
    significant t.found.reverse = significant s.found.reverse ++ ts := by
  induction h with
  | here => rw [List.append_nil]
  | move hmove _ _ ih =>
    rw [ih, hmove.found, List.reverse_append, List.reverse_reverse, significant_append,
      List.append_assoc]

/-! ## Lines that are cut out -/

/-- A text that begins with a word begins without an indentation. -/
theorem whole_of_opening {c : Char} (hc : isWordLikeStart c = true) (r : List Char) :
    ({ rest := c :: r } : Scanner).whole
      = ({ rest := c :: r, atLineStart := false } : Scanner).whole := by
  have hne {d : Char} (hd : isWordLikeStart d = false) {q : List Char} : c :: r ≠ d :: q := by
    intro h
    rw [(List.cons.inj h).1, hd] at hc
    cases hc
  have hmeasure (n : Nat) : measure (n + 1) .zero none { rest := c :: r }
      = some (.zero, none, { rest := c :: r }) := by
    unfold measure
    dsimp only
    split
    · next heq => exact absurd heq (hne (by decide))
    · next heq => exact absurd heq (hne (by decide))
    · next heq => exact absurd heq (hne (by decide))
    · next heq => exact absurd heq (hne (by decide))
    · next heq => exact absurd heq (hne (by decide))
    · rfl
  have halone : ¬ ((c :: r).head? == some '#' || (c :: r).head? == some '\n') = true := by
    simp only [List.head?_cons, Bool.or_eq_true, beq_iff_eq, Option.some_inj, not_or]
    exact ⟨fun h ↦ hne (by decide) (congrArg (· :: r) h),
      fun h ↦ hne (by decide) (congrArg (· :: r) h)⟩
  refine whole_of_next ?_
  rw [next, if_pos rfl, lineStart, hmeasure]
  simp only [Option.bind_eq_bind, Option.bind_some]
  rw [if_neg halone]
  rfl

/-- A scan that has come to the start of a line, with no block or bracket open, is a scan of what is
left, further down and behind what was found. -/
theorem leaving_eq (hs : s.atLineStart = false) (hcolumn : s.column = 0) (hdepths : s.depths = [])
    (hbrackets : s.brackets = []) {n : Nat} (hline : s.line = 1 + n) (r : List Char) :
    s.leaving r
      = (({ rest := r, atLineStart := false } : Scanner).down n).behind s.found := by
  obtain ⟨rest, line, column, atLineStart, depths, brackets, found⟩ := s
  dsimp only at hs hcolumn hdepths hbrackets hline
  subst hs hcolumn hdepths hbrackets hline
  rfl

/-- The scan of what is left, if that begins with a word. -/
theorem whole_leaving (hs : s.atLineStart = false) (hcolumn : s.column = 0)
    (hdepths : s.depths = []) (hbrackets : s.brackets = []) {n : Nat} (hline : s.line = 1 + n)
    {c : Char} (hc : isWordLikeStart c = true) (r : List Char) :
    (s.leaving (c :: r)).whole
      = (({ rest := c :: r } : Scanner).whole.down n).behind s.found.reverse := by
  rw [leaving_eq hs hcolumn hdepths hbrackets hline, whole_behind, whole_down, whole_of_opening hc]

/-- Lines that begin with a word hold more than a line feed. -/
theorem exists_cons_of_opening {c : Char} {r own X : List Char} (hc : isWordLikeStart c = true)
    (h : c :: r = own ++ '\n' :: X) : ∃ q, own = c :: q := by
  cases own with
  | nil =>
    rw [(List.cons.inj h).1] at hc
    exact absurd hc (by decide)
  | cons b q => exact ⟨q, by rw [(List.cons.inj h).1]⟩

theorem significant_down (n : Nat) (ts : List Token) :
    significant (ts.map (Token.down n)) = (significant ts).map (Token.down n) :=
  List.filter_map

theorem significant_endingTokens (s : Scanner) : significant s.endingTokens = s.endingTokens := by
  refine List.filter_eq_self.2 fun k hk ↦ ?_
  simp only [endingTokens, List.mem_cons, List.mem_append, List.mem_replicate, List.not_mem_nil,
    or_false] at hk
  rcases hk with rfl | ⟨-, rfl⟩ | rfl <;> rfl

/-- **Lines that are cut out** of a text are scanned as they were in it. -/
theorem whole_excerpt {ts : List Token} (h : Reaches s ts t) (hs : s.atLineStart = false)
    (hcolumn : s.column = 0) (hdepths : s.depths = []) (hbrackets : s.brackets = []) {n : Nat}
    (hline : s.line = 1 + n) {c : Char} {r X : List Char} (hopening : s.rest = c :: r)
    (hc : isWordLikeStart c = true) (ht : t.rest = '\n' :: X) (htstart : t.atLineStart = false)
    (htbrackets : t.brackets = []) (hdeep : ∀ d ∈ t.depths, 0 < d.wide) :
    ∃ own, s.rest = own ++ '\n' :: X ∧ own ≠ []
      ∧ ({ rest := own ++ ['\n'] } : Scanner).whole.complete = true
      ∧ (significant ({ rest := own ++ ['\n'] } : Scanner).whole.tokens).map (Token.down n)
        = ts ++ t.endingTokens := by
  obtain ⟨own, hown, hwhole⟩ : ∃ own, s.rest = own ++ '\n' :: X
      ∧ (s.leaving (own ++ ['\n'])).whole = (t.leaving ['\n']).whole :=
    ht ▸ h.whole_eq (w := []) (Y := []) ht (Nat.zero_le _)
  -- the text that is cut out begins with the same word
  obtain ⟨own, rfl⟩ := exists_cons_of_opening hc (hopening.symm.trans hown)
  have hend : (t.leaving ['\n']).whole = ⟨t.found.reverse ++ t.endingTokens, true⟩ :=
    whole_of_lineEnd rfl htstart htbrackets hdeep
  rw [hend, List.cons_append, whole_leaving hs hcolumn hdepths hbrackets hline hc] at hwhole
  refine ⟨c :: own, hown, List.cons_ne_nil c own, congrArg Scanned.complete hwhole, ?_⟩
  have htokens := congrArg (fun o ↦ significant o.tokens) hwhole
  simp only [Scanned.behind, Scanned.down, significant_append, significant_endingTokens,
    h.found, significant_down, List.append_assoc] at htokens
  exact List.append_cancel_left htokens

end

end Scanner
end Source
end TexWeave
