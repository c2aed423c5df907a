import TexWeave.Proofs.Lines
import TexWeave.Proofs.LiteralsAhead
import TexWeave.Proofs.Readings
import TexWeave.Proofs.Words
import TexWeave.Source.Scan

/-!
# Steps of a scan

A scan goes on by steps.  Each passes some characters and adds the tokens they make; nothing that
was found before matters to it.

* `Step` — what one token can be, with everything the scan does at it; `exists_step_of_token` says
  that there is nothing else.
* `Step.found`, `Step.text` — what a step adds, and what it passes.
* `WellClosed`, `Step.addedFrom` — strings with fields are closed within the step that opens them.
* `Step.flat` — tokens open and close no blocks.
-/

set_option autoImplicit false

namespace TexWeave
namespace Source

open Form

namespace Scanner

/-! ## Passing characters -/

/-- The column behind characters. -/
def columnAfter (column : Nat) (passed : List Char) : Nat :=
  passed.foldl (fun n c ↦ if c = '\n' then 0 else n + 1) column

theorem advance_eq (s : Scanner) (passed rest : List Char) : s.advance passed rest
    = { s with
        rest := rest
        line := s.line + passed.count '\n'
        column := columnAfter s.column passed } := by
  rw [advance]
  induction passed generalizing s with
  | nil => rfl
  | cons c r ih =>
    rw [List.foldl_cons, columnAfter, List.foldl_cons]
    by_cases hc : c = '\n'
    · rw [if_pos hc, if_pos hc, hc, List.count_cons_self]
      refine (ih { s with line := s.line + 1, column := 0 }).trans ?_
      rw [Nat.add_assoc, Nat.add_comm 1, columnAfter]
    · rw [if_neg hc, if_neg hc, List.count_cons_of_ne hc]
      exact ih { s with column := s.column + 1 }

section

variable (s : Scanner) (passed rest : List Char)

@[simp] theorem advance_rest : (s.advance passed rest).rest = rest := by
  rw [advance_eq]

@[simp] theorem advance_line : (s.advance passed rest).line = s.line + passed.count '\n' := by
  rw [advance_eq]

@[simp] theorem advance_column :
    (s.advance passed rest).column = columnAfter s.column passed := by
  rw [advance_eq]

@[simp] theorem advance_atLineStart : (s.advance passed rest).atLineStart = s.atLineStart := by
  rw [advance_eq]

@[simp] theorem advance_depths : (s.advance passed rest).depths = s.depths := by
  rw [advance_eq]

@[simp] theorem advance_brackets : (s.advance passed rest).brackets = s.brackets := by
  rw [advance_eq]

@[simp] theorem advance_found : (s.advance passed rest).found = s.found := by
  rw [advance_eq]

theorem advance_advance (more rest' : List Char) :
    (s.advance passed rest).advance more rest' = s.advance (passed ++ more) rest' := by
  rw [advance_eq, advance_eq, advance_eq, columnAfter, columnAfter, columnAfter,
    List.count_append, List.foldl_append, Nat.add_assoc]

/-- The token made of characters that come next. -/
def part (kind : TokenKind) : Token :=
  ⟨kind, String.ofList passed, s.line, s.column, s.line + passed.count '\n'⟩

/-- The scan with more tokens, which are given in order. -/
def adding (new : List Token) : Scanner := { s with found := new.reverse ++ s.found }

variable (new : List Token)

@[simp] theorem adding_rest : (s.adding new).rest = s.rest := rfl

@[simp] theorem adding_line : (s.adding new).line = s.line := rfl

@[simp] theorem adding_column : (s.adding new).column = s.column := rfl

@[simp] theorem adding_atLineStart : (s.adding new).atLineStart = s.atLineStart := rfl

@[simp] theorem adding_depths : (s.adding new).depths = s.depths := rfl

@[simp] theorem adding_brackets : (s.adding new).brackets = s.brackets := rfl

@[simp] theorem adding_found : (s.adding new).found = new.reverse ++ s.found := rfl

theorem adding_adding (more : List Token) :
    (s.adding new).adding more = s.adding (new ++ more) := by
  rw [adding, adding, adding, List.reverse_append, List.append_assoc]

theorem advance_adding :
    (s.adding new).advance passed rest = (s.advance passed rest).adding new := by
  rw [advance_eq, advance_eq]
  rfl

theorem emit_eq (kind : TokenKind) :
    s.emit kind passed rest = (s.advance passed rest).adding [s.part passed kind] := by
  rw [emit, adding]
  simp only [advance_line, advance_found, part]
  rfl

end

/-! ## Tokens -/

/-- The token that closes a string with fields. -/
def closing (s : Scanner) : Token := ⟨.fieldsClose, "", s.line, s.column, s.line⟩

/-- Whether characters can be the beginning of a literal as far as blanks go. -/
def OpensLiteral (used : List Char) : Prop := ∃ c r, used = c :: r ∧ Text.isBlank c = false

/-- Whether characters can be the end of a literal as far as line feeds go. -/
def ClosesLiteral (used : List Char) : Prop := ∃ r c, used = r ++ [c] ∧ c ≠ '\n'

/-- One token, with the tokens it adds in order and the scan behind it. -/
inductive Step (fuel : Nat) (s : Scanner) : List Token → Scanner → Prop
  | blank {c : Char} {rest : List Char} (h : s.rest = c :: rest)
      (hc : c = ' ' ∨ c = '\t' ∨ c = '\x0c') : Step fuel s [] (s.advance [c] rest)
  | fold {rest : List Char} (h : s.rest = '\\' :: '\n' :: rest) :
      Step fuel s [] (s.advance ['\\', '\n'] rest)
  | comment {used rest : List Char} (h : s.rest = '#' :: (used ++ rest)) (hused : '\n' ∉ used)
      (hrest : ∀ c r, rest = c :: r → c = '\n') :
      Step fuel s [s.part ('#' :: used) .comment] (s.emit .comment ('#' :: used) rest)
  | lineBreak {rest : List Char} (h : s.rest = '\n' :: rest) :
      Step fuel s [s.part ['\n'] (if s.brackets.isEmpty then .newline else .gap)]
        (s.lineBreak rest)
  | word {kind : TokenKind} {used rest : List Char} (h : s.rest = used ++ rest) (hne : used ≠ [])
      (hkind : kind = .name ∨ kind = .keyword) (hlike : ∀ c ∈ used, isWordLike c = true)
      (hspelled : (∀ c ∈ used, c.toNat < 128) ∨ Text.isIdentifier used = true) :
      Step fuel s [s.part used kind] (s.emit kind used rest)
  | literal {kind : TokenKind} {used rest : List Char} (h : s.rest = used ++ rest)
      (hopens : OpensLiteral used) (hkind : kind = .number ∨ kind = .string ∨ kind = .bytes)
      (hcloses : ClosesLiteral used) :
      Step fuel s [s.part used kind] (s.emit kind used rest)
  | embedded {n : Nat} {used rest : List Char} {expressions : List (List Char)} {inner : List Token}
      (h : s.rest = used ++ rest) (hopens : OpensLiteral used) (hn : n < fuel)
      (hinner : fields n s.line expressions = some inner) (hcloses : ClosesLiteral used) :
      Step fuel s
        (s.part used .fieldsOpen :: (inner.reverse ++ [(s.advance used rest).closing]))
        ((s.advance used rest).adding
          (s.part used .fieldsOpen :: (inner.reverse ++ [(s.advance used rest).closing])))
  | operator {o : String} {rest : List Char} {brackets : List Char}
      (ho : o ∈ operators.flatten) (h : s.rest = o.toList ++ rest) :
      Step fuel s [s.part o.toList .operator]
        { s.emit .operator o.toList rest with brackets := brackets }
  | stray {c : Char} {rest : List Char} (h : s.rest = c :: rest) (hc : c ≠ '\n') :
      Step fuel s [s.part [c] .stray] (s.emit .stray [c] rest)

theorem opensLiteral_quote {q : Char} (hq : q = '\'' ∨ q = '"') : OpensLiteral [q] := by
  rcases hq with rfl | rfl <;> exact ⟨_, [], rfl, by decide⟩

/-- The letters before a quote are no blanks. -/
theorem opensLiteral_letters {w : List Char} {sort : StringSort}
    (h : StringSort.ofLetters? w = some sort) {q : Char} (hq : q = '\'' ∨ q = '"') :
    OpensLiteral (w ++ [q]) := by
  cases w with
  | nil => exact opensLiteral_quote hq
  | cons c r =>
    refine ⟨c, r ++ [q], rfl, ?_⟩
    rw [Bool.eq_false_iff]
    intro hblank
    rw [StringSort.ofLetters?, Text.asciiLower, List.map_cons, Text.toLower_of_isBlank hblank] at h
    have hletter : c ∈ ['u', 'r', 'b', 'f'] := by
      split at h <;> simp_all
    simp only [List.mem_cons, List.not_mem_nil, or_false] at hletter
    rcases hletter with rfl | rfl | rfl | rfl <;> exact absurd hblank (by decide)

theorem ne_newline_of_quote {q : Char} (hq : (q = '\'' || q = '"') = true) : q ≠ '\n' := by
  rintro rfl
  exact absurd hq (by decide)

theorem OpensLiteral.append {used : List Char} (h : OpensLiteral used) (more : List Char) :
    OpensLiteral (used ++ more) := by
  obtain ⟨c, r, rfl, hc⟩ := h
  exact ⟨c, r ++ more, rfl, hc⟩

theorem exists_step_of_string {fuel : Nat} {sort : StringSort} {opening r : List Char} {q : Char}
    {s t : Scanner} (hs : s.rest = opening ++ r) (hopens : OpensLiteral opening) (hq : q ≠ '\n')
    (h : string fuel sort opening q r s = some t) : ∃ new, Step (fuel + 1) s new t := by
  cases fuel with
  | zero => cases h
  | succ fuel =>
    rw [string] at h
    obtain ⟨⟨body, rest⟩, hclose, h⟩ := Option.bind_eq_some_iff.1 h
    obtain ⟨w, hw⟩ := closeString_isSuffix hclose
    have htake : r.take (r.length - rest.length) = w ++ [q] := by
      rw [← hw, List.append_cons, List.length_append, Nat.add_sub_cancel, List.take_left]
    have hused : s.rest = opening ++ (w ++ [q]) ++ rest := by
      rw [hs, ← hw, List.append_assoc, List.append_assoc, List.singleton_append]
    have hopens' := hopens.append (w ++ [q])
    have hcloses : ClosesLiteral (opening ++ (w ++ [q])) :=
      ⟨opening ++ w, q, (List.append_assoc ..).symm, hq⟩
    dsimp only at h
    rw [htake] at h
    generalize opening ++ (w ++ [q]) = used at hused hopens' hcloses h
    split at h
    · split at h
      · cases h
        exact ⟨_, .literal hused hopens' (.inr (.inr rfl)) hcloses⟩
      · cases h
    · split at h
      · simp only [Option.bind_eq_bind, Option.bind_eq_some_iff] at h
        obtain ⟨expressions, -, inner, hinner, h⟩ := h
        have hstep := Step.embedded hused hopens' (Nat.lt_add_of_pos_right Nat.two_pos) hinner
          hcloses
        have ht : (s.advance used rest).adding (s.part used .fieldsOpen
            :: (inner.reverse ++ [(s.advance used rest).closing])) = t := by
          rw [← Option.some.inj h]
          simp [emit_eq, adding, closing]
        exact ⟨_, ht ▸ hstep⟩
      · split at h
        · cases h
          exact ⟨_, .literal hused hopens' (.inr (.inl rfl)) hcloses⟩
        · cases h

theorem exists_step_of_word {fuel : Nat} {w rest : List Char} {s t : Scanner}
    (hs : s.rest = w ++ rest) (hne : w ≠ []) (hlike : ∀ c ∈ w, isWordLike c = true)
    (h : s.word w = some t) : ∃ new, Step fuel s new t := by
  rw [Scanner.word, hs, List.drop_left] at h
  split at h
  · next hspelled =>
    cases h
    simp only [Bool.or_eq_true, List.all_eq_true, decide_eq_true_eq] at hspelled
    refine ⟨_, .word hs hne ?_ hlike hspelled⟩
    split
    · exact .inr rfl
    · exact .inl rfl
  · cases h

theorem exists_step_of_number {fuel : Nat} {c : Char} {r : List Char} {split : Option Split}
    {s t : Scanner} (hs : s.rest = c :: r) (hc : Text.isBlank c = false)
    (hsplit : ∀ p, split = some p → c :: r = p.1.reverse ++ p.2 ∧ p.1 ≠ [])
    (hfeed : ∀ p, split = some p → '\n' ∉ p.1)
    (h : number split s = some t) : ∃ new, Step fuel s new t := by
  rw [number] at h
  obtain ⟨p, hp, rfl⟩ := Option.map_eq_some_iff.1 h
  obtain ⟨htext, hne⟩ := hsplit p hp
  refine ⟨_, .literal (hs.trans htext) ?_ (.inl rfl) ?_⟩
  · cases hread : p.1.reverse with
    | nil => exact absurd (List.reverse_eq_nil_iff.1 hread) hne
    | cons d w =>
      rw [hread] at htext
      exact ⟨d, w, rfl, (List.cons.inj htext).1 ▸ hc⟩
  · obtain ⟨d, w, hread⟩ := List.exists_cons_of_ne_nil hne
    refine ⟨w.reverse, d, by rw [hread, List.reverse_cons], ?_⟩
    rintro rfl
    exact hfeed p hp (hread ▸ List.mem_cons_self)

theorem exists_step_of_operator {fuel : Nat} {o : String} {s t : Scanner}
    (ho : operatorAt? s.rest = some o) (h : s.operator o = some t) : ∃ new, Step fuel s new t := by
  unfold operatorAt? at ho
  have hmem : o ∈ operators.flatten := List.mem_of_find?_eq_some ho
  have hprefix := List.find?_some ho
  obtain ⟨rest, hrest⟩ := List.isPrefixOf_iff_prefix.1 hprefix
  have hdrop : s.rest.drop o.length = rest := by
    rw [← hrest, ← String.length_toList, List.drop_left]
  have hstep (brackets : List Char) : ∃ new,
      Step fuel s new { s.emit .operator o.toList rest with brackets := brackets } :=
    ⟨_, .operator hmem hrest.symm⟩
  rw [Scanner.operator, hdrop] at h
  split at h
  · split at h
    · cases h
    · cases h
      exact hstep _
  · split at h
    · split at h
      · cases h
      · split at h
        · cases h
          exact hstep _
        · cases h
    · cases h
      exact hstep (s.emit .operator o.toList rest).brackets

/-- **What one token can be.** -/
theorem exists_step_of_token {fuel : Nat} {s t : Scanner} (h : token fuel s = some t) :
    ∃ new, Step fuel s new t := by
  cases fuel with
  | zero => cases h
  | succ fuel =>
    rw [token] at h
    cases hs : s.rest with
    | nil =>
      rw [hs] at h
      cases h
    | cons c r =>
      simp only [hs] at h
      split at h
      · next hblank =>
        cases h
        simp only [Bool.or_eq_true, decide_eq_true_eq, or_assoc] at hblank
        exact ⟨_, .blank hs hblank⟩
      split at h
      · next hhash =>
        subst hhash
        have hcut : s.rest = '#' :: (r.takeWhile (· != '\n') ++ r.dropWhile (· != '\n')) := by
          rw [hs, List.takeWhile_append_dropWhile]
        rw [comment, hs] at h
        cases h
        refine ⟨_, .comment hcut (fun hfeed ↦ ?_) fun c r' hr ↦ ?_⟩
        · exact absurd (List.mem_takeWhile_imp hfeed) (by decide)
        · have hne : r.dropWhile (· != '\n') ≠ [] := by
            rw [hr]
            exact List.cons_ne_nil c r'
          simpa [hr] using List.head_dropWhile_not (· != '\n') hne
      split at h
      · next hfeed =>
        cases h
        exact ⟨_, .lineBreak (hfeed ▸ hs)⟩
      rename_i hfeed
      split at h
      · next hback =>
        split at h
        · cases h
          exact ⟨_, .fold (hback ▸ hs)⟩
        · cases h
      split at h
      · next hword =>
        have hcut : s.rest = (c :: r).takeWhile isWordLike ++ (c :: r).dropWhile isWordLike := by
          rw [hs, List.takeWhile_append_dropWhile]
        have hc : isWordLike c = true := (Bool.and_eq_true_iff.1 hword).1
        have hne : (c :: r).takeWhile isWordLike ≠ [] := by
          rw [List.takeWhile_cons_of_pos hc]
          exact List.cons_ne_nil _ _
        have hlike : ∀ d ∈ (c :: r).takeWhile isWordLike, isWordLike d = true :=
          fun d hd ↦ List.mem_takeWhile_imp hd
        rw [Text.drop_length_takeWhile] at h
        split at h
        · next q rest hrest =>
          split at h
          · next hquote =>
            split at h
            · next sort hsort =>
              refine exists_step_of_string ?_ (opensLiteral_letters hsort (by simpa using hquote))
                (ne_newline_of_quote hquote) h
              rw [hcut, hrest, List.append_assoc, List.singleton_append]
            · exact exists_step_of_word hcut hne hlike h
          · exact exists_step_of_word hcut hne hlike h
        · exact exists_step_of_word hcut hne hlike h
      split at h
      · next hquote =>
        exact exists_step_of_string hs (opensLiteral_quote (by simpa using hquote)) hfeed h
      split at h
      · next hdigit =>
        refine exists_step_of_number hs ?_ (fun p hp ↦ split_scanNumber hdigit hp)
          (fun p hp ↦ newline_not_mem_scanNumber hdigit hp) h
        exact Text.isBlank_of_isAlphanum (by rw [Char.isAlphanum, hdigit, Bool.or_true])
      split at h
      · next hpoint =>
        obtain ⟨rfl, -⟩ : c = '.' ∧ _ := by simpa using hpoint
        exact exists_step_of_number hs (by decide) (fun p hp ↦ split_fractionTail hp)
          (fun p hp ↦ newline_not_mem_fractionTail hp) h
      split at h
      · next o ho => exact exists_step_of_operator (hs ▸ ho) h
      · cases h
        exact ⟨_, .stray hs hfeed⟩

/-! ### What every token does -/

section

variable {fuel : Nat} {s t : Scanner} {new : List Token}

theorem Step.found (h : Step fuel s new t) : t.found = new.reverse ++ s.found := by
  cases h <;> simp [Scanner.lineBreak, emit_eq]

/-- A token passes at least one character. -/
theorem Step.text (h : Step fuel s new t) : ∃ used, used ≠ [] ∧ s.rest = used ++ t.rest
    ∧ t.line = s.line + used.count '\n' ∧ t.column = columnAfter s.column used := by
  cases h with
  | @blank c rest h => exact ⟨[c], by simp [h]⟩
  | @fold rest h => exact ⟨['\\', '\n'], by simp [h]⟩
  | @comment used rest h => exact ⟨'#' :: used, by simp [h, emit_eq]⟩
  | @lineBreak rest h => exact ⟨['\n'], by simp [h, Scanner.lineBreak, emit_eq]⟩
  | @word kind used rest h hne => exact ⟨used, by simp [h, hne, emit_eq]⟩
  | @literal kind used rest h hopens =>
    obtain ⟨c, r, rfl, -⟩ := hopens
    exact ⟨c :: r, by simp [h, emit_eq]⟩
  | @embedded n used rest es inner h hopens =>
    obtain ⟨c, r, rfl, -⟩ := hopens
    exact ⟨c :: r, by simp [h]⟩
  | @operator o rest brackets ho h =>
    have hne : o.toList ≠ [] := by
      intro hnil
      rw [String.toList_eq_nil_iff.1 hnil] at ho
      exact absurd ho (by decide)
    exact ⟨o.toList, by simp [h, hne, emit_eq]⟩
  | @stray c rest h => exact ⟨[c], by simp [h, emit_eq]⟩

theorem Step.depths (h : Step fuel s new t) : t.depths = s.depths := by
  cases h <;> simp [Scanner.lineBreak, emit_eq]

end

/-! ### Strings with fields -/

/-- Strings with fields are closed in turn: at no point are more closed than were opened, and in
the end none is left open. -/
def WellClosed (ts : List Token) : Prop := excess ts = 0 ∧ ∀ p q, ts = p ++ q → 0 ≤ excess p

theorem wellClosed_nil : WellClosed [] := by
  refine ⟨rfl, fun p q h ↦ ?_⟩
  rw [(List.nil_eq_append_iff.1 h).1]
  exact Int.le_refl 0

theorem wellClosed_singleton {k : Token} (h : weight k = 0) : WellClosed [k] := by
  have hk : excess [k] = 0 := by rw [excess_cons, h, excess_nil, add_zero]
  refine ⟨hk, fun p q hpq ↦ ?_⟩
  rcases List.singleton_eq_append_iff.1 hpq with ⟨rfl, -⟩ | ⟨rfl, -⟩
  · exact Int.le_refl 0
  · exact Int.le_of_eq hk.symm

theorem WellClosed.append {a b : List Token} (ha : WellClosed a) (hb : WellClosed b) :
    WellClosed (a ++ b) := by
  refine ⟨by rw [excess_append, ha.1, hb.1, add_zero], fun p q h ↦ ?_⟩
  rcases List.append_eq_append_iff.1 h with ⟨w, rfl, hw⟩ | ⟨w, hw, -⟩
  · rw [excess_append, ha.1, zero_add]
    exact hb.2 w q hw
  · exact ha.2 p w hw

theorem wellClosed_of_weight {ts : List Token} (h : ∀ k ∈ ts, weight k = 0) : WellClosed ts := by
  induction ts with
  | nil => exact wellClosed_nil
  | cons k ts ih =>
    exact (wellClosed_singleton (h k List.mem_cons_self)).append
      (ih fun j hj ↦ h j (List.mem_cons_of_mem k hj))

section

variable {left right : Token} {inner : List Token}

/-- Inside a string with fields there is always one left open. -/
theorem excess_pos_of_fields (hinner : WellClosed inner) (hleft : weight left = 1)
    {p q : List Token} (hp : p ≠ []) (hq : q ≠ []) (h : left :: (inner ++ [right]) = p ++ q) :
    0 < excess p := by
  obtain ⟨k, p, rfl⟩ := List.exists_cons_of_ne_nil hp
  obtain ⟨rfl, hsplit⟩ := List.cons.inj h
  rw [excess_cons, hleft]
  have hprefix : 0 ≤ excess p := by
    rcases List.append_eq_append_iff.1 hsplit with ⟨w, rfl, hw⟩ | ⟨w, hw, -⟩
    · rcases List.singleton_eq_append_iff.1 hw with ⟨rfl, -⟩ | ⟨-, rfl⟩
      · rw [List.append_nil]
        exact Int.le_of_eq hinner.1.symm
      · exact absurd rfl hq
    · exact hinner.2 p w hw
  omega

theorem wellClosed_fields (hinner : WellClosed inner) (hleft : weight left = 1)
    (hright : weight right = -1) : WellClosed (left :: (inner ++ [right])) := by
  have hall : excess (left :: (inner ++ [right])) = 0 := by
    rw [excess_cons, excess_append, excess_cons, excess_nil, hinner.1, hleft, hright]
    rfl
  refine ⟨hall, fun p q h ↦ ?_⟩
  by_cases hp : p = []
  · rw [hp]
    exact Int.le_refl 0
  by_cases hq : q = []
  · rw [hq, List.append_nil] at h
    exact Int.le_of_eq (h ▸ hall.symm)
  · exact Int.le_of_lt (excess_pos_of_fields hinner hleft hp hq h)

end

/-- Tokens a scan can add from a line on. -/
structure AddedFrom (line : Nat) (new : List Token) : Prop where
  wellClosed : WellClosed new
  lines : ∀ k ∈ new, line ≤ k.line ∧ k.line ≤ k.endLine

theorem AddedFrom.line_le {line : Nat} {new : List Token} (h : AddedFrom line new) :
    ∀ k ∈ new, line ≤ k.endLine :=
  fun k hk ↦ (h.lines k hk).1.trans (h.lines k hk).2

theorem AddedFrom.append {line : Nat} {a b : List Token} (ha : AddedFrom line a)
    (hb : AddedFrom line b) : AddedFrom line (a ++ b) :=
  ⟨ha.wellClosed.append hb.wellClosed, fun k hk ↦
    (List.mem_append.1 hk).elim (ha.lines k) (hb.lines k)⟩

theorem AddedFrom.mono {line line' : Nat} {new : List Token} (h : AddedFrom line' new)
    (hle : line ≤ line') : AddedFrom line new :=
  ⟨h.wellClosed, fun k hk ↦ ⟨hle.trans (h.lines k hk).1, (h.lines k hk).2⟩⟩

theorem addedFrom_nil (line : Nat) : AddedFrom line [] :=
  ⟨wellClosed_nil, fun _ hk ↦ absurd hk List.not_mem_nil⟩

theorem addedFrom_part (s : Scanner) (passed : List Char) {kind : TokenKind}
    (h : kind ≠ .fieldsOpen ∧ kind ≠ .fieldsClose) : AddedFrom s.line [s.part passed kind] := by
  refine ⟨wellClosed_singleton ?_, fun k hk ↦ ?_⟩
  · rw [weight]
    split
    · next hkind => exact absurd hkind h.1
    · next hkind => exact absurd hkind h.2
    · rfl
  · rw [List.mem_singleton.1 hk]
    exact ⟨Nat.le_refl _, Nat.le_add_right _ _⟩

/-- What a token adds, if that is known of the expressions it holds. -/
theorem Step.addedFrom_of_fields {fuel : Nat} {s t : Scanner} {new : List Token}
    (h : Step fuel s new t) (hfields : ∀ n < fuel, ∀ line expressions inner,
      fields n line expressions = some inner → AddedFrom line inner.reverse) :
    AddedFrom s.line new := by
  cases h with
  | blank => exact addedFrom_nil _
  | fold => exact addedFrom_nil _
  | comment => exact addedFrom_part s _ (by decide)
  | lineBreak =>
    refine addedFrom_part s _ ?_
    split <;> decide
  | word _ _ hkind => exact addedFrom_part s _ (by rcases hkind with rfl | rfl <;> decide)
  | literal _ _ hkind =>
    exact addedFrom_part s _ (by rcases hkind with rfl | rfl | rfl <;> decide)
  | operator => exact addedFrom_part s _ (by decide)
  | stray => exact addedFrom_part s _ (by decide)
  | @embedded n used rest expressions inner h hopens hn hinner =>
    have hadded := hfields n hn _ _ _ hinner
    refine ⟨wellClosed_fields hadded.wellClosed rfl rfl, fun k hk ↦ ?_⟩
    simp only [List.mem_cons, List.mem_append, List.not_mem_nil, or_false] at hk
    rcases hk with rfl | hk | rfl
    · exact ⟨Nat.le_refl _, Nat.le_add_right _ _⟩
    · exact hadded.lines k hk
    · exact ⟨by simp [closing], Nat.le_refl _⟩

section

variable {P : Nat → List Token → Prop} (hnil : ∀ line, P line [])
  (happend : ∀ line a b, P line a → P line b → P line (a ++ b))
  (hmono : ∀ line line' a, line ≤ line' → P line' a → P line a)
  (hstep : ∀ fuel s new t, Step fuel s new t → (∀ n < fuel, ∀ line expressions inner,
    fields n line expressions = some inner → P line inner.reverse) → P s.line new)

include hnil happend hmono hstep

/-- What holds of a token whenever it holds of the expressions in it holds of expressions. -/
theorem inner_of_step (fuel : Nat) :
    (∀ line expressions inner, fields fuel line expressions = some inner → P line inner.reverse)
      ∧ ∀ s found, inside fuel s = some found →
        ∃ new, found = new.reverse ++ s.found ∧ P s.line new := by
  induction fuel using Nat.strong_induction_on with
  | h fuel ih =>
    cases fuel with
    | zero =>
      refine ⟨fun _ _ _ h ↦ ?_, fun _ _ h ↦ ?_⟩
      · cases h
      · cases h
    | succ fuel =>
      have hlt := Nat.lt_succ_self fuel
      refine ⟨fun line expressions inner h ↦ ?_, fun s found h ↦ ?_⟩
      · cases expressions with
        | nil =>
          cases h
          exact hnil _
        | cons e es =>
          rw [fields] at h
          simp only [Option.bind_eq_bind, Option.bind_eq_some_iff] at h
          obtain ⟨tokens, htokens, more, hmore, h⟩ := h
          cases h
          obtain ⟨new, rfl, hnew⟩ := (ih fuel hlt).2 _ _ htokens
          rw [List.append_nil, List.reverse_append, List.reverse_reverse]
          exact happend _ _ _ hnew ((ih fuel hlt).1 _ _ _ hmore)
      · rw [inside] at h
        split at h
        · split at h
          · cases h
            exact ⟨[], rfl, hnil _⟩
          · cases h
        · obtain ⟨t, ht, h⟩ := Option.bind_eq_some_iff.1 h
          obtain ⟨new, hnew⟩ := exists_step_of_token ht
          obtain ⟨more, rfl, hmore⟩ := (ih fuel hlt).2 _ _ h
          obtain ⟨used, -, -, hline, -⟩ := hnew.text
          refine ⟨new ++ more, ?_, happend _ _ _
            (hstep _ _ _ _ hnew fun n hn ↦ (ih n (hn.trans hlt)).1) (hmono _ _ _ ?_ hmore)⟩
          · rw [List.reverse_append, List.append_assoc, ← hnew.found]
          · exact hline ▸ Nat.le_add_right _ _

end

/-- **What expressions in fields add**: whole strings with fields, from the line they stand on. -/
theorem addedFrom_inner (fuel : Nat) :
    (∀ line expressions inner, fields fuel line expressions = some inner →
        AddedFrom line inner.reverse)
      ∧ ∀ s found, inside fuel s = some found →
        ∃ new, found = new.reverse ++ s.found ∧ AddedFrom s.line new :=
  inner_of_step addedFrom_nil (fun _ _ _ ↦ .append) (fun _ _ _ hle h ↦ h.mono hle)
    (fun _ _ _ _ ↦ Step.addedFrom_of_fields) fuel

theorem Step.addedFrom {fuel : Nat} {s t : Scanner} {new : List Token} (h : Step fuel s new t) :
    AddedFrom s.line new :=
  h.addedFrom_of_fields fun n _ ↦ (addedFrom_inner n).1

/-! ### Blocks -/

/-- No blocks are opened or closed by tokens. -/
theorem Step.flat_of_fields {fuel : Nat} {s t : Scanner} {new : List Token}
    (h : Step fuel s new t)
    (hfields : ∀ n < fuel, ∀ line expressions inner, fields n line expressions = some inner →
      ∀ k ∈ inner.reverse, blockCost k.kind = some (0, 0)) :
    ∀ k ∈ new, blockCost k.kind = some (0, 0) := by
  cases h with
  | blank => exact List.forall_mem_nil _
  | fold => exact List.forall_mem_nil _
  | comment => exact List.forall_mem_singleton.2 rfl
  | lineBreak =>
    refine List.forall_mem_singleton.2 ?_
    split <;> rfl
  | word _ _ hkind => exact List.forall_mem_singleton.2 (by rcases hkind with rfl | rfl <;> rfl)
  | literal _ _ hkind =>
    exact List.forall_mem_singleton.2 (by rcases hkind with rfl | rfl | rfl <;> rfl)
  | operator => exact List.forall_mem_singleton.2 rfl
  | stray => exact List.forall_mem_singleton.2 rfl
  | @embedded n used rest expressions inner _ _ hn hinner =>
    refine List.forall_mem_cons.2 ⟨rfl, List.forall_mem_append.2 ⟨?_, ?_⟩⟩
    · exact hfields n hn _ _ _ hinner
    · exact List.forall_mem_singleton.2 rfl

theorem Step.flat {fuel : Nat} {s t : Scanner} {new : List Token} (h : Step fuel s new t) :
    ∀ k ∈ new, blockCost k.kind = some (0, 0) :=
  h.flat_of_fields fun n _ ↦
    (inner_of_step (P := fun _ ts ↦ ∀ k ∈ ts, blockCost k.kind = some (0, 0))
      (fun _ ↦ List.forall_mem_nil _) (fun _ _ _ ha hb ↦ List.forall_mem_append.2 ⟨ha, hb⟩)
      (fun _ _ _ _ h ↦ h) (fun _ _ _ _ ↦ Step.flat_of_fields) n).1

end Scanner
end Source
end TexWeave
