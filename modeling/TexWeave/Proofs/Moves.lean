import TexWeave.Proofs.Scanning

/-!
# Moves of a scan

A scan moves on by a token or by the start of a line.  The start of a line passes over spacing, and
over the whole line if it holds nothing but spacing and a comment; otherwise it may open or close
blocks.

* `IsSpacing` — what stands between tokens of a line, a line continued on the next one included.
* `StartStep`, `exists_startStep_of_lineStart` — what the start of a line can do.
* `Move`, `exists_move_of_next` — one move of either kind.
* `Runs`, `exists_runs_of_run` — all moves up to the end of the text.
-/

set_option autoImplicit false

namespace TexWeave
namespace Source

open Form

namespace Scanner

/-! ## Spacing -/

/-- Whether a character only makes room. -/
def IsRoom (c : Char) : Prop := c = ' ' ∨ c = '\t' ∨ c = '\x0c'

instance : DecidablePred IsRoom := fun _ ↦ instDecidableOr

/-- Room and continued lines. -/
inductive IsSpacing : List Char → Prop
  | nil : IsSpacing []
  | room {c : Char} {r : List Char} (hc : IsRoom c) (h : IsSpacing r) : IsSpacing (c :: r)
  | fold {r : List Char} (h : IsSpacing r) : IsSpacing ('\\' :: '\n' :: r)

theorem advance_nil (s : Scanner) : s.advance [] s.rest = s := rfl

section

variable {fuel : Nat} {d d' : Depth} {held held' : Option Depth} {s t : Scanner}

/-- Measuring an indentation passes over spacing. -/
theorem exists_spacing_of_measure (h : measure fuel d held s = some (d', held', t)) :
    ∃ used, IsSpacing used ∧ s.rest = used ++ t.rest ∧ t = s.advance used t.rest := by
  induction fuel generalizing d held s with
  | zero => cases h
  | succ fuel ih =>
    have hgo {passed rest : List Char} {d : Depth} {held : Option Depth}
        (hs : s.rest = passed ++ rest) (hpassed : ∀ r, IsSpacing r → IsSpacing (passed ++ r))
        (h : measure fuel d held (s.advance passed rest) = some (d', held', t)) :
        ∃ used, IsSpacing used ∧ s.rest = used ++ t.rest ∧ t = s.advance used t.rest := by
      obtain ⟨used, hused, hrest, ht⟩ := ih h
      rw [advance_rest] at hrest
      refine ⟨passed ++ used, hpassed used hused, by rw [hs, hrest, List.append_assoc], ?_⟩
      rwa [advance_advance] at ht
    unfold measure at h
    dsimp only at h
    split at h
    · next r hr => exact hgo hr (fun _ ↦ .room (.inl rfl)) h
    · next r hr => exact hgo hr (fun _ ↦ .room (.inr (.inl rfl))) h
    · next r hr => exact hgo hr (fun _ ↦ .room (.inr (.inr rfl))) h
    · next c r hr => exact hgo hr (fun _ ↦ .fold) h
    · cases h
    · cases h
      exact ⟨[], .nil, rfl, advance_nil t⟩

/-! ## Blocks -/

/-- The tokens that open and close blocks on a line. -/
def AreMarks (line : Nat) (marks : List Token) : Prop :=
  ∀ k ∈ marks, (k.kind = .indent ∨ k.kind = .dedent) ∧ k.line = line ∧ k.endLine = line

/-- The tokens that lead from the blocks under way in front of a line to those on it. -/
structure Arranges (before : List Depth) (marks : List Token) (after : List Depth) : Prop where
  walk_eq : walk blockCost before.length marks = some after.length
  text_eq : ∀ k ∈ marks, k.text = ""
  /-- Blocks stay deeper than a line without indentation. -/
  deep : (∀ d ∈ before, 0 < d.wide) → ∀ d ∈ after, 0 < d.wide

theorem arranges_nil (depths : List Depth) : Arranges depths [] depths :=
  ⟨rfl, List.forall_mem_nil _, id⟩

theorem Arranges.close {depths after : List Depth} {marks : List Token}
    (h : Arranges depths marks after) (top : Depth) (line column : Nat) :
    Arranges (top :: depths) (⟨.dedent, "", line, column, line⟩ :: marks) after where
  walk_eq := (walk_cons_of_cost blockCost rfl depths.length marks).trans h.walk_eq
  text_eq := List.forall_mem_cons.2 ⟨rfl, h.text_eq⟩
  deep hdeep := h.deep fun d hd ↦ hdeep d (List.mem_cons_of_mem top hd)

theorem arranges_open {d : Depth} (hd : 0 < d.wide) (depths : List Depth) (line column : Nat) :
    Arranges depths [⟨.indent, "", line, column, line⟩] (d :: depths) where
  walk_eq := walk_cons_of_cost blockCost (p := 0) (c := 1) rfl depths.length []
  text_eq := List.forall_mem_singleton.2 rfl
  deep hdeep := List.forall_mem_cons.2 ⟨hd, hdeep⟩

theorem exists_marks_of_closeBlocks (d : Depth) (depths : List Depth) (s : Scanner) :
    ∃ marks, AreMarks s.line marks ∧ Arranges depths marks (closeBlocks d depths s).1
      ∧ (closeBlocks d depths s).2 = s.adding marks := by
  fun_induction closeBlocks d depths s with
  | case1 s => exact ⟨[], fun _ hk ↦ absurd hk List.not_mem_nil, arranges_nil [], rfl⟩
  | case2 top below s hlt ih =>
    obtain ⟨marks, hmarks, harranges, ht⟩ := ih
    refine ⟨⟨.dedent, "", s.line, s.column, s.line⟩ :: marks,
      List.forall_mem_cons.2 ⟨⟨.inr rfl, rfl, rfl⟩, hmarks⟩, harranges.close top _ _, ?_⟩
    rw [ht, adding, adding, List.reverse_cons, List.append_assoc]
    rfl
  | case3 top below s => exact ⟨[], fun _ hk ↦ absurd hk List.not_mem_nil, arranges_nil _, rfl⟩

theorem exists_marks_of_arrange (h : arrange d s = some t) : ∃ depths marks,
    AreMarks s.line marks ∧ Arranges s.depths marks depths
      ∧ t = { s.adding marks with depths := depths } := by
  rw [arrange] at h
  dsimp only at h
  split at h
  · split at h <;> cases h
    exact ⟨s.depths, [], fun _ hk ↦ absurd hk List.not_mem_nil, arranges_nil _, rfl⟩
  · split at h
    · next hdeeper =>
      split at h <;> cases h
      exact ⟨_, [⟨.indent, "", s.line, s.column, s.line⟩],
        List.forall_mem_singleton.2 ⟨.inl rfl, rfl, rfl⟩,
        arranges_open (Nat.zero_lt_of_lt hdeeper) _ _ _, rfl⟩
    · obtain ⟨marks, hmarks, harranges, ht⟩ := exists_marks_of_closeBlocks d s.depths s
      split at h <;> cases h
      exact ⟨_, marks, hmarks, harranges, by rw [ht]⟩

end

/-! ## Starts of lines -/

/-- Tokens that the grammar passes over. -/
def AreTrivia (line : Nat) (ts : List Token) : Prop :=
  ∀ k ∈ ts, k.isTrivia = true ∧ line ≤ k.line ∧ k.line ≤ k.endLine

/-- The start of a line, with the tokens it adds in order and the scan behind it. -/
inductive StartStep (s : Scanner) : List Token → Scanner → Prop
  /-- A line with nothing but spacing and perhaps a comment. -/
  | passed {used rest : List Char} {new : List Token} (h : s.rest = used ++ '\n' :: rest)
      (hnew : AreTrivia s.line new) :
      StartStep s new ((s.advance (used ++ ['\n']) rest).adding new)
  /-- The same at the end of the text. -/
  | last {new : List Token} (hnew : AreTrivia s.line new) :
      StartStep s new { (s.advance s.rest []).adding new with atLineStart := false }
  /-- Spacing inside brackets. -/
  | inside {used rest : List Char} (hused : IsSpacing used) (h : s.rest = used ++ rest)
      (hbrackets : s.brackets ≠ []) :
      StartStep s [] { s.advance used rest with atLineStart := false }
  /-- Spacing and the blocks it opens or closes. -/
  | arranged {used rest : List Char} {depths : List Depth} {marks : List Token}
      (hused : IsSpacing used) (h : s.rest = used ++ rest) (hbrackets : s.brackets = [])
      (hmarks : AreMarks (s.line + used.count '\n') marks)
      (harranges : Arranges s.depths marks depths) :
      StartStep s marks
        { (s.advance used rest).adding marks with atLineStart := false, depths := depths }

/-- A comment reaches to the end of its line. -/
theorem exists_comment {s : Scanner} (h : s.rest.head? = some '#' ∨ s.rest.head? = some '\n') :
    ∃ used rest new, s.rest = used ++ rest ∧ (∀ c r, rest = c :: r → c = '\n')
      ∧ AreTrivia s.line new
      ∧ s.comment = (s.advance used rest).adding new := by
  cases hs : s.rest with
  | nil => simp [hs] at h
  | cons c r =>
    rw [hs, List.head?_cons, Option.some_inj, Option.some_inj] at h
    rcases h with rfl | rfl
    · refine ⟨'#' :: r.takeWhile (· != '\n'), r.dropWhile (· != '\n'),
        [s.part ('#' :: r.takeWhile (· != '\n')) .comment], ?_, fun c r' hr ↦ ?_, ?_, ?_⟩
      · rw [List.cons_append, List.takeWhile_append_dropWhile]
      · have hne : r.dropWhile (· != '\n') ≠ [] := by
          rw [hr]
          exact List.cons_ne_nil c r'
        simpa [hr] using List.head_dropWhile_not (· != '\n') hne
      · exact List.forall_mem_singleton.2 ⟨rfl, Nat.le_refl _, Nat.le_add_right _ _⟩
      · rw [Scanner.comment, hs]
        exact emit_eq s _ _ _
    · refine ⟨[], '\n' :: r, [], rfl, fun c r' hr ↦ (List.cons.inj hr).1.symm,
        fun _ hk ↦ absurd hk List.not_mem_nil, ?_⟩
      rw [← hs, advance_nil, Scanner.comment]
      split
      · next r' hr => cases hs.symm.trans hr
      · rfl

/-- **What the start of a line can do.** -/
theorem exists_startStep_of_lineStart {s t : Scanner} (h : s.lineStart = some t) :
    ∃ new, StartStep s new t := by
  rw [lineStart] at h
  simp only [Option.bind_eq_bind, Option.bind_eq_some_iff] at h
  obtain ⟨⟨depth, held, u⟩, hmeasure, h⟩ := h
  obtain ⟨used, hused, hrest, hu⟩ := exists_spacing_of_measure hmeasure
  generalize u.rest = rest at hrest hu
  subst hu
  split at h
  · next halone =>
    obtain ⟨words, rest', new, hwords, hstop, hnew, hcomment⟩ :=
      exists_comment (s := s.advance used rest) (by simpa using halone)
    rw [advance_rest] at hwords
    rw [advance_advance] at hcomment
    rw [hcomment] at h
    have hpassed : s.rest = used ++ words ++ rest' := by
      rw [hrest, hwords, List.append_assoc]
    have hnew' : AreTrivia s.line new := fun k hk ↦ ⟨(hnew k hk).1,
      (Nat.le_add_right _ _).trans (advance_line s used rest ▸ (hnew k hk).2.1), (hnew k hk).2.2⟩
    simp only [adding_rest, advance_rest] at h
    cases rest' with
    | nil =>
      rw [List.append_nil] at hpassed
      have hstep := StartStep.last hnew'
      rw [advance_eq] at hstep
      rw [← Option.some.inj h, ← hpassed, advance_eq]
      exact ⟨_, hstep⟩
    | cons c r =>
      obtain rfl := hstop c r rfl
      simp only [emit_eq, advance_adding, advance_advance, adding_adding, Option.some_inj] at h
      rw [← h]
      refine ⟨_, .passed hpassed (List.forall_mem_append.2 ⟨hnew', ?_⟩)⟩
      refine List.forall_mem_singleton.2 ⟨rfl, ?_, Nat.le_add_right _ _⟩
      simp only [part, adding_line, advance_line, Nat.le_add_right]
  · split at h
    · next hbrackets =>
      cases h
      exact ⟨_, .inside hused hrest (by simpa using hbrackets)⟩
    · next hbrackets =>
      obtain ⟨u, hu, rfl⟩ := Option.map_eq_some_iff.1 h
      obtain ⟨depths, marks, hmarks, harranges, rfl⟩ := exists_marks_of_arrange hu
      rw [advance_line] at hmarks
      rw [advance_depths] at harranges
      have hbrackets' : s.brackets = [] := by simpa using hbrackets
      exact ⟨_, .arranged hused hrest hbrackets' hmarks harranges⟩

/-! ## Moves -/

/-- What comes next in a scan: the start of a line, or a token. -/
inductive Move (s : Scanner) (new : List Token) (t : Scanner) : Prop
  | start (hs : s.atLineStart = true) (h : StartStep s new t)
  | token (hs : s.atLineStart = false) {fuel : Nat} (h : Step fuel s new t)

section

variable {s t : Scanner} {new : List Token}

theorem exists_move_of_next (h : s.next = some t) : ∃ new, Move s new t := by
  rw [next] at h
  split at h
  · next hs =>
    obtain ⟨new, hnew⟩ := exists_startStep_of_lineStart h
    exact ⟨new, .start hs hnew⟩
  · next hs =>
    obtain ⟨new, hnew⟩ := exists_step_of_token h
    exact ⟨new, .token (by simpa using hs) hnew⟩

theorem Move.found (h : Move s new t) : t.found = new.reverse ++ s.found := by
  cases h with
  | start _ h => cases h <;> simp
  | token _ h => exact h.found

/-- A move passes characters from the start of what is left. -/
theorem Move.text (h : Move s new t) : ∃ used, s.rest = used ++ t.rest
    ∧ t.line = s.line + used.count '\n' ∧ t.column = columnAfter s.column used := by
  cases h with
  | token _ h =>
    obtain ⟨used, -, hrest, hplace⟩ := h.text
    exact ⟨used, hrest, hplace⟩
  | start _ h =>
    cases h with
    | @passed used rest _ h => exact ⟨used ++ ['\n'], by simp [h]⟩
    | last => exact ⟨s.rest, by simp⟩
    | @inside used rest _ h => exact ⟨used, by simp [h]⟩
    | @arranged used rest _ _ _ h => exact ⟨used, by simp [h]⟩

theorem Move.line_le (h : Move s new t) : s.line ≤ t.line := by
  obtain ⟨used, -, hline, -⟩ := h.text
  exact hline ▸ Nat.le_add_right _ _

theorem AreTrivia.weight_eq {line : Nat} (h : AreTrivia line new) : ∀ k ∈ new, weight k = 0 := by
  intro k hk
  have htrivia := (h k hk).1
  rw [Token.isTrivia, Bool.or_eq_true, beq_iff_eq, beq_iff_eq] at htrivia
  rcases htrivia with hkind | hkind <;> rw [weight, hkind]

theorem AreMarks.weight_eq {line : Nat} (h : AreMarks line new) : ∀ k ∈ new, weight k = 0 := by
  intro k hk
  rcases (h k hk).1 with hkind | hkind <;> rw [weight, hkind]

theorem Move.addedFrom (h : Move s new t) : AddedFrom s.line new := by
  cases h with
  | token _ h => exact h.addedFrom
  | start _ h =>
    cases h with
    | passed _ hnew => exact ⟨wellClosed_of_weight hnew.weight_eq, fun k hk ↦ (hnew k hk).2⟩
    | last hnew => exact ⟨wellClosed_of_weight hnew.weight_eq, fun k hk ↦ (hnew k hk).2⟩
    | inside => exact addedFrom_nil _
    | arranged _ _ _ hmarks =>
      exact ⟨wellClosed_of_weight hmarks.weight_eq,
        fun k hk ↦ ⟨(hmarks k hk).2.1 ▸ Nat.le_add_right _ _,
          ((hmarks k hk).2.1.trans (hmarks k hk).2.2.symm).le⟩⟩

end

/-- All moves up to the end of the text, with the tokens they add in order. -/
inductive Runs : Scanner → List Token → Prop
  | finish {s : Scanner} (hrest : s.rest = []) (hbrackets : s.brackets = []) :
      Runs s [⟨.finish, "", s.line, s.column, s.line⟩]
  | move {s t : Scanner} {new out : List Token} (h : Move s new t) (hrest : Runs t out)
      (hnext : s.next = some t) : Runs s (new ++ out)

/-- **A scan that comes to its end** has made moves up to there. -/
theorem exists_runs_of_run {fuel : Nat} {s : Scanner} (h : (run fuel s).complete = true) :
    ∃ out, (run fuel s).tokens = s.found.reverse ++ out ∧ Runs s out := by
  induction fuel generalizing s with
  | zero => cases h
  | succ fuel ih =>
    rw [run] at h ⊢
    split at h
    · next hend =>
      rw [if_pos hend]
      simp only [Bool.and_eq_true, List.isEmpty_iff] at hend
      rw [run.finish, List.isEmpty_iff] at h
      exact ⟨_, List.reverse_cons, .finish hend.1 h⟩
    · next hend =>
      rw [if_neg hend]
      cases hnext : s.next with
      | none => simp [hnext] at h
      | some t =>
        simp only [hnext] at h ⊢
        obtain ⟨new, hmove⟩ := exists_move_of_next hnext
        obtain ⟨out, hout, hruns⟩ := ih h
        refine ⟨new ++ out, ?_, .move hmove hruns hnext⟩
        rw [hout, hmove.found, List.reverse_append, List.reverse_reverse, List.append_assoc]

theorem Runs.line_le {s : Scanner} {out : List Token} (h : Runs s out) :
    ∀ k ∈ out, s.line ≤ k.endLine := by
  induction h with
  | finish => exact List.forall_mem_singleton.2 (Nat.le_refl _)
  | move h hrest _ ih =>
    exact List.forall_mem_append.2
      ⟨h.addedFrom.line_le, fun k hk ↦ h.line_le.trans (ih k hk)⟩

end Scanner
end Source
end TexWeave
