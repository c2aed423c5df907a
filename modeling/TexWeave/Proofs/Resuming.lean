import TexWeave.Proofs.Placement

/-!
# A scan taken up again

What a scan finds next does not depend on what it found before, and given enough fuel it does not
depend on the fuel.  So a scan under way can be compared with another that came to the same place by
another text.

* `behind`, `next_behind` — a scan with more tokens in front of those it has found.
* `size`, `run_of_size_lt` — how much fuel is enough.
* `whole` — a scan to its end, with `whole_of_next` for a move and `whole_behind` for its tokens.
-/

set_option autoImplicit false

namespace TexWeave
namespace Source

/-- The tokens of a text with more in front. -/
def Scanned.behind (s : Scanned) (front : List Token) : Scanned := ⟨front ++ s.tokens, s.complete⟩

theorem Scanned.behind_behind (s : Scanned) (front more : List Token) :
    (s.behind more).behind front = s.behind (front ++ more) := by
  rw [behind, behind, behind, List.append_assoc]

/-- Tokens that grammar passes over make no difference to it. -/
theorem Scanned.sentence?_behind (s : Scanned) {front : List Token}
    (h : Scanner.significant front = []) : (s.behind front).sentence? = s.sentence? := by
  have htokens : ((s.behind front).tokens.filter fun t ↦ !t.isTrivia)
      = s.tokens.filter fun t ↦ !t.isTrivia := by
    rw [behind, List.filter_append]
    exact (congrArg (· ++ _) h).trans (List.nil_append _)
  rw [sentence?, sentence?, htokens]
  rfl

namespace Scanner

/-! ## What was found before -/

section

variable (s : Scanner) (old : List Token)

/-- The scan with more tokens in front of those it has found, the latest first. -/
def behind : Scanner := { s with found := s.found ++ old }

@[simp] theorem behind_rest : (s.behind old).rest = s.rest := rfl

@[simp] theorem behind_line : (s.behind old).line = s.line := rfl

@[simp] theorem behind_column : (s.behind old).column = s.column := rfl

@[simp] theorem behind_atLineStart : (s.behind old).atLineStart = s.atLineStart := rfl

@[simp] theorem behind_depths : (s.behind old).depths = s.depths := rfl

@[simp] theorem behind_brackets : (s.behind old).brackets = s.brackets := rfl

@[simp] theorem behind_found : (s.behind old).found = s.found ++ old := rfl

theorem advance_behind (passed rest : List Char) :
    (s.behind old).advance passed rest = (s.advance passed rest).behind old := by
  rw [advance_eq, advance_eq]
  rfl

theorem emit_behind (kind : TokenKind) (passed rest : List Char) :
    (s.behind old).emit kind passed rest = (s.emit kind passed rest).behind old := by
  rw [emit, emit, advance_behind]
  rfl

theorem mark_behind (kind : TokenKind) : (s.behind old).mark kind = (s.mark kind).behind old := rfl

theorem comment_behind : (s.behind old).comment = s.comment.behind old := by
  rw [comment, comment, behind_rest]
  split
  · exact emit_behind s old _ _ _
  · rfl

theorem measure_behind (fuel : Nat) (d : Depth) (held : Option Depth) :
    measure fuel d held (s.behind old)
      = (measure fuel d held s).map fun m ↦ (m.1, m.2.1, m.2.2.behind old) := by
  induction fuel generalizing d held s with
  | zero => rfl
  | succ fuel ih =>
    unfold measure
    rw [behind_rest]
    split
    · rw [advance_behind, ih]
    · rw [advance_behind, ih]
    · rw [advance_behind, ih]
    · rw [advance_behind, ih]
    · rfl
    · rfl

theorem closeBlocks_behind (d : Depth) (depths : List Depth) :
    closeBlocks d depths (s.behind old)
      = ((closeBlocks d depths s).1, (closeBlocks d depths s).2.behind old) := by
  induction depths generalizing s with
  | nil => rfl
  | cons top below ih =>
    rw [closeBlocks, closeBlocks]
    split
    · rw [mark_behind, ih]
    · rfl

theorem arrange_behind (d : Depth) :
    arrange d (s.behind old) = (arrange d s).map (·.behind old) := by
  rw [arrange, arrange, behind_depths, closeBlocks_behind]
  dsimp only
  split_ifs <;> rfl

theorem lineStart_behind : (s.behind old).lineStart = s.lineStart.map (·.behind old) := by
  rw [lineStart, lineStart, behind_rest, measure_behind]
  cases measure (s.rest.length + 1) .zero none s with
  | none => rfl
  | some m =>
    obtain ⟨depth, held, t⟩ := m
    simp only [Option.map_some, Option.bind_eq_bind, Option.bind_some, behind_rest, behind_brackets,
      comment_behind]
    split
    · split
      · rw [emit_behind]; rfl
      · rfl
    · split
      · rfl
      · rw [arrange_behind, Option.map_map, Option.map_map]
        rfl

/-! ### Tokens -/

theorem lineBreak_behind (r : List Char) :
    (s.behind old).lineBreak r = (s.lineBreak r).behind old := by
  rw [lineBreak, lineBreak, emit_behind, behind_brackets]
  rfl

theorem word_behind (cs : List Char) : (s.behind old).word cs = (s.word cs).map (·.behind old) := by
  rw [word, word, emit_behind, behind_rest]
  split_ifs <;> rfl

theorem operator_behind (o : String) :
    (s.behind old).operator o = (s.operator o).map (·.behind old) := by
  rw [operator, operator, emit_behind, behind_rest, behind_brackets]
  split_ifs
  · rfl
  · rfl
  · cases s.brackets with
    | nil => rfl
    | cons b below =>
      dsimp only
      split_ifs <;> rfl
  · rfl

theorem number_behind (split : Option Split) :
    number split (s.behind old) = (number split s).map (·.behind old) := by
  rw [number, number, Option.map_map]
  exact congrArg (Option.map · split) (funext fun p ↦ emit_behind s old _ _ _)

theorem string_behind (fuel : Nat) (sort : StringSort) (opening : List Char) (q : Char)
    (r : List Char) : string fuel sort opening q r (s.behind old)
      = (string fuel sort opening q r s).map (·.behind old) := by
  cases fuel with
  | zero => rfl
  | succ fuel =>
    rw [string, string, behind_line]
    cases closeString q r with
    | none => rfl
    | some split =>
      obtain ⟨body, rest⟩ := split
      dsimp only [Option.bind_some]
      rw [emit_behind, emit_behind, emit_behind, advance_behind]
      split_ifs
      · rfl
      · rfl
      · cases fieldExpressions sort.raw body with
        | none => rfl
        | some expressions =>
          dsimp only [Option.bind_eq_bind, Option.bind_some]
          cases fields fuel s.line expressions with
          | none => rfl
          | some inner =>
            dsimp only [Option.bind_some, Option.pure_def, Option.map_some, behind]
            rw [List.cons_append, List.append_assoc]
      · rfl
      · rfl

theorem token_behind (fuel : Nat) :
    token fuel (s.behind old) = (token fuel s).map (·.behind old) := by
  cases fuel with
  | zero => rfl
  | succ fuel =>
    rw [token, token, behind_rest]
    cases hrest : s.rest with
    | nil => rfl
    | cons c r =>
      dsimp only
      simp only [advance_behind, comment_behind, string_behind, number_behind, word_behind,
        operator_behind, emit_behind, lineBreak_behind]
      split_ifs
      · rfl
      · rfl
      · rfl
      · split <;> rfl
      · split
        · split_ifs
          · split <;> rfl
          · rfl
        · rfl
      · rfl
      · rfl
      · rfl
      · split <;> rfl

theorem next_behind : (s.behind old).next = s.next.map (·.behind old) := by
  rw [next, next, behind_atLineStart, behind_rest]
  split
  · exact lineStart_behind s old
  · exact token_behind s old _

theorem finish_behind : run.finish (s.behind old) = (run.finish s).behind old.reverse := by
  rw [run.finish, run.finish, mark_behind, behind_found, List.reverse_append, behind_brackets]
  rfl

theorem stop_behind : (⟨(s.behind old).found.reverse, false⟩ : Scanned)
    = Scanned.behind ⟨s.found.reverse, false⟩ old.reverse := by
  rw [behind_found, List.reverse_append, Scanned.behind]

/-- **What a scan finds does not depend on what it found before.** -/
theorem run_behind (fuel : Nat) :
    run fuel (s.behind old) = (run fuel s).behind old.reverse := by
  induction fuel generalizing s with
  | zero => exact stop_behind s old
  | succ fuel ih =>
    rw [run, run, next_behind, behind_rest, behind_atLineStart]
    split
    · exact finish_behind s old
    · cases s.next with
      | none => exact stop_behind s old
      | some t => exact ih t

end

/-! ## How much fuel is enough -/

/-- How many moves a scan can make at most. -/
def size (s : Scanner) : Nat := 2 * s.rest.length + if s.atLineStart then 1 else 0

section

variable {s t : Scanner} {new : List Token}

theorem Move.size_lt (h : Move s new t) : t.size < s.size := by
  have hcons {used rest : List Char} (hrest : s.rest = used ++ rest) :
      s.rest.length = used.length + rest.length := by
    rw [hrest, List.length_append]
  cases h with
  | start hs hstep =>
    rw [size, size, if_pos hs]
    cases hstep with
    | passed hrest =>
      have hlength := hcons hrest
      simp only [adding_rest, adding_atLineStart, advance_rest, advance_atLineStart, hs, if_true]
      rw [List.length_cons] at hlength
      omega
    | last =>
      simp
    | inside _ hrest =>
      have hlength := hcons hrest
      simp
      omega
    | arranged _ hrest =>
      have hlength := hcons hrest
      simp
      omega
  | token hs hstep =>
    obtain ⟨used, hne, hrest, -⟩ := hstep.text
    have hlength := hcons hrest
    have hpos := List.length_pos_iff.2 hne
    rw [size, size, hs]
    split_ifs <;> omega

/-- **Two amounts of fuel that are enough** make no difference. -/
theorem run_of_size_lt {n m : Nat} (hn : s.size < n) (hm : s.size < m) : run n s = run m s := by
  induction n generalizing m s with
  | zero => exact absurd hn (Nat.not_lt_zero _)
  | succ n ih =>
    obtain ⟨m, rfl⟩ := Nat.exists_eq_succ_of_ne_zero (Nat.ne_zero_of_lt hm)
    rw [run, run]
    split
    · rfl
    · cases hnext : s.next with
      | none => rfl
      | some t =>
        obtain ⟨new, hmove⟩ := exists_move_of_next hnext
        have hlt := hmove.size_lt
        exact ih (by omega) (by omega)

/-! ## A scan to its end -/

/-- All that a scan still finds, up to the end of the text or to the first fault. -/
def whole (s : Scanner) : Scanned := run (s.size + 1) s

theorem run_eq_whole {n : Nat} (h : s.size < n) : run n s = s.whole :=
  run_of_size_lt h (Nat.lt_succ_self _)

theorem whole_behind (s : Scanner) (old : List Token) :
    (s.behind old).whole = s.whole.behind old.reverse :=
  run_behind s old _

/-- A scan that moves on finds what it finds from there. -/
theorem whole_of_next (h : s.next = some t) : s.whole = t.whole := by
  have hmore : ¬ (s.rest.isEmpty && !s.atLineStart) = true := by
    intro hend
    simp only [Bool.and_eq_true, List.isEmpty_iff, Bool.not_eq_true'] at hend
    rw [next, hend.1, hend.2, token, hend.1] at h
    cases h
  obtain ⟨new, hmove⟩ := exists_move_of_next h
  rw [whole, run, if_neg hmore, h]
  exact run_eq_whole hmove.size_lt

/-- A scan that comes to its end moves on as long as characters are left. -/
theorem exists_next_of_complete (h : s.whole.complete = true) (hs : s.rest ≠ []) :
    ∃ t, s.next = some t ∧ s.whole = t.whole := by
  cases hnext : s.next with
  | some t => exact ⟨t, rfl, whole_of_next hnext⟩
  | none =>
    have hmore : ¬ (s.rest.isEmpty && !s.atLineStart) = true := by simp [hs]
    rw [whole, run, if_neg hmore, hnext] at h
    cases h

/-- What a scan has found is the first of what grammar meets. -/
theorem exists_sentence?_eq {ts : List Token} (h : s.whole.sentence? = some ts) :
    s.whole.complete = true ∧ ∃ more, ts = significant s.found.reverse ++ more := by
  rw [Scanned.sentence?] at h
  split at h
  · next hcomplete =>
    obtain ⟨hwhole, -⟩ := Bool.and_eq_true_iff.1 hcomplete
    obtain ⟨out, hout, -⟩ := exists_runs_of_run hwhole
    refine ⟨hwhole, significant out, ?_⟩
    rw [← Option.some.inj h, ← significant_append, ← hout]
    rfl
  · cases h

end

end Scanner
end Source
end TexWeave
