import TexWeave.Proofs.Resuming

/-!
# A text further down

Lines are counted and never looked at.  So a text that begins some lines further down has the same
tokens, and only their lines differ.

* `Token.down`, `down` — a token and a scan some lines further down.
* `token_down`, `next_down` — one token, and one move.
* `whole_down` — a scan to its end.
-/

set_option autoImplicit false

namespace TexWeave
namespace Source

/-- The token some lines further down. -/
def Token.down (n : Nat) (t : Token) : Token :=
  { t with line := t.line + n, endLine := t.endLine + n }

/-- The tokens of a text some lines further down. -/
def Scanned.down (n : Nat) (s : Scanned) : Scanned := ⟨s.tokens.map (Token.down n), s.complete⟩

namespace Scanner

/-- The scan some lines further down. -/
def down (n : Nat) (s : Scanner) : Scanner :=
  { s with line := s.line + n, found := s.found.map (Token.down n) }

section

variable (k : Nat) (s : Scanner)

@[simp] theorem down_rest : (s.down k).rest = s.rest := rfl

@[simp] theorem down_line : (s.down k).line = s.line + k := rfl

@[simp] theorem down_column : (s.down k).column = s.column := rfl

@[simp] theorem down_atLineStart : (s.down k).atLineStart = s.atLineStart := rfl

@[simp] theorem down_depths : (s.down k).depths = s.depths := rfl

@[simp] theorem down_brackets : (s.down k).brackets = s.brackets := rfl

@[simp] theorem down_found : (s.down k).found = s.found.map (Token.down k) := rfl

theorem advance_down (passed rest : List Char) :
    (s.down k).advance passed rest = (s.advance passed rest).down k := by
  rw [advance_eq, advance_eq, down_line, Nat.add_right_comm]
  rfl

theorem emit_down (kind : TokenKind) (passed rest : List Char) :
    (s.down k).emit kind passed rest = (s.emit kind passed rest).down k := by
  rw [emit, emit, advance_down]
  rfl

theorem mark_down (kind : TokenKind) : (s.down k).mark kind = (s.mark kind).down k := rfl

theorem comment_down : (s.down k).comment = s.comment.down k := by
  rw [comment, comment, down_rest]
  split
  · exact emit_down k s _ _ _
  · rfl

/-! ## Starts of lines -/

theorem measure_down (fuel : Nat) (d : Depth) (held : Option Depth) :
    measure fuel d held (s.down k)
      = (measure fuel d held s).map fun m ↦ (m.1, m.2.1, m.2.2.down k) := by
  induction fuel generalizing d held s with
  | zero => rfl
  | succ fuel ih =>
    unfold measure
    rw [down_rest]
    split
    · rw [advance_down, ih]
    · rw [advance_down, ih]
    · rw [advance_down, ih]
    · rw [advance_down, ih]
    · rfl
    · rfl

theorem closeBlocks_down (d : Depth) (depths : List Depth) :
    closeBlocks d depths (s.down k)
      = ((closeBlocks d depths s).1, (closeBlocks d depths s).2.down k) := by
  induction depths generalizing s with
  | nil => rfl
  | cons top below ih =>
    rw [closeBlocks, closeBlocks]
    split
    · rw [mark_down, ih]
    · rfl

theorem arrange_down (d : Depth) : arrange d (s.down k) = (arrange d s).map (·.down k) := by
  rw [arrange, arrange, down_depths, closeBlocks_down]
  dsimp only
  split_ifs <;> rfl

theorem lineStart_down : (s.down k).lineStart = s.lineStart.map (·.down k) := by
  rw [lineStart, lineStart, down_rest, measure_down]
  cases measure (s.rest.length + 1) .zero none s with
  | none => rfl
  | some m =>
    obtain ⟨depth, held, t⟩ := m
    simp only [Option.map_some, Option.bind_eq_bind, Option.bind_some, down_rest, down_brackets,
      comment_down]
    split
    · split
      · rw [emit_down]; rfl
      · rfl
    · split
      · rfl
      · rw [arrange_down, Option.map_map, Option.map_map]
        rfl

/-! ## Tokens -/

theorem lineBreak_down (r : List Char) : (s.down k).lineBreak r = (s.lineBreak r).down k := by
  rw [lineBreak, lineBreak, emit_down, down_brackets]
  rfl

theorem word_down (cs : List Char) : (s.down k).word cs = (s.word cs).map (·.down k) := by
  rw [word, word, emit_down, down_rest]
  split_ifs <;> rfl

theorem operator_down (o : String) : (s.down k).operator o = (s.operator o).map (·.down k) := by
  rw [operator, operator, emit_down, down_rest, down_brackets]
  split_ifs
  · rfl
  · rfl
  · cases s.brackets with
    | nil => rfl
    | cons b below =>
      dsimp only
      split_ifs <;> rfl
  · rfl

theorem number_down (split : Option Split) :
    number split (s.down k) = (number split s).map (·.down k) := by
  rw [number, number, Option.map_map]
  exact congrArg (Option.map · split) (funext fun p ↦ emit_down k s _ _ _)

/-- The tokens of expressions, if the fuel given is enough for their lines not to matter. -/
def FieldsDown (fuel : Nat) : Prop :=
  ∀ line es, fields fuel (line + k) es = (fields fuel line es).map (List.map (Token.down k))

theorem string_down_of_fields {fuel : Nat} (h : ∀ n < fuel, FieldsDown k n) (sort : StringSort)
    (opening : List Char) (q : Char) (r : List Char) : string fuel sort opening q r (s.down k)
      = (string fuel sort opening q r s).map (·.down k) := by
  cases fuel with
  | zero => rfl
  | succ fuel =>
    rw [string, string, down_line]
    cases closeString q r with
    | none => rfl
    | some split =>
      obtain ⟨body, rest⟩ := split
      dsimp only [Option.bind_some]
      rw [emit_down, emit_down, emit_down, advance_down]
      split_ifs
      · rfl
      · rfl
      · cases fieldExpressions sort.raw body with
        | none => rfl
        | some expressions =>
          dsimp only [Option.bind_eq_bind, Option.bind_some]
          rw [h fuel (Nat.lt_succ_self fuel) s.line expressions]
          cases fields fuel s.line expressions with
          | none => rfl
          | some inner =>
            dsimp only [Option.map_some, Option.bind_some, Option.pure_def, down]
            rw [List.map_cons, List.map_append]
            rfl
      · rfl
      · rfl

theorem token_down_of_fields {fuel : Nat} (h : ∀ n < fuel, FieldsDown k n) :
    token fuel (s.down k) = (token fuel s).map (·.down k) := by
  cases fuel with
  | zero => rfl
  | succ fuel =>
    have hstring := string_down_of_fields k s fun n hn ↦ h n (Nat.lt_succ_of_lt hn)
    rw [token, token, down_rest]
    cases hrest : s.rest with
    | nil => rfl
    | cons c r =>
      dsimp only
      simp only [advance_down, comment_down, hstring, number_down, word_down, operator_down,
        emit_down, lineBreak_down]
      split_ifs
      · rfl
      · rfl
      · rfl
      · split <;> rfl
      · split
        · split_ifs
          · split <;> rfl
          · rfl
        · rfl
      · rfl
      · rfl
      · rfl
      · split <;> rfl

/-- **The expressions in fields** are scanned alike on every line. -/
theorem inner_down (fuel : Nat) : FieldsDown k fuel
    ∧ ∀ s : Scanner, inside fuel (s.down k) = (inside fuel s).map (List.map (Token.down k)) := by
  induction fuel using Nat.strong_induction_on with
  | h fuel ih =>
    cases fuel with
    | zero => exact ⟨fun _ _ ↦ rfl, fun _ ↦ rfl⟩
    | succ fuel =>
      have hlt := Nat.lt_succ_self fuel
      refine ⟨fun line es ↦ ?_, fun s ↦ ?_⟩
      · cases es with
        | nil => rfl
        | cons e es =>
          have hinside := (ih fuel hlt).2
            { rest := '(' :: (e ++ [')']), line := line, atLineStart := false }
          rw [fields, fields, (ih fuel hlt).1 line es]
          dsimp only [Option.bind_eq_bind]
          refine (congrArg (Option.bind · _) hinside).trans ?_
          cases inside fuel { rest := '(' :: (e ++ [')']), line := line, atLineStart := false } with
          | none => rfl
          | some tokens =>
            cases fields fuel line es with
            | none => rfl
            | some more => exact congrArg some (List.map_append ..).symm
      · rw [inside, inside, down_rest, down_brackets,
          token_down_of_fields k s fun n hn ↦ (ih n (hn.trans hlt)).1]
        split_ifs
        · rfl
        · rfl
        · cases token fuel s with
          | none => rfl
          | some t => exact (ih fuel hlt).2 { t with atLineStart := false }

theorem token_down (fuel : Nat) : token fuel (s.down k) = (token fuel s).map (·.down k) :=
  token_down_of_fields k s fun n _ ↦ (inner_down k n).1

/-! ## Moves -/

theorem next_down : (s.down k).next = s.next.map (·.down k) := by
  rw [next, next, down_atLineStart, down_rest]
  split
  · exact lineStart_down k s
  · exact token_down k s _

theorem finish_down : run.finish (s.down k) = (run.finish s).down k := by
  rw [run.finish, run.finish, mark_down, down_found, ← List.map_reverse, down_brackets]
  rfl

theorem stop_down : (⟨(s.down k).found.reverse, false⟩ : Scanned)
    = Scanned.down k ⟨s.found.reverse, false⟩ := by
  rw [down_found, ← List.map_reverse, Scanned.down]

theorem run_down (fuel : Nat) : run fuel (s.down k) = (run fuel s).down k := by
  induction fuel generalizing s with
  | zero => exact stop_down k s
  | succ fuel ih =>
    rw [run, run, next_down, down_rest, down_atLineStart]
    split
    · exact finish_down k s
    · cases s.next with
      | none => exact stop_down k s
      | some t => exact ih t

/-- **A text some lines further down** has the same tokens, some lines further down. -/
theorem whole_down : (s.down k).whole = s.whole.down k := run_down k s _

end

end Scanner
end Source
end TexWeave
