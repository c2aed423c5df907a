import TexWeave.Proofs.Placement

/-!
# What a scan has behind it

The state of a scan under way can be read off the characters it has passed and the tokens they
made: its line and its column from the characters, and from the tokens how many blocks are open.
The last token that is more than layout ends in front of what was passed since.

* `columnAfter_eq_zero` — at the start of a line the column is zero.
* `Step.last` — where the last token of a step ends.
* `Tracks` — the state of a scan; `Tracks.move` and `Tracks.reaches` carry it along.
-/

set_option autoImplicit false

namespace TexWeave
namespace Source

open Form

namespace Scanner

/-! ## Columns -/

theorem columnAfter_append (column : Nat) (u v : List Char) :
    columnAfter column (u ++ v) = columnAfter (columnAfter column u) v :=
  List.foldl_append

theorem columnAfter_eq_zero {u : List Char} (h : lineHead u = []) : columnAfter 0 u = 0 := by
  cases u using List.reverseRecOn with
  | nil => rfl
  | append_singleton u c =>
    rw [columnAfter_append]
    by_cases hc : c = '\n'
    · rw [hc]
      rfl
    · rw [lineHead_concat hc] at h
      exact absurd h (List.append_ne_nil_of_right_ne_nil _ (List.cons_ne_nil c []))

/-! ## The last token -/

/-- The last token that is more than layout. -/
def lastWord? (ts : List Token) : Option Token := ts.reverse.find? fun k ↦ !k.isLayout

theorem lastWord?_append (a b : List Token) :
    lastWord? (a ++ b) = (lastWord? b).or (lastWord? a) := by
  rw [lastWord?, List.reverse_append, List.find?_append]
  rfl

theorem lastWord?_of_layout {ts : List Token} (h : ∀ k ∈ ts, k.isLayout = true) :
    lastWord? ts = none :=
  List.find?_eq_none.2 fun k hk ↦ by simp [h k (List.mem_reverse.1 hk)]

theorem lastWord?_append_of_layout {ts : List Token} (h : ∀ k ∈ ts, k.isLayout = true)
    (before : List Token) : lastWord? (before ++ ts) = lastWord? before := by
  rw [lastWord?_append, lastWord?_of_layout h, Option.none_or]

theorem lastWord?_concat {k : Token} (hk : k.isLayout = false) (before : List Token) :
    lastWord? (before ++ [k]) = some k := by
  have hlast : lastWord? [k] = some k := List.find?_cons_of_pos (by simp [hk])
  rw [lastWord?_append, hlast, Option.some_or]

theorem exists_lastWord? {k : Token} {ts : List Token} (hk : k.isLayout = false) (h : k ∈ ts) :
    ∃ j, lastWord? ts = some j := by
  cases hlast : lastWord? ts with
  | some j => exact ⟨j, rfl⟩
  | none =>
    have hnone := List.find?_eq_none.1 hlast k (List.mem_reverse.2 h)
    simp [hk] at hnone

section

variable {s t : Scanner} {new : List Token}

theorem closesLiteral_of_forall {used : List Char} (hne : used ≠ [])
    (h : ∀ c ∈ used, c ≠ '\n') : ClosesLiteral used := by
  cases used using List.reverseRecOn with
  | nil => exact absurd rfl hne
  | append_singleton r c => exact ⟨r, c, rfl, h c (List.mem_append_right r List.mem_cons_self)⟩

/-- **Where the last token of a step ends**: behind a character that is no line feed. -/
theorem Step.last {fuel : Nat} (h : Step fuel s new t) :
    (∀ k ∈ significant new, k.isLayout = true)
      ∨ ∃ front k v c, significant new = front ++ [k] ∧ k.isLayout = false
        ∧ s.rest = v ++ c :: t.rest ∧ c ≠ '\n' ∧ k.endLine = s.line + v.count '\n' := by
  have hpart {kind : TokenKind} {used : List Char} {u : Scanner}
      (hkind : (s.part used kind).isTrivia = false) (hlayout : (s.part used kind).isLayout = false)
      (hrest : s.rest = used ++ u.rest) (hcloses : ClosesLiteral used) :
      ∃ front k v c, significant [s.part used kind] = front ++ [k] ∧ k.isLayout = false
        ∧ s.rest = v ++ c :: u.rest ∧ c ≠ '\n' ∧ k.endLine = s.line + v.count '\n' := by
    obtain ⟨v, c, rfl, hc⟩ := hcloses
    refine ⟨[], s.part (v ++ [c]) kind, v, c, significant_singleton hkind, hlayout, ?_, hc, ?_⟩
    · rw [hrest, List.append_assoc, List.singleton_append]
    · rw [part, List.count_append, List.count_singleton, if_neg (by simpa using hc), Nat.add_zero]
  cases h with
  | blank => exact .inl (List.forall_mem_nil _)
  | fold => exact .inl (List.forall_mem_nil _)
  | comment => exact .inl (List.forall_mem_nil _)
  | lineBreak =>
    refine .inl ?_
    cases hbrackets : s.brackets.isEmpty with
    | false => exact List.forall_mem_nil _
    | true => exact List.forall_mem_singleton.2 rfl
  | @word kind used rest hrest hne hkind hlike =>
    have hcloses := closesLiteral_of_forall hne fun c hc hfeed ↦
      absurd (hfeed ▸ hlike c hc) (by decide)
    rcases hkind with rfl | rfl
    · exact .inr (hpart rfl rfl (by simpa [emit_eq] using hrest) hcloses)
    · exact .inr (hpart rfl rfl (by simpa [emit_eq] using hrest) hcloses)
  | @literal kind used rest hrest _ hkind hcloses =>
    rcases hkind with rfl | rfl | rfl
    · exact .inr (hpart rfl rfl (by simpa [emit_eq] using hrest) hcloses)
    · exact .inr (hpart rfl rfl (by simpa [emit_eq] using hrest) hcloses)
    · exact .inr (hpart rfl rfl (by simpa [emit_eq] using hrest) hcloses)
  | @embedded n used rest expressions inner hrest _ _ _ hcloses =>
    obtain ⟨v, c, rfl, hc⟩ := hcloses
    refine .inr ⟨significant (s.part (v ++ [c]) .fieldsOpen :: inner.reverse),
      (s.advance (v ++ [c]) rest).closing, v, c, ?_, rfl, ?_, hc, ?_⟩
    · rw [← List.cons_append, significant_append, significant_singleton rfl]
    · simpa using hrest
    · rw [closing, advance_line, List.count_append, List.count_singleton,
        if_neg (by simpa using hc), Nat.add_zero]
  | @operator o rest brackets ho hrest =>
    have hfeed : ∀ o ∈ operators.flatten, o.toList ≠ [] ∧ '\n' ∉ o.toList := by decide
    obtain ⟨hne, hnewline⟩ := hfeed o ho
    have hcloses := closesLiteral_of_forall hne fun c hc hfeed ↦ hnewline (hfeed ▸ hc)
    exact .inr (hpart rfl rfl (by simpa [emit_eq] using hrest) hcloses)
  | @stray c rest hrest hc =>
    exact .inr (hpart rfl rfl (by simpa [emit_eq] using hrest) ⟨[], c, rfl, hc⟩)

end

/-! ## The state of a scan -/

/-- The scan stands in the text behind the characters `u`, which made the tokens `before`. -/
structure Tracks (text u : List Char) (before : List Token) (s : Scanner) : Prop where
  text_eq : text = u ++ s.rest
  line_eq : s.line = 1 + u.count '\n'
  column_eq : s.column = columnAfter 0 u
  walk_eq : walk blockCost 0 before = some s.depths.length
  /-- The blocks under way are deeper than a line without indentation. -/
  deep : ∀ d ∈ s.depths, 0 < d.wide
  /-- The last token ends with a character that is no line feed, on the line of this character. -/
  ends : ∀ k, lastWord? before = some k →
    ∃ v c w, u = v ++ c :: w ∧ c ≠ '\n' ∧ k.endLine = 1 + v.count '\n'

theorem tracks_start (text : List Char) : Tracks text [] [] { rest := text } where
  text_eq := rfl
  line_eq := rfl
  column_eq := rfl
  walk_eq := rfl
  deep := List.forall_mem_nil _
  ends _ h := by cases h

section

variable {text u : List Char} {before new : List Token} {s t : Scanner}

theorem isLayout_of_areMarks {line : Nat} (h : AreMarks line new) :
    ∀ k ∈ new, k.isLayout = true := by
  intro k hk
  rcases (h k hk).1 with hkind | hkind <;> rw [Token.isLayout, hkind]

/-- What a move does to the blocks under way. -/
theorem Move.depths (h : Move s new t) :
    walk blockCost s.depths.length (significant new) = some t.depths.length
      ∧ ((∀ d ∈ s.depths, 0 < d.wide) → ∀ d ∈ t.depths, 0 < d.wide) := by
  cases h with
  | token _ h =>
    rw [h.depths]
    exact ⟨walk_of_flat _ (fun k hk ↦ h.flat k (List.mem_of_mem_filter hk)) _, id⟩
  | start _ h =>
    cases h with
    | passed _ hnew =>
      rw [significant_of_areTrivia hnew, adding_depths, advance_depths]
      exact ⟨rfl, id⟩
    | last hnew =>
      rw [significant_of_areTrivia hnew]
      simp only [adding_depths, advance_depths]
      exact ⟨rfl, id⟩
    | inside =>
      simp only [advance_depths]
      exact ⟨rfl, id⟩
    | arranged _ _ _ hmarks harranges =>
      rw [significant_of_areMarks hmarks]
      exact ⟨harranges.walk_eq, harranges.deep⟩

/-- Where the last token of a move ends. -/
theorem Move.last (h : Move s new t) :
    (∀ k ∈ significant new, k.isLayout = true)
      ∨ ∃ front k v c, significant new = front ++ [k] ∧ k.isLayout = false
        ∧ s.rest = v ++ c :: t.rest ∧ c ≠ '\n' ∧ k.endLine = s.line + v.count '\n' := by
  cases h with
  | token _ h => exact h.last
  | start _ h =>
    refine .inl ?_
    cases h with
    | passed _ hnew =>
      rw [significant_of_areTrivia hnew]
      exact List.forall_mem_nil _
    | last hnew =>
      rw [significant_of_areTrivia hnew]
      exact List.forall_mem_nil _
    | inside => exact List.forall_mem_nil _
    | arranged _ _ _ hmarks =>
      rw [significant_of_areMarks hmarks]
      exact isLayout_of_areMarks hmarks

theorem Tracks.move (h : Tracks text u before s) (hmove : Move s new t) :
    ∃ u', Tracks text u' (before ++ significant new) t := by
  obtain ⟨used, hused, hline, hcolumn⟩ := hmove.text
  obtain ⟨hwalk, hdeep⟩ := hmove.depths
  refine ⟨u ++ used, ?_, ?_, ?_, ?_, hdeep h.deep, fun k hk ↦ ?_⟩
  · rw [h.text_eq, hused, List.append_assoc]
  · rw [hline, h.line_eq, List.count_append, Nat.add_assoc]
  · rw [hcolumn, h.column_eq, columnAfter_append]
  · rw [walk_append, h.walk_eq, Option.bind_some, hwalk]
  · rcases hmove.last with hlayout | ⟨front, j, v, c, hnew, hj, hrest, hc, hend⟩
    · rw [lastWord?_append_of_layout hlayout] at hk
      obtain ⟨v, c, w, rfl, hc, hend⟩ := h.ends k hk
      exact ⟨v, c, w ++ used, by rw [List.append_assoc, List.cons_append], hc, hend⟩
    · rw [hnew, ← List.append_assoc, lastWord?_concat hj] at hk
      cases hk
      have hpassed : used = v ++ [c] := by
        rw [hused, List.append_cons] at hrest
        exact List.append_cancel_right hrest
      refine ⟨u ++ v, c, [], by rw [hpassed, List.append_assoc], hc, ?_⟩
      rw [hend, h.line_eq, List.count_append, Nat.add_assoc]

theorem Tracks.reaches {ts : List Token} (h : Tracks text u before s) (hreaches : Reaches s ts t) :
    ∃ u', Tracks text u' (before ++ ts) t := by
  induction hreaches generalizing u before with
  | here => exact ⟨u, by rwa [List.append_nil]⟩
  | move hmove _ _ ih =>
    obtain ⟨u', hu'⟩ := h.move hmove
    rw [← List.append_assoc]
    exact ih hu'

end

end Scanner
end Source
end TexWeave
