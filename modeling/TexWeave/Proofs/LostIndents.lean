import TexWeave.Proofs.CommentLines
import TexWeave.Proofs.Indentation

/-!
# Texts whose lines have lost an indentation

An indentation is taken away from every line that begins with it, also where the line goes on with a
literal or stands in brackets.  Put together again, the lines are a text that has lost room.

* `unindented` — the text of the lines that are left.
* `joinLines_stripIndent` — it is what slicing a definition reads.
* `trims_unindented` — it is the text without some of its room.
* `Corresponds` — the depths at which lines of code stand, before and after.
-/

set_option autoImplicit false

namespace TexWeave
namespace Source

open Text Scanner

/-! ## Line by line -/

/-- A property of texts that may be shown line by line. -/
theorem induction_lines {Q : List Char → Prop} (hlast : ∀ l, '\n' ∉ l → Q l)
    (hline : ∀ l r, '\n' ∉ l → Q r → Q (l ++ '\n' :: r)) (cs : List Char) : Q cs := by
  suffices hall : ∀ l, '\n' ∉ l → Q (l ++ cs) from hall [] List.not_mem_nil
  induction cs with
  | nil =>
    intro l hl
    rw [List.append_nil]
    exact hlast l hl
  | cons c r ih =>
    intro l hl
    by_cases hc : c = '\n'
    · rw [hc]
      exact hline l r hl (ih [] List.not_mem_nil)
    · rw [← List.singleton_append, ← List.append_assoc]
      refine ih _ fun hmem ↦ ?_
      rcases List.mem_append.1 hmem with hmem | hmem
      · exact hl hmem
      · exact hc (List.mem_singleton.1 hmem).symm

/-- A text every line of which has lost `p` at its start, if it begins so. -/
def unindented (p cs : List Char) : List Char :=
  (joinLines ((splitLines (String.ofList cs)).map (dropPrefix p))).toList

section

variable {p q l r F Y : List Char} {x : Char}

/-- What slicing a definition reads. -/
theorem joinLines_stripIndent (ls : List String) (hls : ∀ l ∈ ls, IsLine l) (hne : ls ≠ []) :
    (joinLines (stripIndent ls)).toList = unindented (commonIndent ls) (joinLines ls).toList := by
  rw [unindented, String.ofList_toList, splitLines_joinLines_of_isLine hne hls, stripIndent]

theorem unindented_of_line (hl : '\n' ∉ l) :
    unindented p l = (dropPrefix p (String.ofList l)).toList := by
  rw [unindented, splitLines, String.toList_ofList, splitAt_of_not_mem hl]
  rfl

theorem unindented_line (hl : '\n' ∉ l) (r : List Char) : unindented p (l ++ '\n' :: r)
    = (dropPrefix p (String.ofList l)).toList ++ '\n' :: unindented p r := by
  have hne : ((splitAt '\n' r).map String.ofList).map (dropPrefix p) ≠ [] := by
    simp [splitAt_ne_nil]
  rw [unindented, unindented, splitLines, splitLines, String.toList_ofList, String.toList_ofList,
    splitAt_append, splitAt_of_not_mem hl, List.map_append, List.map_append, List.map_singleton,
    List.map_singleton, List.singleton_append, joinLines_cons hne, String.toList_append,
    String.toList_append]
  rfl

theorem unindented_nil (p : List Char) : unindented p [] = [] := by
  rw [unindented_of_line List.not_mem_nil, dropPrefix]
  split
  · rw [String.toList_ofList, String.toList_ofList, List.drop_nil]
  · exact String.toList_ofList

/-- A line that begins with the indentation. -/
theorem unindented_indented (hl : '\n' ∉ q ++ l) (r : List Char) :
    unindented q (q ++ l ++ '\n' :: r) = l ++ '\n' :: unindented q r := by
  rw [unindented_line hl, String.ofList_append]
  have hdrop := dropPrefix_append (String.ofList q) (String.ofList l)
  rw [String.toList_ofList] at hdrop
  rw [hdrop, String.toList_ofList]

/-- The lines of a part of a text lose the same as in the whole text. -/
theorem unindented_append (hF : WholeLines F) (Y : List Char) :
    unindented p (F ++ Y) = unindented p F ++ unindented p Y := by
  induction F using induction_lines with
  | hlast l hl =>
    cases hc : l.getLast? with
    | none => rw [List.getLast?_eq_none_iff.1 hc, unindented_nil, List.nil_append, List.nil_append]
    | some c => exact absurd (hF c hc ▸ List.mem_of_getLast? hc) hl
  | hline l r hl ih =>
    rw [List.append_assoc, List.cons_append, unindented_line hl, unindented_line hl, ih ?_,
      List.append_assoc, List.cons_append]
    exact (List.append_cons l '\n' r ▸ hF : WholeLines ((l ++ ['\n']) ++ r)).of_append

/-! ## Lost room -/

/-- Where a line begins, the text has lost the indentation. -/
abbrev LosesIndent (p r r' : List Char) : Prop := r' = unindented p r

theorem trims_line {G : List Char → List Char → Prop} (hl : '\n' ∉ l) (b : Bool) :
    Trims G b l l := by
  induction l generalizing b with
  | nil => exact .nil
  | cons c l ih =>
    exact .cons (List.ne_of_not_mem_cons hl).symm (ih (List.not_mem_of_not_mem_cons hl) _)

theorem trims_append_newline {G : List Char → List Char → Prop} {r' : List Char} (hl : '\n' ∉ l)
    (hG : G r r') (h : Trims G true r r') (b : Bool) :
    Trims G b (l ++ '\n' :: r) (l ++ '\n' :: r') := by
  induction l generalizing b with
  | nil => exact .next (fun _ ↦ hG) h
  | cons c l ih =>
    exact .cons (List.ne_of_not_mem_cons hl).symm (ih (List.not_mem_of_not_mem_cons hl) _)

theorem trims_room {G : List Char → List Char → Prop} {r' : List Char} (hq : ∀ c ∈ q, IsRoom c)
    (h : Trims G true r r') : Trims G true (q ++ r) r' := by
  induction q with
  | nil => exact h
  | cons c q ih =>
    obtain ⟨hc, hq⟩ := List.forall_mem_cons.1 hq
    exact .drop hc (ih hq)

/-- A line loses the indentation or nothing. -/
theorem toList_dropPrefix_cases (p l : List Char) :
    (∃ m, l = p ++ m ∧ (dropPrefix p (String.ofList l)).toList = m)
      ∨ (dropPrefix p (String.ofList l)).toList = l := by
  rw [dropPrefix, String.toList_ofList]
  split
  · next h =>
    obtain ⟨m, rfl⟩ := List.isPrefixOf_iff_prefix.1 h
    exact .inl ⟨m, rfl, by rw [String.toList_ofList, List.drop_left]⟩
  · exact .inr String.toList_ofList

/-- **Lines that lose an indentation** lose room. -/
theorem trims_unindented (hp : ∀ c ∈ p, IsRoom c) (cs : List Char) :
    Trims (LosesIndent p) true cs (unindented p cs) := by
  induction cs using induction_lines with
  | hlast l hl =>
    rw [unindented_of_line hl]
    rcases toList_dropPrefix_cases p l with ⟨m, rfl, hm⟩ | hm <;> rw [hm]
    · exact trims_room hp (trims_line (fun hmem ↦ hl (List.mem_append_right p hmem)) _)
    · exact trims_line hl _
  | hline l r hl ih =>
    rw [unindented_line hl]
    rcases toList_dropPrefix_cases p l with ⟨m, rfl, hm⟩ | hm <;> rw [hm]
    · have hm : '\n' ∉ m := fun hmem ↦ hl (List.mem_append_right p hmem)
      rw [List.append_assoc]
      exact trims_room hp (trims_append_newline hm (show LosesIndent p r _ from rfl) ih _)
    · exact trims_append_newline hl (show LosesIndent p r _ from rfl) ih _

end

/-! ## Depths -/

/-- Depths of lines of code do not get lost with the room. -/
theorem exists_codeDepth?_of_trims {G : List Char → List Char → Prop} {r r' : List Char}
    {d : Depth} (h : codeDepth? r = some d) (hr : Trims G true r r')
    (hlast : ∀ c ∈ r.getLast?, ¬ IsRoom c) : ∃ d', codeDepth? r' = some d' := by
  obtain ⟨⟨d₁, held, u⟩, hmeasure, hd⟩ := Option.bind_eq_some_iff.1 h
  obtain ⟨used, used', rest', -, -, -, hline, hm⟩ := measure_trims hmeasure hr hlast
  obtain ⟨d₁', held', hm⟩ := hm .zero none
  have hmeasure' := hm { rest := r' } rfl (r'.length + 1) (Nat.lt_succ_self _)
  have halone : isAlone rest' = isAlone u.rest := by rw [isAlone, isAlone, hline.head?_eq]
  refine ⟨settledDepth d₁' held', ?_⟩
  rw [codeDepth?, hmeasure', Option.bind_some]
  dsimp only at hd ⊢
  rw [advance_rest, halone]
  split at hd
  · cases hd
  · next h => rw [if_neg h]

/-- The depth of a line of code between two places of a scan, and what becomes of it.  Only lines
that stand as deep as what they may lose are of interest. -/
def Corresponds (p : List Char) (s e : Scanner) (d d' : Depth) : Prop :=
  (depthAlong .zero p).wide ≤ d.wide
    ∧ ∃ u, (∃ a, Reaches s a u) ∧ (∃ b, Reaches u b e) ∧ u.atLineStart = true ∧ u.brackets = []
      ∧ codeDepth? u.rest = some d ∧ codeDepth? (unindented p u.rest) = some d'

end Source
end TexWeave
