import Mathlib.Data.List.Forall2
import TexWeave.Dump
import TexWeave.Proofs.Indentation

/-!
# Lines without their indentation

The indentation of the first line that is not blank goes from every line that has it, and from no
other.  Then this line stands at the margin, so that there is nothing to remove a second time; and
line feeds dropped at the end of a text only take blank lines away.  So the text of a block is kept
as it is when it is handed in again.

* `Unindents` — what becomes of one line.
* `commonIndent_stripIndent` — what is left stands at the margin.
* `blockText_blockText` — the text of a block is settled the first time.
* `stripIndent_settles` — lines and the entries that keep them.
-/

set_option autoImplicit false

namespace TexWeave
namespace Text

/-! ## One line -/

/-- `m` is what stands behind `p` in `l`, or `l` itself if `p` is not at its start. -/
def Unindents (p : List Char) (l m : String) : Prop :=
  l.toList = p ++ m.toList ∨ ¬ p <+: l.toList ∧ m = l

section

variable {p : List Char} {l m : String} {ls : List String}

theorem unindents_dropPrefix (p : List Char) (l : String) : Unindents p l (dropPrefix p l) := by
  by_cases h : p.isPrefixOf l.toList = true
  · obtain ⟨r, hr⟩ := List.isPrefixOf_iff_prefix.1 h
    refine .inl ?_
    rw [dropPrefix, if_pos h, String.toList_ofList, ← hr, List.drop_left]
  · exact .inr ⟨fun hp ↦ h (List.isPrefixOf_iff_prefix.2 hp), by rw [dropPrefix, if_neg h]⟩

/-- A line stays blank, or not blank, without blanks at its start. -/
theorem Unindents.isBlankLine_eq (h : Unindents p l m) (hp : ∀ c ∈ p, isBlank c = true) :
    isBlankLine m = isBlankLine l := by
  rcases h with h | ⟨-, rfl⟩
  · rw [isBlankLine, isBlankLine, h, List.all_append, List.all_eq_true.2 hp, Bool.true_and]
  · rfl

/-- A line without its whole indentation has none. -/
theorem Unindents.indentOf_eq_nil (h : Unindents (indentOf l) l m) : indentOf m = [] := by
  rcases h with h | ⟨hnot, -⟩
  · have hrest : m.toList = l.toList.dropWhile isBlank := by
      refine (List.append_right_inj (indentOf l)).1 ?_
      rw [← h]
      exact List.takeWhile_append_dropWhile.symm
    rw [indentOf, hrest]
    cases hdrop : l.toList.dropWhile isBlank with
    | nil => rfl
    | cons c r =>
      have hhead := List.head_dropWhile_not isBlank (l := l.toList) (by simp [hdrop])
      exact List.takeWhile_cons_of_neg (by simpa [hdrop] using hhead)
  · exact absurd (List.takeWhile_prefix isBlank) hnot

/-! ## All lines -/

theorem isBlank_of_mem_commonIndent (ls : List String) :
    ∀ c ∈ commonIndent ls, isBlank c = true := by
  intro c hc
  rw [commonIndent] at hc
  cases hfirst : ls.find? fun l ↦ !isBlankLine l with
  | none =>
    rw [hfirst] at hc
    cases hc
  | some first =>
    rw [hfirst] at hc
    exact isBlank_of_mem_indentOf hc

theorem forall₂_stripIndent (ls : List String) :
    List.Forall₂ (Unindents (commonIndent ls)) ls (stripIndent ls) :=
  List.forall₂_map_right_iff.2 <|
    List.forall₂_same.2 fun l _ ↦ unindents_dropPrefix _ l

/-- **What is left stands at the margin.** -/
theorem commonIndent_stripIndent (ls : List String) : commonIndent (stripIndent ls) = [] := by
  have hblank : (fun l ↦ !isBlankLine l) ∘ dropPrefix (commonIndent ls) = fun l ↦ !isBlankLine l :=
    funext fun l ↦ congrArg (!·)
      ((unindents_dropPrefix _ l).isBlankLine_eq (isBlank_of_mem_commonIndent ls))
  rw [commonIndent, stripIndent, List.find?_map, hblank]
  cases hfirst : ls.find? fun l ↦ !isBlankLine l with
  | none => rfl
  | some first =>
    have hcommon : commonIndent ls = indentOf first := by
      rw [commonIndent, hfirst]
      rfl
    rw [hcommon]
    exact (unindents_dropPrefix _ first).indentOf_eq_nil

theorem stripIndent_stripIndent (ls : List String) :
    stripIndent (stripIndent ls) = stripIndent ls :=
  stripIndent_of_commonIndent (commonIndent_stripIndent ls)

/-- Blank lines at the end have no say in the indentation. -/
theorem commonIndent_append_replicate (ls : List String) (k : Nat) :
    commonIndent (ls ++ List.replicate k "") = commonIndent ls := by
  have hblank : (List.replicate k "").find? (fun l ↦ !isBlankLine l) = none := by
    refine List.find?_eq_none.2 fun l hl ↦ ?_
    rw [List.eq_of_mem_replicate hl]
    decide
  rw [commonIndent, List.find?_append, hblank, Option.or_none]
  rfl

end

theorem dropNewlines_dropNewlines (s : String) :
    dropNewlines (dropNewlines s) = dropNewlines s := by
  rw [dropNewlines, dropNewlines, String.toList_ofList, dropEnd_eq_rdropWhile,
    dropEnd_eq_rdropWhile, List.rdropWhile_idempotent]

end Text

open Text

/-! ## The text of a block -/

theorem not_mem_blockText (s : String) : '\r' ∉ (blockText s).toList := by
  intro hmem
  rcases mem_joinWith ((dropNewlines_isPrefix _).subset hmem) with hsep | ⟨l, hl, hc⟩
  · exact absurd hsep (by decide)
  · exact (isLine_of_mem_stripIndent_lines s l hl).2 hc

/-- The lines of the text of a block are those without their indentation, up to blank lines at the
end. -/
theorem exists_lines_blockText (s : String) :
    ∃ k, stripIndent (lines s) = lines (blockText s) ++ List.replicate k "" := by
  obtain ⟨k, hk⟩ := exists_splitLines_dropNewlines (joinLines (stripIndent (lines s)))
  rw [splitLines_joinLines_of_isLine (stripIndent_ne_nil (lines_ne_nil s))
    (isLine_of_mem_stripIndent_lines s)] at hk
  have hlines : lines (blockText s) = splitLines (blockText s) := by
    rw [lines, unifyNewlines_of_not_mem (not_mem_blockText s), splitLines]
  refine ⟨k, ?_⟩
  rw [hlines]
  exact hk

/-- **The text of a block** is settled the first time. -/
theorem blockText_blockText (s : String) : blockText (blockText s) = blockText s := by
  obtain ⟨k, hk⟩ := exists_lines_blockText s
  have hmargin : commonIndent (lines (blockText s)) = [] := by
    rw [← commonIndent_append_replicate _ k, ← hk, commonIndent_stripIndent]
  have hjoin : joinLines (lines (blockText s)) = blockText s := by
    rw [← String.toList_inj, toList_joinLines_lines,
      unifyNewlines_of_not_mem (not_mem_blockText s)]
  calc blockText (blockText s) = dropNewlines (joinLines (lines (blockText s))) := by
        rw [blockText, stripIndent_of_commonIndent hmargin]
    _ = dropNewlines (blockText s) := by rw [hjoin]
    _ = blockText s := dropNewlines_dropNewlines _

/-- The entry made of a text, a heading and a block. -/
theorem TextEntry.make_of_texts (text source : String) (heading : Option String) :
    TextEntry.make (.str text) (Value.ofText? heading) (.str source)
      = .ok ⟨text, heading, some (blockText source)⟩ := by
  cases heading <;> rfl

/-- **Lines without their indentation.**  Of any lines, exactly those that start with the blanks in
front of the first line that is not blank lose them, and the others stay; then the first line that
is not blank begins with no blank, and doing the same again changes nothing.  So an entry made of a
block keeps the same text if it is made of that text. -/
theorem stripIndent_settles :
    (∀ ls : List String, ∃ p,
        (ls.find? (!isBlankLine ·)).elim [] indentOf = p ∧ p.all isBlank
          ∧ List.Forall₂ (Unindents p) ls (stripIndent ls)
          ∧ ((stripIndent ls).find? (!isBlankLine ·)).all (indentOf · == [])
          ∧ stripIndent (stripIndent ls) = stripIndent ls)
      ∧ ∀ (text source : String) (heading : Option String), ∃ kept,
          TextEntry.make (.str text) (Value.ofText? heading) (.str source)
              = .ok ⟨text, heading, some kept⟩
            ∧ TextEntry.make (.str text) (Value.ofText? heading) (.str kept)
              = .ok ⟨text, heading, some kept⟩ := by
  refine ⟨fun ls ↦ ⟨commonIndent ls, ?_, ?_, forall₂_stripIndent ls, ?_,
    stripIndent_stripIndent ls⟩, fun text source heading ↦ ⟨blockText source, ?_, ?_⟩⟩
  · rw [commonIndent]
    cases ls.find? (!isBlankLine ·) <;> rfl
  · exact List.all_eq_true.2 (isBlank_of_mem_commonIndent ls)
  · have hmargin := commonIndent_stripIndent ls
    rw [commonIndent] at hmargin
    cases hfirst : (stripIndent ls).find? (!isBlankLine ·) with
    | none => rfl
    | some first =>
      rw [hfirst] at hmargin
      exact beq_iff_eq.2 hmargin
  · exact TextEntry.make_of_texts text source heading
  · rw [TextEntry.make_of_texts, blockText_blockText]

/-- A tab and a wide blank go from two of the lines, and a blank line that is too short keeps its
tab. -/
example : stripIndent ["", "\t\u3000x", "\t", " y", "\t\u3000\tz"]
    = ["", "x", "\t", " y", "\tz"] := by
  decide

end TexWeave
