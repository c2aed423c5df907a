import Mathlib.Data.List.Basic
import TexWeave.Log

/-!
# Walking through a log

The walk through a text tries a pattern at every place and goes on behind what it found.  So what is
found behind some place depends on the text before it only through the last thing found there: that
may reach past the place.

* `exists_findAll_append` — characters that are used up have no say in what is found behind them.
* `OpensLine` — a pattern that finds nothing inside of a line, so it finds what opens the lines.
* `exists_of_mem_findAll`, `findAll_map` — what is found, by the places it is found at.
* `after?_append` — whether a text starts so is settled within its first line.
* `restOfLine_append`, `dropWhile_line_append` — a line and what stands behind it.
-/

set_option autoImplicit false

namespace TexWeave

/-! ## Characters passed over -/

theorem exists_findAll_append {α : Type} (p : Pattern α) (b : Option Char) (used cs : List Char) :
    ∃ b', findAll p b used.length (used ++ cs) = findAll p b' 0 cs := by
  induction used generalizing b with
  | nil => exact ⟨b, rfl⟩
  | cons c r ih => exact ih (some c)

/-- A text in which a pattern finds nothing at any place is passed over. -/
theorem exists_findAll_of_none {α : Type} {p : Pattern α} {l rest : List Char}
    (h : ∀ b place, place <:+ l → place ≠ [] → p b (place ++ rest) = none) (b : Option Char) :
    ∃ b', findAll p b 0 (l ++ rest) = findAll p b' 0 rest := by
  induction l generalizing b with
  | nil => exact ⟨b, rfl⟩
  | cons c r ih =>
    have hnone : p b (c :: (r ++ rest)) = none :=
      h b (c :: r) List.suffix_rfl (List.cons_ne_nil c r)
    rw [List.cons_append, findAll, hnone]
    exact ih (fun b place hplace ↦ h b place (hplace.trans (List.suffix_cons c r))) (some c)

/-- The walk goes on behind what a pattern finds. -/
theorem exists_findAll_of_some {α : Type} {p : Pattern α} {b : Option Char} {a : α}
    {used rest : List Char} (h : p b (used ++ rest) = some (a, used.length)) (hused : used ≠ []) :
    ∃ b', findAll p b 0 (used ++ rest) = a :: findAll p b' 0 rest := by
  obtain ⟨c, r, rfl⟩ := List.exists_cons_of_ne_nil hused
  obtain ⟨b', hrest⟩ := exists_findAll_append p (some c) r rest
  rw [List.cons_append] at h
  refine ⟨b', ?_⟩
  rw [List.cons_append, findAll, h, ← hrest]
  rfl

/-- A pattern that finds nothing inside of a line. -/
def OpensLine {α : Type} (p : Pattern α) : Prop :=
  ∀ b cs, atLineStart b = false → p b cs = none

/-- Such a pattern passes over the rest of a line, whatever is still to be skipped of it. -/
theorem OpensLine.exists_findAll_append {α : Type} {p : Pattern α} (hp : OpensLine p)
    {b : Option Char} {skip : Nat} {l : List Char} (cs : List Char) (hb : atLineStart b = false)
    (hline : '\n' ∉ l) (hskip : skip ≤ l.length) :
    ∃ b', findAll p b skip (l ++ cs) = findAll p b' 0 cs := by
  induction l generalizing b skip with
  | nil =>
    rw [List.length_nil, Nat.le_zero] at hskip
    exact ⟨b, by rw [hskip, List.nil_append]⟩
  | cons c r ih =>
    have hc : atLineStart (some c) = false := beq_false_of_ne (List.ne_of_not_mem_cons hline).symm
    have hr : '\n' ∉ r := List.not_mem_of_not_mem_cons hline
    cases skip with
    | zero =>
      obtain ⟨b', h⟩ := ih hc hr (Nat.zero_le _)
      refine ⟨b', ?_⟩
      rw [List.cons_append, findAll, hp b _ hb]
      exact h
    | succ skip => exact ih hc hr (Nat.le_of_succ_le_succ hskip)

/-! ## Places of what is found -/

/-- What is found is found at some place of the text. -/
theorem exists_of_mem_findAll {α : Type} {p : Pattern α} {b : Option Char} {skip : Nat}
    {cs : List Char} {a : α} (h : a ∈ findAll p b skip cs) :
    ∃ b' place used, place <:+ cs ∧ p b' place = some (a, used) := by
  induction cs generalizing b skip with
  | nil =>
    rw [findAll] at h
    exact absurd h List.not_mem_nil
  | cons c r ih =>
    have hbehind (b : Option Char) (skip : Nat) (h : a ∈ findAll p b skip r) :
        ∃ b' place used, place <:+ c :: r ∧ p b' place = some (a, used) := by
      obtain ⟨b', place, used, hplace, hfound⟩ := ih h
      exact ⟨b', place, used, hplace.trans (List.suffix_cons c r), hfound⟩
    cases skip with
    | succ skip => exact hbehind (some c) skip h
    | zero =>
      rw [findAll] at h
      split at h
      · rename_i a' used hfound
        rcases List.mem_cons.1 h with rfl | h
        · exact ⟨b, c :: r, used, List.suffix_rfl, hfound⟩
        · exact hbehind (some c) (used - 1) h
      · exact hbehind (some c) 0 h

/-- Two patterns that use the same characters find the same places. -/
theorem findAll_map {α β : Type} {p : Pattern α} {q : Pattern β} (f : α → β)
    (h : ∀ b cs, q b cs = (p b cs).map fun m ↦ (f m.1, m.2)) (b : Option Char) (skip : Nat)
    (cs : List Char) : findAll q b skip cs = (findAll p b skip cs).map f := by
  induction cs generalizing b skip with
  | nil =>
    rw [findAll, findAll]
    rfl
  | cons c r ih =>
    cases skip with
    | succ skip => exact ih (some c) skip
    | zero =>
      rw [findAll, findAll, h]
      cases p b (c :: r) with
      | none => exact ih (some c) 0
      | some m => exact congrArg (f m.1 :: ·) (ih (some c) (m.2 - 1))

/-! ## Texts that start so -/

section

variable {start : String} {cs l r rest : List Char}

theorem after?_eq_some_iff : after? start cs = some r ↔ cs = start.toList ++ r := by
  rw [after?]
  split
  · rename_i h
    obtain ⟨r', rfl⟩ := List.isPrefixOf_iff_prefix.1 h
    rw [← String.length_toList, List.drop_left, Option.some_inj, List.append_cancel_left_eq]
  · rename_i h
    refine ⟨fun hr ↦ (Option.some_ne_none r hr.symm).elim, fun hr ↦ absurd ?_ h⟩
    rw [List.isPrefixOf_iff_prefix, hr]
    exact List.prefix_append _ _

theorem after?_eq_none_iff : after? start cs = none ↔ ¬ start.toList <+: cs := by
  rw [← List.isPrefixOf_iff_prefix, after?]
  split
  · rename_i h
    exact ⟨fun hr ↦ absurd hr (Option.some_ne_none _), fun hr ↦ absurd h hr⟩
  · rename_i h
    exact ⟨fun _ ↦ h, fun _ ↦ rfl⟩

/-- A text of one line stands at the start of a line or nowhere. -/
theorem after?_append (hstart : '\n' ∉ start.toList) (hrest : ∀ c ∈ rest.head?, c = '\n') :
    after? start (l ++ rest) = (after? start l).map (· ++ rest) := by
  cases hl : after? start l with
  | some r =>
    rw [after?_eq_some_iff] at hl
    rw [Option.map_some, after?_eq_some_iff, hl, List.append_assoc]
  | none =>
    rw [Option.map_none]
    rw [after?_eq_none_iff] at hl ⊢
    rintro ⟨t, ht⟩
    rcases List.append_eq_append_iff.1 ht with ⟨more, rfl, -⟩ | ⟨more, hmore, hr⟩
    · exact hl (List.prefix_append _ _)
    · cases more with
      | nil =>
        rw [List.append_nil] at hmore
        exact hl (hmore ▸ List.prefix_rfl)
      | cons c more =>
        have hc : c = '\n' := hrest c (by rw [hr]; rfl)
        exact hstart (by rw [hmore, hc]; exact List.mem_append_right _ List.mem_cons_self)

end

/-! ## The rest of a line -/

section

variable {u rest : List Char}

theorem all_ne_newline (hu : '\n' ∉ u) : ∀ c ∈ u, (c != '\n') = true := fun c hc ↦ by
  rw [bne_iff_ne]
  exact fun he ↦ hu (he ▸ hc)

theorem restOfLine_append (hu : '\n' ∉ u) (hrest : ∀ c ∈ rest.head?, c = '\n') :
    restOfLine (u ++ rest) = u := by
  rw [restOfLine, List.takeWhile_append_of_pos (all_ne_newline hu)]
  cases rest with
  | nil => exact List.append_nil u
  | cons c rest =>
    rw [hrest c rfl]
    exact List.append_nil u

theorem dropWhile_line_append (hu : '\n' ∉ u) (hrest : ∀ c ∈ rest.head?, c = '\n') :
    (u ++ rest).dropWhile (· != '\n') = rest := by
  rw [List.dropWhile_append_of_pos (all_ne_newline hu)]
  cases rest with
  | nil => rfl
  | cons c rest =>
    rw [hrest c rfl]
    rfl

/-- A text that is put together from lines with a line feed before each starts with a line feed. -/
theorem head?_flatMap_newline (ls : List (List Char)) :
    ∀ c ∈ (ls.flatMap ('\n' :: ·)).head?, c = '\n' := by
  cases ls with
  | nil => exact fun c hc ↦ absurd hc (Option.not_mem_none c)
  | cons l ls => exact fun c hc ↦ (Option.mem_some.1 hc).symm

theorem length_restOfLine_add (cs : List Char) :
    (restOfLine cs).length + (cs.dropWhile (· != '\n')).length = cs.length := by
  rw [restOfLine, ← List.length_append, List.takeWhile_append_dropWhile]

end

end TexWeave
