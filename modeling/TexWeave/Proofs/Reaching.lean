import TexWeave.Proofs.ContinuedLines

/-!
# Scans on their way

The states a scan comes to stand in one order, since each step is settled by the state it starts
from.  So the start of a line and a word in that line can be told apart by the lines they stand on,
and what a scan does up to a line feed does not depend on what stands behind it.

* `Reaches.trans`, `Reaches.comparable` — the order of the states a scan comes to.
* `Reaches.lineStart_eq` — from the start of a line to the first word in it.
* `Reaches.leaving` — a stretch of a text in front of another end.
-/

set_option autoImplicit false

namespace TexWeave
namespace Source

open Form

namespace Scanner

section

variable {s t u : Scanner} {a b ts new : List Token}

/-! ## The order of the states -/

theorem Reaches.same_whole (h : Reaches s a t) : s.whole = t.whole := by
  induction h with
  | here => rfl
  | move _ _ hnext ih => exact (whole_of_next hnext).trans ih

theorem Reaches.trans (h : Reaches s a t) (h' : Reaches t b u) : Reaches s (a ++ b) u := by
  induction h with
  | here => exact h'
  | move hmove _ hnext ih =>
    rw [List.append_assoc]
    exact .move hmove (ih h') hnext

theorem Reaches.concat (h : Reaches s a t) (hmove : Move t new u) (hnext : t.next = some u) :
    Reaches s (a ++ significant new) u := by
  have hlast : Reaches t (significant new ++ []) u := .move hmove .here hnext
  rw [List.append_nil] at hlast
  exact h.trans hlast

theorem Move.unique {new' : List Token} (h : Move s new t) (h' : Move s new' t) : new = new' := by
  have hsame := h.found.symm.trans h'.found
  exact List.reverse_injective (List.append_cancel_right hsame)

/-- Of two states a scan comes to, one comes to the other. -/
theorem Reaches.comparable (h : Reaches s a t) (h' : Reaches s b u) :
    (∃ c, b = a ++ c ∧ Reaches t c u) ∨ ∃ c, a = b ++ c ∧ Reaches u c t := by
  induction h generalizing b with
  | here => exact .inl ⟨b, rfl, h'⟩
  | @move s v t new a hmove hrest hnext ih =>
    cases h' with
    | here => exact .inr ⟨_, rfl, .move hmove hrest hnext⟩
    | move hmove' hrest' hnext' =>
      obtain rfl := Option.some.inj (hnext.symm.trans hnext')
      obtain rfl := hmove.unique hmove'
      rcases ih hrest' with ⟨c, rfl, hc⟩ | ⟨c, rfl, hc⟩
      · exact .inl ⟨c, (List.append_assoc ..).symm, hc⟩
      · exact .inr ⟨c, (List.append_assoc ..).symm, hc⟩

theorem Reaches.line_le (h : Reaches s ts t) : s.line ≤ t.line := by
  obtain ⟨_, -, hline⟩ := h.text
  rw [hline]
  exact Nat.le_add_right _ _

/-! ## Within a line -/

/-- What a token that keeps to its line adds. -/
theorem Step.of_line {fuel : Nat} (h : Step fuel s new t) (hline : t.line = s.line) :
    t.atLineStart = s.atLineStart
      ∧ (significant new = []
        ∨ ∃ front k, significant new = front ++ [k] ∧ k.isLayout = false) := by
  have hsolid {kind : TokenKind} {used : List Char} (hkind : (s.part used kind).isTrivia = false)
      (hlayout : (s.part used kind).isLayout = false) : ∃ front k,
        significant [s.part used kind] = front ++ [k] ∧ k.isLayout = false :=
    ⟨[], _, significant_singleton hkind, hlayout⟩
  cases h with
  | blank => exact ⟨advance_atLineStart .., .inl rfl⟩
  | fold => simp at hline
  | comment => exact ⟨by simp [emit_eq], .inl rfl⟩
  | lineBreak => simp [Scanner.lineBreak, emit_eq] at hline
  | word _ _ hkind =>
    refine ⟨by simp [emit_eq], .inr ?_⟩
    rcases hkind with rfl | rfl <;> exact hsolid rfl rfl
  | literal _ _ hkind =>
    refine ⟨by simp [emit_eq], .inr ?_⟩
    rcases hkind with rfl | rfl | rfl <;> exact hsolid rfl rfl
  | @embedded n used rest expressions inner =>
    refine ⟨by simp, .inr ⟨significant (s.part used .fieldsOpen :: inner.reverse),
      (s.advance used rest).closing, ?_, rfl⟩⟩
    rw [← List.cons_append, significant_append, significant_singleton rfl]
  | operator => exact ⟨by simp [emit_eq], .inr (hsolid rfl rfl)⟩
  | stray => exact ⟨by simp [emit_eq], .inr (hsolid rfl rfl)⟩

/-- **Within a line** a scan stays in the line, and adds more than layout if it adds anything. -/
theorem Reaches.of_line (h : Reaches s ts t) (hs : s.atLineStart = false)
    (hline : t.line ≤ s.line) : t.atLineStart = false
      ∧ (ts = [] ∨ ∃ front k, ts = front ++ [k] ∧ k.isLayout = false) := by
  induction h with
  | here => exact ⟨hs, .inl rfl⟩
  | @move s u t new ts hmove hrest hnext ih =>
    have hfirst := hmove.line_le
    have hmore := hrest.line_le
    cases hmove with
    | start hs' => rw [hs] at hs'; cases hs'
    | token _ hstep =>
      obtain ⟨hu, hnew⟩ := hstep.of_line (by omega)
      obtain ⟨ht, hts⟩ := ih (hu.trans hs) (by omega)
      refine ⟨ht, ?_⟩
      rcases hts with rfl | ⟨front, k, rfl, hk⟩
      · rcases hnew with hnew | ⟨front, k, hnew, hk⟩
        · exact .inl (by rw [hnew]; rfl)
        · exact .inr ⟨front, k, by rw [hnew, List.append_nil], hk⟩
      · exact .inr ⟨_, k, (List.append_assoc ..).symm, hk⟩

/-- **The start of a line and the first word in it**: if a scan comes to both, to the word behind
layout alone, then one step leads from the one to the other. -/
theorem Reaches.lineStart_eq {start : Scanner} {front front' : List Token}
    (h : Reaches start front s) (h' : Reaches start front' t) (hs : s.atLineStart = true)
    (ht : t.atLineStart = false) (hline : s.line = t.line) (hlayout : AfterLayout front') :
    s.lineStart = some t := by
  rcases h.comparable h' with ⟨c, rfl, hc⟩ | ⟨c, rfl, hc⟩
  · cases hc with
    | here => rw [hs] at ht; cases ht
    | @move _ v _ new c hmove hvt hnext =>
      have hstart : s.lineStart = some v := by rwa [next, if_pos hs] at hnext
      have hv := hvt.line_le
      rcases lineStart_stops hstart hs with hv' | ⟨hv', hword⟩
      · -- then the whole line is passed
        cases hmove with
        | token hs' => rw [hs] at hs'; cases hs'
        | start _ hstep =>
          cases hstep with
          | passed => simp at hv; omega
          | last => cases hv'
          | inside => cases hv'
          | arranged => cases hv'
      · have hsv := hmove.line_le
        obtain ⟨-, hnone | ⟨front, k, rfl, hk⟩⟩ := hvt.of_line hv' (by omega)
        · subst hnone
          rw [hstart, hvt.eq_of_meetsWord hv' hword (List.forall_mem_nil _)]
        · rw [← List.append_assoc, ← List.append_assoc] at hlayout
          rw [afterLayout_concat hlayout] at hk
          cases hk
  · obtain ⟨hs', -⟩ := hc.of_line ht (Nat.le_of_eq hline)
    rw [hs] at hs'
    cases hs'

/-! ## Another end -/

/-- **A stretch of a text in front of another end**, as long as that is not longer. -/
theorem Reaches.leaving (h : Reaches s ts t) {w X Y : List Char} (ht : t.rest = w ++ '\n' :: X)
    (hY : Y.length ≤ X.length) : ∃ used, s.rest = used ++ t.rest
      ∧ Reaches (s.leaving (used ++ (w ++ '\n' :: Y))) ts (t.leaving (w ++ '\n' :: Y)) := by
  induction h with
  | here => exact ⟨[], rfl, .here⟩
  | @move s t u new ts hmove hrest hnext ih =>
    obtain ⟨used, hused, hreaches⟩ := ih ht
    obtain ⟨passed, hpassed, -⟩ := hmove.text
    refine ⟨passed ++ used, by rw [hpassed, hused, List.append_assoc], ?_⟩
    rw [ht, ← List.append_assoc] at hused
    rw [hused, ← List.append_assoc] at hpassed
    have hahead := next_ahead (Y := Y) hpassed hused hY hnext
    obtain ⟨new', hmove'⟩ := exists_move_of_next hahead
    obtain rfl : new' = new := by
      refine List.reverse_injective ((List.append_left_inj s.found).1 ?_)
      exact hmove'.found.symm.trans hmove.found
    simp only [List.append_assoc] at hmove' hahead ⊢
    exact .move hmove' hreaches hahead

end

end Scanner
end Source
end TexWeave
