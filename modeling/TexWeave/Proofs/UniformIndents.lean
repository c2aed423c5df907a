import TexWeave.Proofs.StatementTexts

/-!
# Statements that are indented with one character

Where all lines of a statement are indented with spaces alone, or all with tabs alone, they compare
in depth as they did once they have lost the indentation of the first.

* `IsUniform` — the lines of a statement are indented so.
* `isAligned_of_isUniform` — they compare as they did.
-/

set_option autoImplicit false

namespace TexWeave
namespace Source

open Text Form Scanner Tree

/-- How wide a space or a tab is at the start of a line. -/
def roomWidth (c : Char) : Nat := if c = '\t' then 8 else 1

/-- Whether the lines of a statement are indented with spaces alone, or with tabs alone. -/
def IsUniform (text : List Char) (s : Tree) (c : Char) : Prop :=
  (c = ' ' ∨ c = '\t') ∧ ∀ u ∈ linesOf text s,
    ∃ k x r, u.rest = List.replicate k c ++ x :: r ∧ ¬ IsRoom x ∧ x ≠ '\\'

section

variable {text : List Char} {s t : Tree} {c : Char}

theorem depthAlong_replicate (hc : c = ' ' ∨ c = '\t') (k : Nat) :
    depthAlong .zero (List.replicate k c) = ⟨roomWidth c * k, k⟩ := by
  induction k with
  | zero => rfl
  | succ k ih =>
    have hlast : depthAlong .zero (List.replicate k c ++ [c])
        = depthAlong (depthAlong .zero (List.replicate k c)) [c] := List.foldl_append
    rw [List.replicate_succ', hlast, ih]
    rcases hc with rfl | rfl
    · rfl
    · exact congrArg₂ Depth.mk (show (8 * k / 8 + 1) * 8 = 8 * (k + 1) by omega) rfl

theorem depth_lt_iff (hc : c = ' ' ∨ c = '\t') {m k j : Nat} (hk : m ≤ k) (hj : m ≤ j) :
    (roomWidth c * k < roomWidth c * j ↔ roomWidth c * (k - m) < roomWidth c * (j - m)) := by
  have hpos : 0 < roomWidth c := by rcases hc with rfl | rfl <;> decide
  rw [Nat.mul_lt_mul_left hpos, Nat.mul_lt_mul_left hpos]
  omega

/-- What becomes of the depth of a line that is indented with one character. -/
theorem codeDepth?_unindented (hc : c = ' ' ∨ c = '\t') {m k : Nat} {x : Char} {r : List Char}
    (hx : IsIndented [] x) (hr : '\n' ∈ r) (hm : m ≤ k) :
    codeDepth? (unindented (List.replicate m c) (List.replicate k c ++ x :: r))
      = some ⟨roomWidth c * (k - m), k - m⟩ := by
  have hroom : IsRoom c := hc.imp_right .inl
  have hfeed (n : Nat) : '\n' ∉ List.replicate n c := fun hmem ↦
    ne_newline_of_isRoom hroom (List.eq_of_mem_replicate hmem).symm
  have hindented : IsIndented (List.replicate (k - m) c) x :=
    ⟨fun y hy ↦ List.eq_of_mem_replicate hy ▸ hroom, hx.code, hx.opens⟩
  obtain ⟨l, R, rfl, hl⟩ := List.eq_append_cons_of_mem hr
  have hline : '\n' ∉ List.replicate m c ++ (List.replicate (k - m) c ++ x :: l) := by
    simp only [List.mem_append, List.mem_cons, not_or]
    exact ⟨hfeed m, hfeed _, Ne.symm hx.ne_newline, hl⟩
  have hsplit : List.replicate k c ++ x :: (l ++ '\n' :: R)
      = List.replicate m c ++ (List.replicate (k - m) c ++ x :: l) ++ '\n' :: R := by
    rw [← List.append_assoc, List.replicate_append_replicate, Nat.add_sub_cancel' hm,
      List.append_assoc, List.cons_append]
  rw [hsplit, unindented_indented hline, List.append_assoc, List.cons_append,
    codeDepth?_of_code hindented, depthAlong_replicate hc]

/-- The lines of a statement stand as many characters deeper than the first as before. -/
theorem depth_of_mem_depthsOf (hfile : IsFile text) {m : Nat} (h : IsUniform text s c)
    (hp : indentation (splitLines (String.ofList text)) s = List.replicate m c)
    {x : Depth × Depth} (hx : x ∈ depthsOf text s) : ∃ k, m ≤ k
      ∧ x = (⟨roomWidth c * k, k⟩, ⟨roomWidth c * (k - m), k - m⟩) := by
  obtain ⟨hc, hlines⟩ := h
  have hroom : IsRoom c := hc.imp_right .inl
  have hpos : 0 < roomWidth c := by rcases hc with rfl | rfl <;> decide
  obtain ⟨u, hu, hd⟩ := List.mem_filterMap.1 hx
  obtain ⟨k, y, r, hrest, hy, hslash⟩ := hlines u hu
  obtain ⟨-, -, before, hbefore⟩ := mem_lineStarts.1 (List.mem_of_mem_filter hu)
  have hends : WholeLines u.rest := wholeLines_of_reaches (hfile.closed_eq.symm ▸ hbefore)
  obtain ⟨d, hdepth, hd⟩ := Option.bind_eq_some_iff.1 hd
  have hindented (n : Nat) : ∀ z ∈ List.replicate n c, IsRoom z := fun z hz ↦
    List.eq_of_mem_replicate hz ▸ hroom
  rw [hrest, codeDepth?_of_room (hindented k) hy hslash, depthAlong_replicate hc] at hdepth
  split at hdepth
  · cases hdepth
  next halone =>
  cases hdepth
  rw [hp, depthAlong_replicate hc] at hd
  split at hd
  · next hle =>
    have hm : m ≤ k := Nat.le_of_mul_le_mul_left hle hpos
    have hmargin : IsIndented [] y :=
      ⟨List.forall_mem_nil _, hy, by simpa [isAlone, hslash] using halone⟩
    have hr : '\n' ∈ r := by
      obtain ⟨G, hG⟩ := hends.eq_nil_or.resolve_left (by simp [hrest])
      have hmem : '\n' ∈ List.replicate k c ++ y :: r :=
        hrest ▸ hG ▸ List.mem_append_right G (List.mem_singleton_self _)
      rcases List.mem_append.1 hmem with hmem | hmem
      · exact absurd rfl (ne_newline_of_isRoom (hindented k _ hmem))
      · exact (List.mem_cons.1 hmem).resolve_left hmargin.ne_newline.symm
    rw [hrest, codeDepth?_unindented hc hmargin hr hm] at hd
    exact ⟨k, hm, (Option.some.inj hd).symm⟩
  · cases hd

/-- Room in front of what is none. -/
theorem room_eq {p q r r' : List Char} {x y : Char} (h : p ++ x :: r = q ++ y :: r')
    (hp : ∀ c ∈ p, IsRoom c) (hq : ∀ c ∈ q, IsRoom c) (hx : ¬ IsRoom x) (hy : ¬ IsRoom y) :
    p = q := by
  rcases List.append_eq_append_iff.1 h with ⟨w, rfl, hw⟩ | ⟨w, rfl, hw⟩
  · cases w with
    | nil => rw [List.append_nil]
    | cons c w => exact absurd (hq c (by simp)) ((List.cons.inj hw).1 ▸ hx)
  · cases w with
    | nil => rw [List.append_nil]
    | cons c w => exact absurd (hp c (by simp)) ((List.cons.inj hw).1 ▸ hy)

/-- **Lines that are indented with one character compare as they did.** -/
theorem isAligned_of_isUniform (hfile : IsFile text) (hread : readText text = .ok t)
    (hs : s ∈ t.definitions) (hopens : ∃ u ∈ lineStarts text, u.line = s.firstLine)
    (h : IsUniform text s c) : IsAligned text s := by
  obtain ⟨q, ts, e, X, closing, f, behind, hstretch, -⟩ := exists_nestedStretch hread hs
  rw [hfile.closed_eq] at hstretch
  obtain ⟨b, hb, hline⟩ := hopens
  have hopen := mem_lineStarts.1 hb
  obtain ⟨p, x, r, hp, hx, hrest⟩ := hstretch.exists_indented hopen hline
  have hindent := indentation_eq hopen hline hp hx hrest
  have hmem : b ∈ linesOf text s := by
    refine List.mem_filter.2 ⟨hb, ?_⟩
    rw [Bool.and_eq_true, decide_eq_true_eq, decide_eq_true_eq, hline, hstretch.feedLine_eq,
      hstretch.firstLine_eq]
    exact ⟨le_rfl, hstretch.reaches.line_le⟩
  obtain ⟨m, y, r', hrest', hy, -⟩ := h.2 b hmem
  have hroom : ∀ z ∈ List.replicate m c, IsRoom z := fun z hz ↦
    List.eq_of_mem_replicate hz ▸ h.1.imp_right .inl
  rw [room_eq (hrest.symm.trans hrest') hp.room hroom hp.code hy] at hindent
  have hdepth {x : Depth × Depth} (hx : x ∈ depthsOf text s) :=
    depth_of_mem_depthsOf hfile h hindent hx
  refine ⟨⟨b, hb, hline⟩, fun x hx y hy ↦ ?_, fun x hx y hy ↦ ?_⟩
  · obtain ⟨k, hk, rfl⟩ := hdepth hx
    obtain ⟨j, hj, rfl⟩ := hdepth hy
    exact depth_lt_iff h.1 hk hj
  · obtain ⟨k, hk, rfl⟩ := hdepth hx
    obtain ⟨j, hj, rfl⟩ := hdepth hy
    dsimp only
    omega

end
end Source
end TexWeave
