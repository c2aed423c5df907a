import TexWeave.Proofs.Fields
import TexWeave.Proofs.LiteralsAhead
import TexWeave.Proofs.Placement

/-!
# Literals in a text whose lines lose room

If room is taken away at the start of some lines of a text, then a string that goes on for several
of these lines still ends with the same quote, its escapes are still in order, and its fields hold
the same expressions, which have lost the same room.

* `Trims` — one text is another without some of the room at the start of its lines.
* `TrimsSplit` — a literal that ends at the same character in both texts.
* `trims_closeString`, `Trims.escapesOk`, `Trims.bytesOk` — strings and their escapes.
* `Trims.fieldExpressions` — the expressions of fields.
-/

set_option autoImplicit false

namespace TexWeave
namespace Source

open Scanner

/-! ## Texts that lose room -/

/-- The second text is the first without some of the room at the start of its lines.  The flag tells
whether the texts begin where room may be lost, and `G` is known of what stands behind each line
feed. -/
inductive Trims (G : List Char → List Char → Prop) : Bool → List Char → List Char → Prop
  | nil {b : Bool} : Trims G b [] []
  | drop {c : Char} {r r' : List Char} (hc : IsRoom c) (h : Trims G true r r') :
      Trims G true (c :: r) r'
  | next {b : Bool} {c : Char} {r r' : List Char} (hG : c = '\n' → G r r')
      (h : Trims G (c == '\n') r r') : Trims G b (c :: r) (c :: r')

/-- Nothing is known of what stands behind line feeds. -/
abbrev Loosely : Bool → List Char → List Char → Prop := Trims fun _ _ ↦ True

section

variable {G : List Char → List Char → Prop} {b : Bool} {c : Char} {r r' t : List Char}

theorem trims_refl (hG : ∀ r, G r r) (b : Bool) (r : List Char) : Trims G b r r := by
  induction r generalizing b with
  | nil => exact .nil
  | cons c r ih => exact .next (fun _ ↦ hG r) (ih _)

/-- It does no harm to allow that room is lost. -/
theorem Trims.loosen (h : Trims G b r t) : Trims G true r t := by
  cases h with
  | nil => exact .nil
  | drop hc h => exact .drop hc h
  | next hG h => exact .next hG h

theorem Trims.weaken {G' : List Char → List Char → Prop} (hG : ∀ r t, G r t → G' r t)
    (h : Trims G b r t) : Trims G' b r t := by
  induction h with
  | nil => exact .nil
  | drop hc _ ih => exact .drop hc ih
  | next hfeed _ ih => exact .next (fun hc ↦ hG _ _ (hfeed hc)) ih

theorem Trims.subset (h : Trims G b r t) : t ⊆ r := by
  induction h with
  | nil => exact List.Subset.refl _
  | drop _ _ ih => exact List.subset_cons_of_subset _ ih
  | next _ _ ih => exact List.cons_subset_cons _ ih

theorem Trims.eq_nil (h : Trims G b [] t) : t = [] := by
  cases h with
  | nil => rfl

/-- What is no room stays. -/
theorem Trims.of_cons (h : Trims G b (c :: r) t) (hc : b = true → ¬ IsRoom c) :
    ∃ r', t = c :: r' ∧ (c = '\n' → G r r') ∧ Trims G (c == '\n') r r' := by
  cases h with
  | drop hroom => exact absurd hroom (hc rfl)
  | @next _ _ _ r' hG h => exact ⟨r', rfl, hG, h⟩

/-- A character of a line stays, and no room is lost behind it. -/
theorem Trims.of_plain (h : Trims G b (c :: r) t) (hc : b = true → ¬ IsRoom c) (hfeed : c ≠ '\n') :
    ∃ r', t = c :: r' ∧ Trims G false r r' := by
  obtain ⟨r', rfl, -, h⟩ := h.of_cons hc
  rw [beq_eq_false_iff_ne.2 hfeed] at h
  exact ⟨r', rfl, h⟩

theorem Trims.cons (hc : c ≠ '\n') (h : Trims G false r r') : Trims G b (c :: r) (c :: r') :=
  .next (fun hfeed ↦ absurd hfeed hc) (beq_eq_false_iff_ne.2 hc ▸ h)

/-- Where no room stands, none is lost. -/
theorem Trims.anchor (h : Trims G b (c :: r) t) (hc : ¬ IsRoom c) : Trims G false (c :: r) t := by
  obtain ⟨r', rfl, hG, h⟩ := h.of_cons fun _ ↦ hc
  exact .next hG h

theorem Trims.head?_eq (h : Trims G false r t) : t.head? = r.head? := by
  cases h with
  | nil => rfl
  | next => rfl

/-- The beginning of a line stays. -/
theorem Trims.take_eq {n : Nat} (h : Trims G false r t) (hr : '\n' ∉ r.take n) :
    t.take n = r.take n := by
  induction n generalizing r t with
  | zero => rfl
  | succ n ih =>
    cases r with
    | nil => rw [h.eq_nil]
    | cons c r =>
      rw [List.take_succ_cons] at hr ⊢
      obtain ⟨r', rfl, hline⟩ := h.of_plain (by simp) fun hc ↦ hr (hc ▸ List.mem_cons_self)
      rw [List.take_succ_cons, ih hline (List.not_mem_of_not_mem_cons hr)]

/-- Whether three quotes stand side by side is seen with and without the room. -/
theorem Trims.quotes (h : Trims G false r t) {q : Char} (hq : q ≠ '\n') :
    (t.take 2 == [q, q]) = (r.take 2 == [q, q]) := by
  have hfeed : ('\n' == q) = false := beq_eq_false_iff_ne.2 hq.symm
  cases h with
  | nil => rfl
  | @next _ c r r' _ h =>
    rw [List.take_succ_cons, List.take_succ_cons, List.cons_beq_cons, List.cons_beq_cons]
    by_cases hc : c = '\n'
    · rw [hc, hfeed, Bool.false_and, Bool.false_and]
    · rw [beq_eq_false_iff_ne.2 hc] at h
      cases h with
      | nil => rfl
      | next => rfl

/-- The text behind three quotes. -/
theorem Trims.drop_two (h : Trims G false r t) {q : Char} (hq : q ≠ '\n')
    (hr : (r.take 2 == [q, q]) = true) : Trims G false (r.drop 2) (t.drop 2) := by
  rw [beq_iff_eq] at hr
  match r, hr with
  | [c, d], hr =>
    obtain ⟨rfl, rfl⟩ : c = q ∧ d = q := by simpa using hr
    obtain ⟨t, rfl, hsecond⟩ := h.of_plain (by simp) hq
    obtain ⟨t, rfl, hrest⟩ := hsecond.of_plain (by simp) hq
    exact hrest
  | c :: d :: e :: r, hr =>
    obtain ⟨rfl, rfl⟩ : c = q ∧ d = q := by simpa using hr
    obtain ⟨t, rfl, hsecond⟩ := h.of_plain (by simp) hq
    obtain ⟨t, rfl, hrest⟩ := hsecond.of_plain (by simp) hq
    exact hrest

/-- Behind characters that may be blank no room is lost. -/
theorem Trims.dropWhile {p : Char → Bool} (hp : ∀ c, IsRoom c → p c = true) (h : Trims G b r t)
    (hb : b = true → p '\n' = true) : Trims G false (r.dropWhile p) (t.dropWhile p) := by
  induction h with
  | nil => exact .nil
  | drop hc _ ih =>
    rw [List.dropWhile_cons_of_pos (hp _ hc)]
    exact ih hb
  | @next b c r r' hG h ih =>
    by_cases hpc : p c = true
    · rw [List.dropWhile_cons_of_pos hpc, List.dropWhile_cons_of_pos hpc]
      exact ih fun hfeed ↦ (beq_iff_eq.1 hfeed) ▸ hpc
    · rw [List.dropWhile_cons_of_neg hpc, List.dropWhile_cons_of_neg hpc]
      exact .next hG h

end

/-! ## The line under way -/

section

variable {G : List Char → List Char → Prop} {b : Bool} {c : Char} {r r' t : List Char}

theorem Trims.count_newline (h : Trims G b r t) : t.count '\n' = r.count '\n' := by
  induction h with
  | nil => rfl
  | drop hc _ ih => rw [ih, List.count_cons_of_ne (ne_newline_of_isRoom hc)]
  | next _ _ ih => rw [List.count_cons, List.count_cons, ih]

/-- What is no room is in the second text if it is in the first. -/
theorem Trims.mem (h : Trims G b r t) (hc : ¬ IsRoom c) (hr : c ∈ r) : c ∈ t := by
  induction h with
  | nil => exact hr
  | drop hroom _ ih =>
    rcases List.mem_cons.1 hr with rfl | hr
    · exact absurd hroom hc
    · exact ih hr
  | next _ _ ih =>
    rcases List.mem_cons.1 hr with rfl | hr
    · exact List.mem_cons_self
    · exact List.mem_cons_of_mem _ (ih hr)

/-- A text that does not end with room does not lose everything. -/
theorem Trims.exists_of_last (h : Trims G b (c :: r) t)
    (hlast : ∀ d ∈ (c :: r).getLast?, ¬ IsRoom d) : ∃ d t', t = d :: t' :=
  List.exists_cons_of_ne_nil (List.ne_nil_of_mem (h.mem
    (hlast _ (List.getLast?_eq_some_getLast (List.cons_ne_nil c r))) (List.getLast_mem _)))

/-- Characters of the line under way stay. -/
theorem Trims.of_append {w : List Char} (hw : '\n' ∉ w) (h : Trims G false (w ++ r) t) :
    ∃ t', t = w ++ t' ∧ Trims G false r t' := by
  induction w generalizing t with
  | nil => exact ⟨t, rfl, h⟩
  | cons c w ih =>
    obtain ⟨t, rfl, hrest⟩ := h.of_plain (by simp) fun hc ↦ hw (hc ▸ List.mem_cons_self)
    obtain ⟨t', rfl, ht'⟩ := ih (List.not_mem_of_not_mem_cons hw) hrest
    exact ⟨t', rfl, ht'⟩

/-- What remains of the line under way is the same in both texts. -/
theorem Trims.line (h : Trims G false r t) : t = r ∧ '\n' ∉ r
    ∨ ∃ x X Y, r = x ++ '\n' :: X ∧ t = x ++ '\n' :: Y := by
  induction r generalizing t with
  | nil => exact .inl ⟨h.eq_nil, List.not_mem_nil⟩
  | cons c r ih =>
    obtain ⟨t, rfl, -, hrest⟩ := h.of_cons (by simp)
    by_cases hc : c = '\n'
    · exact .inr ⟨[], r, t, hc ▸ rfl, hc ▸ rfl⟩
    · rw [beq_eq_false_iff_ne.2 hc] at hrest
      rcases ih hrest with ⟨rfl, hfeed⟩ | ⟨x, X, Y, rfl, rfl⟩
      · exact .inl ⟨rfl, List.not_mem_cons_of_ne_of_not_mem (Ne.symm hc) hfeed⟩
      · exact .inr ⟨c :: x, X, Y, rfl, rfl⟩

/-- A search that ends with the line finds the same. -/
theorem Trims.splitWhile {p : Char → Bool} (hp : p '\n' = false) (h : Trims G false r t) :
    t.takeWhile p = r.takeWhile p ∧ Trims G false (r.dropWhile p) (t.dropWhile p) := by
  induction r generalizing t with
  | nil =>
    rw [h.eq_nil]
    exact ⟨rfl, .nil⟩
  | cons c r ih =>
    obtain ⟨t, rfl, -, hrest⟩ := h.of_cons (by simp)
    by_cases hpc : p c = true
    · have hc : c ≠ '\n' := by
        rintro rfl
        exact Bool.false_ne_true (hp.symm.trans hpc)
      rw [beq_eq_false_iff_ne.2 hc] at hrest
      obtain ⟨htake, hdrop⟩ := ih hrest
      rw [List.takeWhile_cons_of_pos hpc, List.takeWhile_cons_of_pos hpc, htake,
        List.dropWhile_cons_of_pos hpc, List.dropWhile_cons_of_pos hpc]
      exact ⟨rfl, hdrop⟩
    · rw [List.takeWhile_cons_of_neg hpc, List.takeWhile_cons_of_neg hpc,
        List.dropWhile_cons_of_neg hpc, List.dropWhile_cons_of_neg hpc]
      exact ⟨rfl, h⟩

/-- The same characters behind two texts. -/
theorem Trims.append {w : List Char} (hw : ∀ b, Loosely b w w) (h : Loosely b r t) :
    Loosely b (r ++ w) (t ++ w) := by
  induction h with
  | nil => exact hw _
  | drop hc _ ih => exact .drop hc ih
  | next _ _ ih => exact .next (fun _ ↦ trivial) ih

end

/-! ## Where a literal ends -/

/-- If reading `acc` and more succeeds in the first text, then reading any other text and as much
more, less some room, succeeds in the second, and both leave the same characters, less some room. -/
def TrimsSplit (G : List Char → List Char → Prop) (b : Bool) (acc : List Char)
    (o : Option (List Char × List Char)) (f : List Char → Option (List Char × List Char)) : Prop :=
  ∀ a rest, o = some (a, rest) → ∃ body body' rest', a = body.reverse ++ acc
    ∧ (∀ acc', f acc' = some (body'.reverse ++ acc', rest')) ∧ Loosely b body body'
    ∧ Trims G false rest rest'

section

variable {G : List Char → List Char → Prop} {b : Bool} {c : Char} {acc r r' : List Char}
  {o : Option (List Char × List Char)} {f : List Char → Option (List Char × List Char)}

theorem TrimsSplit.none : TrimsSplit G b acc none f := fun _ _ h ↦ by cases h

/-- The end of a literal. -/
theorem TrimsSplit.stop (h : Trims G false r r') (hf : ∀ acc', f acc' = some (acc', r')) :
    TrimsSplit G b acc (some (acc, r)) f := by
  rintro _ _ ⟨⟩
  exact ⟨[], [], r', rfl, hf, .nil, h⟩

/-- A character that stays. -/
theorem TrimsSplit.next {f' : List Char → Option (List Char × List Char)}
    (h : TrimsSplit G (c == '\n') (c :: acc) o f) (hf : ∀ acc', f' acc' = f (c :: acc')) :
    TrimsSplit G b acc o f' := by
  intro a rest ho
  obtain ⟨body, body', rest', rfl, hf', hbody, hrest⟩ := h a rest ho
  refine ⟨c :: body, c :: body', rest', ?_, fun acc' ↦ ?_, .next (fun _ ↦ trivial) hbody, hrest⟩
  · rw [List.reverse_cons, List.append_assoc, List.singleton_append]
  · rw [hf, hf', List.reverse_cons, List.append_assoc, List.singleton_append]

/-- Room that is lost. -/
theorem TrimsSplit.drop (hc : IsRoom c) (h : TrimsSplit G true (c :: acc) o f) :
    TrimsSplit G true acc o f := by
  intro a rest ho
  obtain ⟨body, body', rest', rfl, hf', hbody, hrest⟩ := h a rest ho
  refine ⟨c :: body, body', rest', ?_, hf', .drop hc hbody, hrest⟩
  rw [List.reverse_cons, List.append_assoc, List.singleton_append]

/-- A character of a line that stays. -/
theorem TrimsSplit.cons (hc : c ≠ '\n') {f' : List Char → Option (List Char × List Char)}
    (h : TrimsSplit G false (c :: acc) o f) (hf : ∀ acc', f' acc' = f (c :: acc')) :
    TrimsSplit G b acc o f' :=
  TrimsSplit.next (beq_eq_false_iff_ne.2 hc ▸ h) hf

end

section

variable {G : List Char → List Char → Prop} {b : Bool} {q : Char} {acc r t : List Char}

/-- A quote, as far as lines go. -/
structure IsQuote (q : Char) : Prop where
  feed : q ≠ '\n'
  room : ¬ IsRoom q
  slash : q ≠ '\\'

theorem isQuote_of_eq {q : Char} (hq : q = '\'' ∨ q = '"') : IsQuote q := by
  rcases hq with rfl | rfl <;> exact ⟨by decide, by decide, by decide⟩

theorem not_isRoom_slash : ¬ IsRoom '\\' := by decide

theorem trims_closeShort (hq : IsQuote q) (h : Trims G b r t) :
    TrimsSplit G b acc (closeShort q acc r) fun acc' ↦ closeShort q acc' t := by
  fun_induction closeShort q acc r generalizing b t with
  | case1 => exact .none
  | case2 acc c r ih =>
    obtain ⟨t, rfl, hsecond⟩ := h.of_plain (fun _ ↦ not_isRoom_slash) (by decide)
    obtain ⟨t, rfl, -, hrest⟩ := hsecond.of_cons (by simp)
    exact .cons (by decide) (.next (ih hrest) fun _ ↦ rfl) fun acc' ↦ closeShort_escape c acc' t
  | case3 acc r =>
    obtain ⟨t, rfl, hrest⟩ := h.of_plain (fun _ ↦ hq.room) hq.feed
    refine .stop hrest fun acc' ↦ ?_
    rw [closeShort_cons hq.slash, if_pos rfl]
  | case4 => exact .none
  | case5 acc c r _ hcq hstop ih =>
    simp only [Bool.or_eq_true, decide_eq_true_eq, not_or] at hstop
    cases h with
    | drop hc h => exact .drop hc (ih h)
    | @next _ _ _ t _ h =>
      refine .next (ih h) fun acc' ↦ ?_
      rw [closeShort_cons hstop.2, if_neg hcq, if_neg (by simp [hstop])]

theorem trims_closeLong (hq : IsQuote q) (h : Trims G b r t) :
    TrimsSplit G b acc (closeLong q acc r) fun acc' ↦ closeLong q acc' t := by
  fun_induction closeLong q acc r generalizing b t with
  | case1 => exact .none
  | case2 acc c r ih =>
    obtain ⟨t, rfl, hsecond⟩ := h.of_plain (fun _ ↦ not_isRoom_slash) (by decide)
    obtain ⟨t, rfl, -, hrest⟩ := hsecond.of_cons (by simp)
    exact .cons (by decide) (.next (ih hrest) fun _ ↦ rfl) fun acc' ↦ closeLong_escape c acc' t
  | case3 acc c r _ hend =>
    obtain ⟨hcq, hquotes⟩ := Bool.and_eq_true_iff.1 hend
    obtain rfl := of_decide_eq_true hcq
    obtain ⟨t, rfl, hrest⟩ := h.of_plain (fun _ ↦ hq.room) hq.feed
    refine .stop (hrest.drop_two hq.feed hquotes) fun acc' ↦ ?_
    rw [closeLong_cons hq.slash, hrest.quotes hq.feed, hquotes, decide_eq_true rfl, Bool.and_self,
      if_pos rfl]
  | case4 acc c r hslash hend ih =>
    have hstay {t : List Char} (h : Trims G (c == '\n') r t) (acc' : List Char) :
        closeLong q acc' (c :: t) = closeLong q (c :: acc') t := by
      by_cases hc : c = '\\'
      · subst hc
        cases r with
        | nil =>
          rw [h.eq_nil]
          simp [closeLong]
        | cons d r => exact (hslash d r rfl rfl).elim
      · rw [closeLong_cons hc, if_neg]
        intro hend'
        obtain ⟨hcq, hquotes⟩ := Bool.and_eq_true_iff.1 hend'
        obtain rfl := of_decide_eq_true hcq
        rw [beq_eq_false_iff_ne.2 hq.feed] at h
        rw [h.quotes hq.feed] at hquotes
        exact hend (Bool.and_eq_true_iff.2 ⟨decide_eq_true rfl, hquotes⟩)
    cases h with
    | drop hc h => exact .drop hc (ih h)
    | next _ h => exact .next (ih h) (hstay h)

end

/-- **A string ends with the same quote** if its lines lose room. -/
theorem trims_closeString {G : List Char → List Char → Prop} {q : Char} {r t body rest : List Char}
    (hq : IsQuote q) (h : Trims G false r t) (hr : closeString q r = some (body, rest)) :
    ∃ body' rest', closeString q t = some (body', rest') ∧ Loosely false body body'
      ∧ Trims G false rest rest' := by
  have hsplit {o : Option (List Char × List Char)}
      {f : List Char → Option (List Char × List Char)} (hf : TrimsSplit G false [] o f)
      (ho : o.map (fun s ↦ (s.1.reverse, s.2)) = some (body, rest)) :
      ∃ body' rest', (f []).map (fun s ↦ (s.1.reverse, s.2)) = some (body', rest')
        ∧ Loosely false body body' ∧ Trims G false rest rest' := by
    obtain ⟨⟨acc, rest⟩, hacc, heq⟩ := Option.map_eq_some_iff.1 ho
    obtain ⟨rfl, rfl⟩ := Prod.mk.inj heq
    obtain ⟨body, body', rest', rfl, hf', hbody, hrest⟩ := hf _ _ hacc
    refine ⟨body', rest', ?_, ?_, hrest⟩
    · rw [hf', Option.map_some, List.append_nil, List.reverse_reverse]
    · rwa [List.append_nil, List.reverse_reverse]
  rw [closeString] at hr ⊢
  rw [h.quotes hq.feed]
  split at hr
  · next hlong =>
    rw [if_pos hlong]
    exact hsplit (trims_closeLong hq (h.drop_two hq.feed hlong)) hr
  · next hlong =>
    rw [if_neg hlong]
    exact hsplit (trims_closeShort hq h) hr

/-! ## Escapes -/

section

variable {G : List Char → List Char → Prop} {b : Bool} {r t : List Char}

theorem hexDigit?_newline : Text.hexDigit? '\n' = none := by decide

theorem Trims.opensHexadecimal {n : Nat} (h : Trims G false r t)
    (hr : opensHexadecimal n r = true) : opensHexadecimal n t = true ∧ t.take n = r.take n := by
  have htake : t.take n = r.take n := by
    refine h.take_eq fun hfeed ↦ ?_
    rw [Source.opensHexadecimal, Bool.and_eq_true, List.all_eq_true] at hr
    have hdigit := hr.2 '\n' hfeed
    rw [hexDigit?_newline] at hdigit
    cases hdigit
  rw [Source.opensHexadecimal, htake]
  exact ⟨hr, rfl⟩

theorem Trims.opensCharacter (h : Trims G false r t) (hr : opensCharacter r = true) :
    opensCharacter t = true := by
  rw [Source.opensCharacter, Bool.and_eq_true] at hr ⊢
  obtain ⟨hdigits, htake⟩ := h.opensHexadecimal hr.1
  exact ⟨hdigits, htake ▸ hr.2⟩

theorem Trims.opensName (h : Trims G false r t) (hr : opensName r = true) :
    opensName t = true := by
  unfold Source.opensName at hr
  split at hr
  · next s =>
    obtain ⟨s', rfl, hline⟩ := h.of_plain (by simp) (by decide)
    simp only [Bool.and_eq_true, List.contains_iff_mem] at hr
    simp only [Source.opensName, hline.head?_eq, hr.1, Bool.true_and, List.contains_iff_mem]
    exact hline.mem (by decide) hr.2
  · cases hr

/-- **Escapes stay in order** if lines lose room. -/
theorem Trims.escapesOk (h : Trims G b r t) (hr : escapesOk r = true) : escapesOk t = true := by
  fun_induction Source.escapesOk r generalizing b t with
  | case1 => rw [h.eq_nil]; rfl
  | case2 e r ih =>
    obtain ⟨t, rfl, hsecond⟩ := h.of_plain (fun _ ↦ not_isRoom_slash) (by decide)
    obtain ⟨t, rfl, -, hthird⟩ := hsecond.of_cons (by simp)
    obtain ⟨hescape, hrest⟩ := Bool.and_eq_true_iff.1 hr
    refine Bool.and_eq_true_iff.2 ⟨?_, ih hthird hrest⟩
    have hline (he : e ≠ '\n') : Trims G false r t := by
      rwa [beq_eq_false_iff_ne.2 he] at hthird
    by_cases hx : e = 'x'
    · rw [if_pos hx] at hescape ⊢
      exact ((hline (hx ▸ by decide)).opensHexadecimal hescape).1
    rw [if_neg hx] at hescape ⊢
    by_cases hu : e = 'u'
    · rw [if_pos hu] at hescape ⊢
      exact ((hline (hu ▸ by decide)).opensHexadecimal hescape).1
    rw [if_neg hu] at hescape ⊢
    by_cases hU : e = 'U'
    · rw [if_pos hU] at hescape ⊢
      exact (hline (hU ▸ by decide)).opensCharacter hescape
    rw [if_neg hU] at hescape ⊢
    by_cases hN : e = 'N'
    · rw [if_pos hN] at hescape ⊢
      exact (hline (hN ▸ by decide)).opensName hescape
    · rw [if_neg hN]
  | case3 c r hslash ih =>
    cases h with
    | drop _ h => exact ih h hr
    | @next _ _ _ t _ h =>
      rw [Source.escapesOk]
      · exact ih h hr
      · rintro e t' rfl rfl
        have hline : Trims G false r (e :: t') := h
        cases hline with
        | next => exact hslash _ _ rfl rfl

end


section

variable {G : List Char → List Char → Prop} {b outer raw : Bool} {r t : List Char}

theorem Trims.byteEscapesOk (h : Trims G b r t) (hr : byteEscapesOk r = true) :
    byteEscapesOk t = true := by
  fun_induction Source.byteEscapesOk r generalizing b t with
  | case1 => rw [h.eq_nil]; rfl
  | case2 e r ih =>
    obtain ⟨t, rfl, hsecond⟩ := h.of_plain (fun _ ↦ not_isRoom_slash) (by decide)
    obtain ⟨t, rfl, -, hthird⟩ := hsecond.of_cons (by simp)
    obtain ⟨hescape, hrest⟩ := Bool.and_eq_true_iff.1 hr
    refine Bool.and_eq_true_iff.2 ⟨?_, ih hthird hrest⟩
    rcases Bool.or_eq_true_iff.1 hescape with he | hdigits
    · rw [he, Bool.true_or]
    · by_cases he : e = 'x'
      · subst he
        have hline : Trims G false r t := hthird
        rw [(hline.opensHexadecimal hdigits).1, Bool.or_true]
      · rw [bne_iff_ne.2 he, Bool.true_or]
  | case3 c r hslash ih =>
    cases h with
    | drop _ h => exact ih h hr
    | @next _ _ _ t _ h =>
      rw [Source.byteEscapesOk]
      · exact ih h hr
      · rintro e t' rfl rfl
        have hline : Trims G false r (e :: t') := h
        cases hline with
        | next => exact hslash _ _ rfl rfl

/-- **A byte string stays in order** if its lines lose room. -/
theorem Trims.bytesOk (h : Trims G b r t) (hr : bytesOk raw r = true) : bytesOk raw t = true := by
  rw [Source.bytesOk, Bool.and_eq_true, List.all_eq_true] at hr ⊢
  refine ⟨fun c hc ↦ hr.1 c (h.subset hc), ?_⟩
  rcases Bool.or_eq_true_iff.1 hr.2 with hraw | hescapes
  · rw [hraw, Bool.true_or]
  · rw [h.byteEscapesOk hescapes, Bool.or_true]

/-! ## Fields -/

/-- A line goes on with the same character. -/
theorem Trims.exists_cons (h : Trims G false r t) {d : Char} {t' : List Char} (ht : t = d :: t') :
    ∃ r', r = d :: r' :=
  List.head?_eq_some_iff.1 (h.head?_eq.symm.trans (ht ▸ rfl))

/-- A character that opens no escape and no doubled brace. -/
structure IsPlainPart (c : Char) (r : List Char) : Prop where
  slash : ∀ d s, c = '\\' → r = d :: s → False
  opening : ∀ s, c = '\x7b' → r = '\x7b' :: s → False
  closing : ∀ s, c = '\x7d' → r = '\x7d' :: s → False

theorem literalPart_of_plain {c : Char} (h : IsPlainPart c r) (acc : List Char) :
    literalPart outer raw false acc (c :: r) = if c = '\x7d' && outer then none
      else if c = '\x7b' || c = '\x7d' then some (acc, c :: r)
      else literalPart outer raw false (c :: acc) r := by
  rw [literalPart]
  · exact fun s hc hr ↦ h.slash _ _ hc hr
  · exact h.slash
  · exact h.opening
  · exact h.closing

theorem Trims.isPlainPart {c : Char} (h : Trims G (c == '\n') r t) (hr : IsPlainPart c r) :
    IsPlainPart c t := by
  refine ⟨?_, ?_, ?_⟩
  · rintro d s rfl rfl
    obtain ⟨r', rfl⟩ := Trims.exists_cons h rfl
    exact hr.slash d r' rfl rfl
  · rintro s rfl rfl
    obtain ⟨r', rfl⟩ := Trims.exists_cons h rfl
    exact hr.opening r' rfl rfl
  · rintro s rfl rfl
    obtain ⟨r', rfl⟩ := Trims.exists_cons h rfl
    exact hr.closing r' rfl rfl

theorem trims_literalPart {named : Bool} {acc : List Char} (h : Trims G b r t) :
    TrimsSplit G b acc (literalPart outer raw named acc r)
      fun acc' ↦ literalPart outer raw named acc' t := by
  fun_induction literalPart outer raw named acc r generalizing b t with
  | case1 named acc =>
    rw [h.eq_nil]
    exact .stop .nil fun acc' ↦ by rw [literalPart]
  | case2 acc c r ih =>
    cases h with
    | drop hc h =>
      have hbrace : (c != '\x7d') = true := by rcases hc with rfl | rfl | rfl <;> rfl
      rw [hbrace] at ih ⊢
      exact .drop hc (ih h)
    | next _ h => exact .next (ih h) fun acc' ↦ by rw [literalPart]
  | case3 acc r hraw ih =>
    obtain ⟨t₁, rfl, h₁⟩ := h.of_plain (fun _ ↦ not_isRoom_slash) (by decide)
    obtain ⟨t₂, rfl, h₂⟩ := h₁.of_plain (by simp) (by decide)
    obtain ⟨t₃, rfl, -⟩ := h₂.of_plain (by simp) (by decide)
    exact .cons (by decide) (.cons (by decide) (ih h₂) fun _ ↦ rfl) fun acc' ↦ by
      rw [literalPart, if_pos hraw]
  | case4 acc r hraw ih =>
    obtain ⟨t₁, rfl, h₁⟩ := h.of_plain (fun _ ↦ not_isRoom_slash) (by decide)
    obtain ⟨t₂, rfl, h₂⟩ := h₁.of_plain (by simp) (by decide)
    obtain ⟨t₃, rfl, h₃⟩ := h₂.of_plain (by simp) (by decide)
    exact .cons (by decide) (.cons (by decide) (.cons (by decide) (ih h₃) fun _ ↦ rfl) fun _ ↦ rfl)
      fun acc' ↦ by rw [literalPart, if_neg hraw]
  | case5 acc c r hname hc ih =>
    obtain ⟨t₁, rfl, h₁⟩ := h.of_plain (fun _ ↦ not_isRoom_slash) (by decide)
    obtain ⟨t₂, rfl, -, h₂⟩ := h₁.of_cons (by simp)
    refine .cons (by decide) (ih h₁) fun acc' ↦ ?_
    rw [literalPart, if_pos hc]
    rintro t' rfl rfl
    obtain ⟨r', rfl⟩ := Trims.exists_cons h₂ rfl
    exact hname r' rfl rfl
  | case6 acc c r hname hc ih =>
    obtain ⟨t₁, rfl, h₁⟩ := h.of_plain (fun _ ↦ not_isRoom_slash) (by decide)
    obtain ⟨t₂, rfl, -, h₂⟩ := h₁.of_cons (by simp)
    refine .cons (by decide) (.next (ih h₂) fun _ ↦ rfl) fun acc' ↦ ?_
    rw [literalPart, if_neg hc]
    rintro t' rfl rfl
    obtain ⟨r', rfl⟩ := Trims.exists_cons h₂ rfl
    exact hname r' rfl rfl
  | case7 acc r houter ih =>
    obtain ⟨t₁, rfl, h₁⟩ := h.of_plain (fun _ ↦ by decide) (by decide)
    obtain ⟨t₂, rfl, h₂⟩ := h₁.of_plain (by simp) (by decide)
    exact .cons (by decide) (ih h₂) fun acc' ↦ by rw [literalPart, if_pos houter]
  | case8 acc r houter =>
    obtain ⟨t₁, rfl, h₁⟩ := h.of_plain (fun _ ↦ by decide) (by decide)
    obtain ⟨t₂, rfl, h₂⟩ := h₁.of_plain (by simp) (by decide)
    exact .stop (h.anchor (by decide)) fun acc' ↦ by rw [literalPart, if_neg houter]
  | case9 acc r houter ih =>
    obtain ⟨t₁, rfl, h₁⟩ := h.of_plain (fun _ ↦ by decide) (by decide)
    obtain ⟨t₂, rfl, h₂⟩ := h₁.of_plain (by simp) (by decide)
    exact .cons (by decide) (ih h₂) fun acc' ↦ by rw [literalPart, if_pos houter]
  | case10 acc r houter =>
    obtain ⟨t₁, rfl, h₁⟩ := h.of_plain (fun _ ↦ by decide) (by decide)
    obtain ⟨t₂, rfl, h₂⟩ := h₁.of_plain (by simp) (by decide)
    exact .stop (h.anchor (by decide)) fun acc' ↦ by rw [literalPart, if_neg houter]
  | case11 => exact .none
  | case12 acc c r _ hslash hopening hclosing hraw hbrace =>
    have hc : ¬ IsRoom c := by
      simp only [Bool.or_eq_true, decide_eq_true_eq] at hbrace
      rcases hbrace with rfl | rfl <;> decide
    obtain ⟨t, rfl, -, hrest⟩ := h.of_cons fun _ ↦ hc
    refine .stop (h.anchor hc) fun acc' ↦ ?_
    rw [literalPart_of_plain ?_, if_neg hraw, if_pos hbrace]
    exact hrest.isPlainPart ⟨hslash, hopening, hclosing⟩
  | case13 acc c r _ hslash hopening hclosing hraw hbrace ih =>
    cases h with
    | drop hc h => exact .drop hc (ih h)
    | @next _ _ _ t _ h =>
      refine .next (ih h) fun acc' ↦ ?_
      rw [literalPart_of_plain ?_, if_neg hraw, if_neg hbrace]
      exact h.isPlainPart ⟨hslash, hopening, hclosing⟩

end

section

variable {G : List Char → List Char → Prop} {b : Bool} {c : Char} {acc r t opened : List Char}

/-- Three quotes. -/
theorem TrimsSplit.quotes {q : Char} (hq : q ≠ '\n') {o : Option (List Char × List Char)}
    {f f' : List Char → Option (List Char × List Char)}
    (h : TrimsSplit G false (q :: q :: q :: acc) o f)
    (hf : ∀ acc', f' acc' = f (q :: q :: q :: acc')) : TrimsSplit G b acc o f' := by
  have h₂ : TrimsSplit G false (q :: q :: acc) o fun acc' ↦ f (q :: acc') := .cons hq h fun _ ↦ rfl
  have h₁ : TrimsSplit G false (q :: acc) o fun acc' ↦ f (q :: q :: acc') := .cons hq h₂ fun _ ↦ rfl
  exact .cons hq h₁ hf

theorem TrimsSplit.ite {p : Prop} [Decidable p] {o o' : Option (List Char × List Char)}
    {f f' : List Char → Option (List Char × List Char)} (h : p → TrimsSplit G b acc o f)
    (h' : ¬ p → TrimsSplit G b acc o' f') :
    TrimsSplit G b acc (if p then o else o') fun acc' ↦ if p then f acc' else f' acc' := by
  by_cases hp : p
  · simpa only [if_pos hp] using h hp
  · simpa only [if_neg hp] using h' hp

theorem fieldExpression_long {q : Char} (hc : c ≠ '\\') (acc r : List Char) :
    fieldExpression (some (q, true)) opened acc (c :: r)
      = if c = q && r.take 2 == [q, q] then
          fieldExpression none opened (q :: q :: q :: acc) (r.drop 2)
        else fieldExpression (some (q, true)) opened (c :: acc) r := by
  match r with
  | [] => simp [fieldExpression]
  | [d] => by_cases hd : d = '\\' <;> simp [fieldExpression, hd]
  | d :: e :: r =>
    rw [fieldExpression]
    · simp [and_assoc]
    · exact fun h ↦ hc h

theorem fieldExpression_short {q : Char} (hc : c ≠ '\\') (acc r : List Char) :
    fieldExpression (some (q, false)) opened acc (c :: r)
      = fieldExpression (if c = q then none else some (q, false)) opened (c :: acc) r := by
  rw [fieldExpression]
  exact fun h ↦ hc h

theorem fieldExpression_none (hc : c ≠ '\\') (acc r : List Char) :
    fieldExpression none opened acc (c :: r)
      = if (c = '\'' || c = '"') && r.take 2 == [c, c] then
          fieldExpression (some (c, true)) opened (c :: c :: c :: acc) (r.drop 2)
        else fieldExpression.fieldStep c opened acc r
          (fun quote opened ↦ fieldExpression quote opened (c :: acc) r)
          (fun _ ↦ fieldExpression none opened (r.take 1 ++ c :: acc) (r.drop 1)) := by
  match r with
  | [] => simp [fieldExpression]
  | [d] => simp [fieldExpression]
  | d :: e :: r =>
    rw [fieldExpression]
    · simp [and_assoc]
    · exact fun h ↦ hc h

/-- Room and line feeds within an expression are passed over. -/
theorem fieldExpression_blank (hc : IsRoom c ∨ c = '\n') {quote : Option (Char × Bool)}
    (hquote : ∀ q ∈ quote, IsQuote q.1) (acc r : List Char) :
    fieldExpression quote opened acc (c :: r) = fieldExpression quote opened (c :: acc) r := by
  have hslash : c ≠ '\\' := by rcases hc with (rfl | rfl | rfl) | rfl <;> decide
  match quote, hquote with
  | none, _ =>
    rw [fieldExpression_none hslash]
    rcases hc with (rfl | rfl | rfl) | rfl <;> simp [fieldExpression.fieldStep]
  | some (q, long), hquote =>
    have hq : IsQuote q := hquote _ rfl
    have hcq : c ≠ q := by
      rintro rfl
      exact hc.elim hq.room hq.feed
    cases long with
    | true =>
      rw [fieldExpression_long hslash, decide_eq_false hcq, Bool.false_and, if_neg (by simp)]
    | false => rw [fieldExpression_short hslash, if_neg hcq]

theorem trims_fieldStep (hfeed : c ≠ '\n') (h : Trims G false r t)
    {go : Option (Char × Bool) → List Char → Option (List Char × List Char)}
    {skip : Unit → Option (List Char × List Char)}
    {go' : List Char → Option (Char × Bool) → List Char → Option (List Char × List Char)}
    {skip' : List Char → Unit → Option (List Char × List Char)}
    (hgo : ∀ quote opened, (∀ q ∈ quote, IsQuote q.1) →
      TrimsSplit G b acc (go quote opened) fun acc' ↦ go' acc' quote opened)
    (hskip : r.head? = some '=' → TrimsSplit G b acc (skip ()) fun acc' ↦ skip' acc' ()) :
    TrimsSplit G b acc (fieldExpression.fieldStep c opened acc r go skip)
      fun acc' ↦ fieldExpression.fieldStep c opened acc' t (go' acc') (skip' acc') := by
  unfold fieldExpression.fieldStep
  refine .ite (fun hc ↦ hgo _ _ ?_) fun _ ↦ ?_
  · rintro _ ⟨⟩
    exact isQuote_of_eq (by simpa using hc)
  have hgo (opened : List Char) := hgo none opened (by simp)
  refine .ite (fun _ ↦ .ite (fun _ ↦ .none) fun _ ↦ hgo _) fun _ ↦ ?_
  refine .ite (fun _ ↦ .none) fun _ ↦ ?_
  refine .ite (fun _ ↦ ?_) fun _ ↦ ?_
  · rw [h.head?_eq]
    refine .ite (fun hequals ↦ hskip ?_) fun _ ↦ .ite (fun _ ↦ hgo _) fun _ ↦ ?_
    · exact beq_iff_eq.1 (Bool.and_eq_true_iff.1 hequals).1
    · exact .stop (Trims.cons hfeed h) fun _ ↦ rfl
  · refine .ite (fun _ ↦ ?_) fun _ ↦ hgo _
    cases opened with
    | nil => exact .none
    | cons o opened => exact .ite (fun _ ↦ hgo _) fun _ ↦ .none

theorem trims_fieldExpression (n : Nat) : ∀ {r : List Char}, r.length ≤ n →
    ∀ {quote : Option (Char × Bool)} {opened acc : List Char} {b : Bool} {t : List Char},
      (∀ q ∈ quote, IsQuote q.1) → Trims G b r t →
        TrimsSplit G b acc (fieldExpression quote opened acc r)
          fun acc' ↦ fieldExpression quote opened acc' t := by
  induction n with
  | zero =>
    intro r hr quote opened acc b t _ _
    rw [List.length_eq_zero_iff.1 (Nat.le_zero.1 hr), fieldExpression]
    exact .none
  | succ n ih =>
    intro r hr quote opened acc b t hquote h
    match r, hr with
    | [], _ =>
      rw [fieldExpression]
      exact .none
    | c :: r, hr =>
      have hr : r.length ≤ n := Nat.le_of_succ_le_succ hr
      by_cases hslash : c = '\\'
      · rw [hslash, fieldExpression]
        exact .none
      cases h with
      | drop hc h =>
        rw [fieldExpression_blank (.inl hc) hquote]
        exact .drop hc (ih hr hquote h)
      | @next _ _ _ t _ h =>
        by_cases hfeed : c = '\n'
        · simp only [fieldExpression_blank (.inr hfeed) hquote]
          exact .next (ih hr hquote h) fun _ ↦ rfl
        rw [beq_eq_false_iff_ne.2 hfeed] at h
        match quote, hquote with
        | some (q, true), hquote =>
          have hq : IsQuote q := hquote _ rfl
          simp only [fieldExpression_long hslash, h.quotes hq.feed]
          refine .ite (fun hend ↦ ?_) fun _ ↦ .cons hfeed (ih hr hquote h) fun _ ↦ rfl
          obtain ⟨-, hquotes⟩ := Bool.and_eq_true_iff.1 hend
          exact .quotes hq.feed (ih (by simpa using by omega) (by simp)
            (h.drop_two hq.feed hquotes)) fun _ ↦ rfl
        | some (q, false), hquote =>
          simp only [fieldExpression_short hslash]
          refine .cons hfeed (ih hr ?_ h) fun _ ↦ rfl
          split
          · simp
          · exact hquote
        | none, _ =>
          simp only [fieldExpression_none hslash, h.quotes hfeed]
          refine .ite (fun hstart ↦ ?_) fun _ ↦
            trims_fieldStep hfeed h (fun quote opened hquote ↦ ?_) fun hequals ↦ ?_
          · obtain ⟨hc, hquotes⟩ := Bool.and_eq_true_iff.1 hstart
            have hq : IsQuote c := isQuote_of_eq (by simpa using hc)
            exact .quotes hfeed (ih (by simpa using by omega) (by simpa using hq)
              (h.drop_two hfeed hquotes)) fun _ ↦ rfl
          · exact .cons hfeed (ih hr hquote h) fun _ ↦ rfl
          · obtain ⟨r, rfl⟩ := List.head?_eq_some_iff.1 hequals
            obtain ⟨t, rfl, hrest⟩ := h.of_plain (by simp) (by decide)
            exact .cons hfeed (.cons (by decide) (ih (Nat.le_of_succ_le hr) (by simp) hrest)
              fun _ ↦ rfl) fun _ ↦ rfl

theorem Trims.afterEquals (h : Trims G false r t) :
    Trims G false (afterEquals r) (afterEquals t) := by
  unfold Source.afterEquals
  split
  · obtain ⟨t, rfl, hrest⟩ := h.of_plain (by simp) (by decide)
    exact hrest.dropWhile (by rintro c (rfl | rfl | rfl) <;> decide) (by simp)
  · next hequals =>
    split
    · obtain ⟨r', rfl⟩ := h.exists_cons rfl
      exact (hequals r' rfl).elim
    · exact h

theorem Trims.afterConversion? (h : Trims G false r t) {s : List Char}
    (hs : afterConversion? r = some s) :
    ∃ s', afterConversion? t = some s' ∧ Trims G false s s' := by
  unfold Source.afterConversion? at hs
  split at hs
  · next c r =>
    obtain ⟨t₁, rfl, h₁⟩ := h.of_plain (by simp) (by decide)
    split at hs
    · next hc =>
      cases hs
      obtain ⟨t₂, rfl, h₂⟩ := h₁.of_plain (by simp) (by rintro rfl; simp at hc)
      exact ⟨t₂, by rw [Source.afterConversion?, if_pos hc], h₂⟩
    · cases hs
  · cases hs
  · next hmark hlone =>
    cases hs
    have hr (r' : List Char) : r ≠ '!' :: r' := by
      rintro rfl
      cases r' with
      | nil => exact hlone rfl
      | cons d r' => exact hmark d r' rfl
    refine ⟨t, ?_, h⟩
    unfold Source.afterConversion?
    split
    · obtain ⟨r', hr'⟩ := h.exists_cons rfl
      exact (hr r' hr').elim
    · obtain ⟨r', hr'⟩ := h.exists_cons rfl
      exact (hr r' hr').elim
    · rfl

/-- What a literal part or an expression of a field becomes. -/
theorem TrimsSplit.split {o : Option (List Char × List Char)}
    {f : List Char → Option (List Char × List Char)} (h : TrimsSplit G b [] o f)
    {a rest : List Char} (ho : o = some (a, rest)) : ∃ a' rest', f [] = some (a', rest')
      ∧ Loosely b a.reverse a'.reverse ∧ Trims G false rest rest' := by
  obtain ⟨body, body', rest', rfl, hf, hbody, hrest⟩ := h a rest ho
  refine ⟨body'.reverse, rest', by rw [hf, List.append_nil], ?_, hrest⟩
  rwa [List.append_nil, List.reverse_reverse, List.reverse_reverse]

theorem Trims.all_isFieldBlank (h : Trims G b r t) (hr : ¬ r.all isFieldBlank = true) :
    ¬ t.all isFieldBlank = true := by
  intro ht
  refine hr (List.all_eq_true.2 fun c hc ↦ ?_)
  by_cases hroom : IsRoom c
  · rcases hroom with rfl | rfl | rfl <;> rfl
  · exact List.all_eq_true.1 ht c (h.mem hroom hc)

/-- **The fields of a text** stay, and their expressions lose the same room. -/
theorem Trims.fieldsIn {raw : Bool} {level : Nat} {cs : List Char} {es : List (List Char)}
    (hcs : FieldsIn raw level cs es r) (h : Trims G b cs t) : ∃ es' t', FieldsIn raw level t es' t'
      ∧ List.Forall₂ (Loosely false) es es' ∧ Trims G false r t' := by
  have hescapesOk {b : Bool} {a a' : List Char} (h : Loosely b a.reverse a'.reverse)
      (ha : (raw || Source.escapesOk a.reverse) = true) :
      (raw || Source.escapesOk a'.reverse) = true := by
    rw [Bool.or_eq_true] at ha ⊢
    exact ha.imp_right h.escapesOk
  induction hcs generalizing b t with
  | none hliteral hescapes hr =>
    obtain ⟨a', t', hliteral', ha, hrest⟩ := (trims_literalPart h).split hliteral
    refine ⟨[], t', .none hliteral' (hescapesOk ha hescapes) ?_, .nil, hrest⟩
    intro s ht
    obtain ⟨r', hr'⟩ := hrest.exists_cons ht
    exact hr r' hr'
  | plain hliteral hescapes hlevel hexpression hblank hconversion _ ih =>
    obtain ⟨a', t', hliteral', ha, hrest⟩ := (trims_literalPart h).split hliteral
    obtain ⟨t', rfl, hopen⟩ := hrest.of_plain (by simp) (by decide)
    obtain ⟨e', u', hexpression', he, hbehind⟩ :=
      (trims_fieldExpression _ le_rfl (by simp) hopen).split hexpression
    obtain ⟨u', hconversion', hclose⟩ := hbehind.afterEquals.afterConversion? hconversion
    obtain ⟨u', rfl, hmore⟩ := hclose.of_plain (by simp) (by decide)
    obtain ⟨es', t', hfields, hes, ht'⟩ := ih hmore
    exact ⟨e'.reverse :: es', t', .plain hliteral' (hescapesOk ha hescapes) hlevel hexpression'
      (he.all_isFieldBlank hblank) hconversion' hfields, .cons he hes, ht'⟩
  | formatted hliteral hescapes hlevel hexpression hblank hconversion _ _ ihformat ih =>
    obtain ⟨a', t', hliteral', ha, hrest⟩ := (trims_literalPart h).split hliteral
    obtain ⟨t', rfl, hopen⟩ := hrest.of_plain (by simp) (by decide)
    obtain ⟨e', u', hexpression', he, hbehind⟩ :=
      (trims_fieldExpression _ le_rfl (by simp) hopen).split hexpression
    obtain ⟨u', hconversion', hcolon⟩ := hbehind.afterEquals.afterConversion? hconversion
    obtain ⟨u', rfl, hformat⟩ := hcolon.of_plain (by simp) (by decide)
    obtain ⟨inner', t', hinner, hes, hclose⟩ := ihformat hformat
    obtain ⟨t', rfl, hmore⟩ := hclose.of_plain (by simp) (by decide)
    obtain ⟨es', t', hfields, hes', ht'⟩ := ih hmore
    exact ⟨e'.reverse :: (inner' ++ es'), t', .formatted hliteral' (hescapesOk ha hescapes) hlevel
      hexpression' (he.all_isFieldBlank hblank) hconversion' hinner hfields,
      .cons he (List.rel_append hes hes'), ht'⟩

theorem Trims.fieldExpressions {raw : Bool} {cs : List Char} {es : List (List Char)}
    (hcs : fieldExpressions raw cs = some es) (h : Trims G b cs t) :
    ∃ es', fieldExpressions raw t = some es' ∧ List.Forall₂ (Loosely false) es es' := by
  rw [Source.fieldExpressions] at hcs
  split at hcs
  · next hfields =>
    cases hcs
    obtain ⟨es', t', hfields', hes, hrest⟩ := Trims.fieldsIn (fieldsIn_of_fieldsWithin hfields) h
    obtain rfl := hrest.eq_nil
    refine ⟨es', ?_, hes⟩
    rw [Source.fieldExpressions, hfields'.fieldsWithin_eq (Nat.lt_succ_self _)]
  · cases hcs

end

end Source
end TexWeave
