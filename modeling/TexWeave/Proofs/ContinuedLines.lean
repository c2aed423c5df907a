import TexWeave.Proofs.Excerpts

/-!
# Continued lines

The line feed that ends a statement stands on the line of its last word, unless that line is
continued: then a backslash stands at its end.  Lines that are cut out behind such a line end with
the backslash, and cannot be scanned to their end.

* `Step.of_layout`, `lineStart_stops` — moves that add nothing but layout.
* `Reaches.exists_fold` — between a last word and a line feed further down there is a backslash.
* `whole_of_fold` — a backslash at the end of a text.
-/

set_option autoImplicit false

namespace TexWeave
namespace Source

open Form

namespace Scanner

/-! ## Moves that add nothing but layout -/

/-- Whether a scan that goes on in a line comes to a word at once, or to the end of the text. -/
def MeetsWord (r : List Char) : Prop := ∀ c ∈ r.head?, ¬ IsRoom c ∧ c ∉ ['\\', '#', '\n']

section

variable {s t e : Scanner} {new ts : List Token}

theorem measure_stops {fuel : Nat} {d d' : Depth} {held held' : Option Depth}
    (h : measure fuel d held s = some (d', held', t)) :
    ∀ c ∈ t.rest.head?, ¬ IsRoom c ∧ c ≠ '\\' := by
  induction fuel generalizing d held s with
  | zero => cases h
  | succ fuel ih =>
    unfold measure at h
    dsimp only at h
    split at h
    · exact ih h
    · exact ih h
    · exact ih h
    · exact ih h
    · cases h
    · next hspace htab hfeed _ hback =>
      cases h
      intro c hc
      obtain ⟨r, hr⟩ := List.head?_eq_some_iff.1 hc
      refine ⟨?_, fun hslash ↦ hback r (hslash ▸ hr)⟩
      rintro (rfl | rfl | rfl)
      · exact hspace r hr
      · exact htab r hr
      · exact hfeed r hr

/-- The start of a line passes all of it or comes to a word. -/
theorem lineStart_stops (h : s.lineStart = some t) (hs : s.atLineStart = true) :
    t.atLineStart = true ∨ t.atLineStart = false ∧ MeetsWord t.rest := by
  rw [lineStart] at h
  simp only [Option.bind_eq_bind, Option.bind_eq_some_iff] at h
  obtain ⟨⟨depth, held, u⟩, hmeasure, h⟩ := h
  obtain ⟨used, -, -, hu⟩ := exists_spacing_of_measure hmeasure
  have hstart : u.atLineStart = true := by rw [hu, advance_atLineStart, hs]
  split at h
  · next halone =>
    obtain ⟨words, rest, new, -, hstop, -, hcomment⟩ := exists_comment (s := u)
      (by simpa using halone)
    rw [hcomment] at h
    simp only [adding_rest, advance_rest] at h
    cases rest with
    | nil =>
      rw [← Option.some.inj h]
      exact .inr ⟨rfl, fun c hc ↦ by simp at hc⟩
    | cons c r =>
      obtain rfl := hstop c r rfl
      rw [← Option.some.inj h]
      exact .inl (by simpa [emit_eq] using hstart)
  · next halone =>
    have hword : MeetsWord u.rest := by
      intro c hc
      obtain ⟨hroom, hslash⟩ := measure_stops hmeasure c hc
      rw [Option.mem_def] at hc
      simp only [hc, Bool.or_eq_true, beq_iff_eq, Option.some_inj, not_or] at halone
      simp only [List.mem_cons, List.not_mem_nil, or_false, not_or]
      exact ⟨hroom, hslash, halone⟩
    split at h
    · cases h
      exact .inr ⟨rfl, hword⟩
    · obtain ⟨v, hv, rfl⟩ := Option.map_eq_some_iff.1 h
      obtain ⟨depths, marks, -, -, rfl⟩ := exists_marks_of_arrange hv
      exact .inr ⟨rfl, hword⟩

/-- **A token that adds nothing but layout** is room or a comment, a backslash at the end of a line
or a line feed. -/
theorem Step.of_layout {fuel : Nat} (h : Step fuel s new t)
    (hlayout : ∀ k ∈ significant new, k.isLayout = true) :
    (∃ c, s.rest.head? = some c ∧ (IsRoom c ∨ c = '#') ∧ t.atLineStart = s.atLineStart
        ∧ t.brackets = s.brackets ∧ t.line = s.line)
      ∨ (∃ r, s.rest = '\\' :: '\n' :: r ∧ t = s.advance ['\\', '\n'] r)
      ∨ ∃ r, s.rest = '\n' :: r ∧ t = s.lineBreak r := by
  have hsolid {k : Token} (front : List Token) (hnew : significant new = front ++ [k])
      (hk : k.isLayout = false) : False := by
    rw [hlayout k (hnew ▸ List.mem_append_right front List.mem_cons_self)] at hk
    cases hk
  cases h with
  | @blank c rest hrest hc =>
    refine .inl ⟨c, by rw [hrest]; rfl, .inl hc, by simp, by simp, ?_⟩
    rw [advance_line, List.count_singleton, if_neg, Nat.add_zero]
    rcases hc with rfl | rfl | rfl <;> decide
  | fold hrest => exact .inr (.inl ⟨_, hrest, rfl⟩)
  | @comment used rest hrest hused =>
    refine .inl ⟨'#', by rw [hrest]; rfl, .inr rfl, by simp [emit_eq], by simp [emit_eq], ?_⟩
    have hcount : ('#' :: used).count '\n' = 0 := by
      rw [List.count_eq_zero, List.mem_cons, not_or]
      exact ⟨by decide, hused⟩
    rw [emit_eq, adding_line, advance_line, hcount, Nat.add_zero]
  | lineBreak hrest => exact .inr (.inr ⟨_, hrest, rfl⟩)
  | word _ _ hkind =>
    rcases hkind with rfl | rfl <;> exact (hsolid [] (significant_singleton rfl) rfl).elim
  | literal _ _ hkind =>
    rcases hkind with rfl | rfl | rfl <;>
      exact (hsolid [] (significant_singleton rfl) rfl).elim
  | @embedded n used rest expressions inner =>
    refine (hsolid (significant (s.part used .fieldsOpen :: inner.reverse))
      (k := (s.advance used rest).closing) ?_ rfl).elim
    rw [← List.cons_append, significant_append, significant_singleton rfl]
  | operator => exact (hsolid [] (significant_singleton rfl) rfl).elim
  | stray => exact (hsolid [] (significant_singleton rfl) rfl).elim

/-- What adds more than layout goes on in its line. -/
theorem Move.inLine_of_word {k : Token} (h : Move s new t) (hk : k ∈ significant new)
    (hword : k.isLayout = false) : t.atLineStart = false := by
  cases h with
  | start hs h =>
    cases h with
    | passed _ hnew =>
      rw [significant_of_areTrivia hnew] at hk
      cases hk
    | last => rfl
    | inside => rfl
    | arranged => rfl
  | token hs h =>
    cases h with
    | lineBreak =>
      rw [significant] at hk
      obtain rfl := List.mem_singleton.1 (List.mem_of_mem_filter hk)
      rw [Token.isLayout, part] at hword
      cases hb : s.brackets.isEmpty with
      | true => simp [hb] at hword
      | false => simp [hb, part, Token.isTrivia] at hk
    | _ => simp [emit_eq, hs]

/-! ## Runs that add nothing but layout -/

/-- A scan that comes to a word goes no further without adding it. -/
theorem Reaches.eq_of_meetsWord (h : Reaches s ts e) (hs : s.atLineStart = false)
    (hword : MeetsWord s.rest) (hlayout : ∀ k ∈ ts, k.isLayout = true) : e = s := by
  cases h with
  | here => rfl
  | move hmove _ _ =>
    have hnew := (List.forall_mem_append.1 hlayout).1
    cases hmove with
    | start hs' => rw [hs] at hs'; cases hs'
    | token _ hstep =>
      rcases hstep.of_layout hnew with ⟨c, hc, hroom | rfl, -⟩ | ⟨r, hr, -⟩ | ⟨r, hr, -⟩
      · exact absurd hroom (hword c hc).1
      · exact absurd List.mem_cons_self fun h ↦ (hword '#' hc).2 (List.mem_cons_of_mem _ h)
      · exact absurd List.mem_cons_self (hword '\\' (by rw [hr]; rfl)).2
      · exact absurd (by simp) (hword '\n' (by rw [hr]; rfl)).2

/-- From the start of a line there is no way to a line feed in a line that adds nothing but
layout: a line that holds nothing else is passed as a whole. -/
theorem Reaches.rest_ne_of_lineStart (h : Reaches s ts e) (hs : s.atLineStart = true)
    (hlayout : ∀ k ∈ ts, k.isLayout = true) (he : e.atLineStart = false) (X : List Char) :
    e.rest ≠ '\n' :: X := by
  induction h with
  | here =>
    rw [hs] at he
    cases he
  | move _ hrest hnext ih =>
    rw [next, if_pos hs] at hnext
    have hts := (List.forall_mem_append.1 hlayout).2
    rcases lineStart_stops hnext hs with ht | ⟨ht, hword⟩
    · exact ih ht hts he
    · rw [hrest.eq_of_meetsWord ht hword hts]
      intro hfeed
      exact absurd (by simp) (hword '\n' (by rw [hfeed]; rfl)).2

/-- A line behind whose last word the scan comes to a line feed further down is continued. -/
theorem Reaches.exists_fold_of_layout {X : List Char} (h : Reaches s ts e)
    (hs : s.atLineStart = false) (hlayout : ∀ k ∈ ts, k.isLayout = true)
    (he : e.atLineStart = false) (hrest : e.rest = '\n' :: X) (hbrackets : e.brackets = [])
    (hline : s.line < e.line) : ∃ before p r, Reaches s before p ∧ p.line = s.line
      ∧ p.atLineStart = false ∧ p.rest = '\\' :: '\n' :: r := by
  induction h with
  | here => exact absurd hline (Nat.lt_irrefl _)
  | @move s t e new ts hmove hreaches hnext ih =>
    obtain ⟨hnew, hts⟩ := List.forall_mem_append.1 hlayout
    cases hmove with
    | start hs' => rw [hs] at hs'; cases hs'
    | token _ hstep =>
      rcases hstep.of_layout hnew with ⟨c, hc, -, ht, -, htline⟩ | ⟨r, hr, -⟩ | ⟨r, hr, rfl⟩
      · obtain ⟨before, p, r, hp, hpline, hpstart, hprest⟩ :=
          ih (ht.trans hs) hts he hrest hbrackets (htline.symm ▸ hline)
        exact ⟨_, p, r, .move (.token hs hstep) hp hnext, hpline.trans htline, hpstart, hprest⟩
      · exact ⟨[], s, r, .here, rfl, hs, hr⟩
      · exact absurd hrest (hreaches.rest_ne_of_lineStart rfl hts he X)

/-- **Between a last word and a line feed further down** a backslash ends the line of the word. -/
theorem Reaches.exists_fold {X : List Char} {j : Token} (h : Reaches s ts e)
    (hlast : lastWord? ts = some j) (he : e.atLineStart = false) (hrest : e.rest = '\n' :: X)
    (hbrackets : e.brackets = []) (hline : j.endLine < e.line) :
    ∃ before p r, Reaches s before p ∧ p.line = j.endLine ∧ p.atLineStart = false
      ∧ p.rest = '\\' :: '\n' :: r := by
  induction h with
  | here => cases hlast
  | @move s t e new ts hmove hreaches hnext ih =>
    rw [lastWord?_append] at hlast
    cases hmore : lastWord? ts with
    | some j' =>
      rw [hmore, Option.some_or] at hlast
      obtain ⟨before, p, r, hp, hfold⟩ := ih (hmore.trans hlast) he hrest hbrackets hline
      exact ⟨_, p, r, .move hmove hp hnext, hfold⟩
    | none =>
      have hts : ∀ k ∈ ts, k.isLayout = true := fun k hk ↦ by
        simpa using List.find?_eq_none.1 hmore k (List.mem_reverse.2 hk)
      rw [hmore, Option.none_or] at hlast
      rcases hmove.last with hlayout | ⟨front, k, v, c, hnew, hk, hsrest, hc, hend⟩
      · rw [lastWord?_of_layout hlayout] at hlast
        cases hlast
      · rw [hnew, lastWord?_concat hk, Option.some_inj] at hlast
        subst hlast
        have ht := hmove.inLine_of_word (hnew ▸ List.mem_append_right front List.mem_cons_self) hk
        have htline : t.line = k.endLine := by
          obtain ⟨used, hused, hline, -⟩ := hmove.text
          rw [hused, List.append_cons] at hsrest
          rw [hline, hend, List.append_cancel_right hsrest, List.count_append,
            List.count_singleton, if_neg (by simpa using hc), Nat.add_zero]
        obtain ⟨before, p, r, hp, hpline, hfold⟩ :=
          hreaches.exists_fold_of_layout ht hts he hrest hbrackets (htline ▸ hline)
        exact ⟨_, p, r, .move hmove hp hnext, hpline.trans htline, hfold⟩

end

/-! ## A backslash at the end of a text -/

theorem next_of_fold {s : Scanner} (hs : s.atLineStart = false) (hrest : s.rest = ['\\', '\n']) :
    s.next = none := by
  rw [next, hs, token, hrest]
  rfl

theorem whole_of_next_eq_none {s : Scanner} (hs : s.rest ≠ []) (h : s.next = none) :
    s.whole.complete = false := by
  cases hcomplete : s.whole.complete with
  | false => rfl
  | true =>
    obtain ⟨t, ht, -⟩ := exists_next_of_complete hcomplete hs
    rw [h] at ht
    cases ht

theorem Reaches.text {s t : Scanner} {ts : List Token} (h : Reaches s ts t) :
    ∃ used, s.rest = used ++ t.rest ∧ t.line = s.line + used.count '\n' := by
  induction h with
  | here => exact ⟨[], rfl, rfl⟩
  | move hmove _ _ ih =>
    obtain ⟨used, hused, hline⟩ := ih
    obtain ⟨passed, hpassed, hmore, -⟩ := hmove.text
    refine ⟨passed ++ used, by rw [hpassed, hused, List.append_assoc], ?_⟩
    rw [hline, hmore, List.count_append, Nat.add_assoc]

/-- **A backslash at the end of a text** is a fault: there is no line to go on with. -/
theorem Reaches.whole_of_fold {s p : Scanner} {before : List Token} {r : List Char}
    (h : Reaches s before p) (hp : p.atLineStart = false) (hrest : p.rest = '\\' :: '\n' :: r) :
    ∃ own, s.rest = own ++ '\n' :: r ∧ own.getLast? = some '\\'
      ∧ p.line = s.line + own.count '\n' ∧ (s.leaving (own ++ ['\n'])).whole.complete = false := by
  obtain ⟨used, hused, hline⟩ := h.text
  obtain ⟨used', hused', hwhole⟩ := h.whole_eq (w := ['\\']) (Y := []) hrest (Nat.zero_le _)
  obtain rfl : used' = used := List.append_cancel_right (hused'.symm.trans hused)
  refine ⟨used' ++ ['\\'], by rw [hused, hrest, List.append_assoc]; rfl,
    List.getLast?_concat, ?_, ?_⟩
  · rw [hline, List.count_append]
    rfl
  · rw [List.append_assoc]
    exact (congrArg Scanned.complete hwhole).trans
      (whole_of_next_eq_none (List.cons_ne_nil _ _) (next_of_fold hp rfl))

end Scanner
end Source
end TexWeave
