import TexWeave.Proofs.LiteralsAhead
import TexWeave.Proofs.Resuming
import TexWeave.Proofs.ScanningDepth

/-!
# How far ahead a scan looks

A scan that has come no further than a line feed has not looked behind it.  So two texts that begin
alike up to a line feed are scanned alike as long as this line feed is left.

* `leaving` — a scan with other characters left.
* `token_ahead`, `lineStart_ahead` — one token, and the start of a line.
* `next_ahead` — a move of either kind.
-/

set_option autoImplicit false

namespace TexWeave
namespace Source
namespace Scanner

section

variable (s : Scanner) (r : List Char)

/-- The scan with other characters left. -/
def leaving : Scanner := { s with rest := r }

@[simp] theorem leaving_rest : (s.leaving r).rest = r := rfl

@[simp] theorem leaving_line : (s.leaving r).line = s.line := rfl

@[simp] theorem leaving_column : (s.leaving r).column = s.column := rfl

@[simp] theorem leaving_atLineStart : (s.leaving r).atLineStart = s.atLineStart := rfl

@[simp] theorem leaving_depths : (s.leaving r).depths = s.depths := rfl

@[simp] theorem leaving_brackets : (s.leaving r).brackets = s.brackets := rfl

@[simp] theorem leaving_found : (s.leaving r).found = s.found := rfl

variable (passed r' : List Char)

theorem advance_leaving : (s.leaving r).advance passed r' = s.advance passed r' := by
  rw [advance_eq, advance_eq]
  rfl

theorem leaving_advance : (s.advance passed r).leaving r' = s.advance passed r' := by
  rw [advance_eq, advance_eq]
  rfl

theorem emit_leaving (kind : TokenKind) :
    (s.leaving r).emit kind passed r' = s.emit kind passed r' := by
  rw [emit, emit, advance_leaving]
  rfl

theorem leaving_emit (kind : TokenKind) :
    (s.emit kind passed r).leaving r' = s.emit kind passed r' := by
  rw [emit_eq, emit_eq, ← leaving_advance s r passed r']
  rfl

theorem lineBreak_leaving : (s.leaving r).lineBreak r' = s.lineBreak r' := by
  rw [lineBreak, lineBreak, emit_leaving]
  rfl

theorem leaving_lineBreak : (s.lineBreak r).leaving r' = s.lineBreak r' := by
  rw [lineBreak, lineBreak, ← leaving_emit s r]
  rfl

end

/-! ## Tokens -/

section

variable {X Y : List Char} {s t : Scanner} {x w : List Char}

theorem take_used {rest : List Char} (h : (rest ++ '\n' :: X).length ≤ (x ++ '\n' :: X).length) :
    (x ++ '\n' :: X).take ((x ++ '\n' :: X).length - (rest ++ '\n' :: X).length)
      = x.take (x.length - rest.length) := by
  simp only [List.length_append, List.length_cons] at h ⊢
  rw [show x.length + (X.length + 1) - (rest.length + (X.length + 1)) = x.length - rest.length by
    omega, List.take_append_of_le_length (Nat.sub_le _ _)]

theorem string_ahead {n : Nat} {sort : StringSort} {opening : List Char} {q : Char}
    (hq : q ≠ '\n') (ht : t.rest = w ++ '\n' :: X)
    (h : string n sort opening q (x ++ '\n' :: X) s = some t) (r : List Char) :
    string n sort opening q (x ++ '\n' :: Y) (s.leaving r) = some (t.leaving (w ++ '\n' :: Y)) := by
  cases n with
  | zero => cases h
  | succ n =>
    rw [string] at h ⊢
    obtain ⟨⟨body, rest⟩, hclose, h⟩ := Option.bind_eq_some_iff.1 h
    have hrest : rest = w ++ '\n' :: X := by
      rw [← ht]
      dsimp only at h
      split at h
      · split at h <;> cases h
        rw [emit_eq, adding_rest, advance_rest]
      · split at h
        · simp only [Option.bind_eq_bind, Option.bind_eq_some_iff] at h
          obtain ⟨es, -, inner, -, h⟩ := h
          rw [← Option.some.inj h]
          exact (advance_rest ..).symm
        · split at h <;> cases h
          rw [emit_eq, adding_rest, advance_rest]
    subst hrest
    have hlength := length_closeString hclose
    have hused := take_used (X := X) (by omega : (w ++ '\n' :: X).length ≤ (x ++ '\n' :: X).length)
    have hused' : (x ++ '\n' :: Y).take ((x ++ '\n' :: Y).length - (w ++ '\n' :: Y).length)
        = x.take (x.length - w.length) := take_used (by
      simp only [List.length_append, List.length_cons] at hlength ⊢
      omega)
    rw [closeString_ahead hq hclose, Option.bind_some]
    dsimp only at h ⊢
    rw [hused] at h
    rw [hused']
    simp only [emit_leaving, advance_leaving, leaving_line]
    split at h
    · next hbytes =>
      rw [if_pos hbytes]
      split at h
      · next hok =>
        cases h
        rw [if_pos hok, leaving_emit]
      · cases h
    · next hbytes =>
      rw [if_neg hbytes]
      split at h
      · next hfields =>
        rw [if_pos hfields]
        simp only [Option.bind_eq_bind, Option.bind_eq_some_iff] at h
        obtain ⟨es, hes, inner, hinner, h⟩ := h
        simp only [Option.bind_eq_bind, hes, hinner, Option.bind_some]
        rw [← Option.some.inj h]
        simp only [emit_eq, advance_eq]
        rfl
      · next hfields =>
        rw [if_neg hfields]
        split at h
        · next hok =>
          cases h
          rw [if_pos hok, leaving_emit]
        · cases h

theorem number_ahead {o o' : Option Split} (ho : SameToLine X Y o o')
    (ht : t.rest = w ++ '\n' :: X) (h : number o s = some t) (r : List Char) :
    number o' (s.leaving r) = some (t.leaving (w ++ '\n' :: Y)) := by
  rw [number] at h
  obtain ⟨⟨acc, rest⟩, hsplit, rfl⟩ := Option.map_eq_some_iff.1 h
  obtain ⟨w', hw', rfl⟩ := ho _ hsplit
  rw [emit_eq, adding_rest, advance_rest] at ht
  rw [List.append_cancel_right (hw'.symm.trans ht), number, Option.map_some, emit_leaving,
    leaving_emit]

theorem word_ahead {cs : List Char} (hs : s.rest = cs ++ (x ++ '\n' :: X))
    (ht : t.rest = w ++ '\n' :: X) (h : s.word cs = some t) :
    (s.leaving (cs ++ (x ++ '\n' :: Y))).word cs = some (t.leaving (w ++ '\n' :: Y)) := by
  rw [word, hs, List.drop_left] at h
  rw [word, leaving_rest, List.drop_left, emit_leaving]
  split at h
  · next hok =>
    cases h
    rw [emit_eq, adding_rest, advance_rest] at ht
    rw [if_pos hok, leaving_emit, List.append_cancel_right ht]
  · cases h

theorem operator_ahead {o : String} (ho : o.toList.isPrefixOf (x ++ '\n' :: X) = true)
    (hfeed : '\n' ∉ o.toList) (hs : s.rest = x ++ '\n' :: X) (ht : t.rest = w ++ '\n' :: X)
    (h : s.operator o = some t) :
    (s.leaving (x ++ '\n' :: Y)).operator o = some (t.leaving (w ++ '\n' :: Y)) := by
  obtain ⟨x', rfl⟩ : ∃ x', x = o.toList ++ x' := by
    obtain ⟨r, hr⟩ := List.isPrefixOf_iff_prefix.1 ho
    rcases List.append_eq_append_iff.1 hr with ⟨x', hx, -⟩ | ⟨v, hv, hrest⟩
    · exact ⟨x', hx⟩
    · cases v with
      | nil => exact ⟨[], by rw [hv, List.append_nil, List.append_nil]⟩
      | cons c v =>
        obtain ⟨rfl, -⟩ := List.cons.inj hrest
        exact absurd (hv ▸ List.mem_append_right x List.mem_cons_self) hfeed
  have hdrop (Z : List Char) : (o.toList ++ x' ++ '\n' :: Z).drop o.length = x' ++ '\n' :: Z := by
    rw [List.append_assoc, ← String.length_toList, List.drop_left]
  have hend {brackets : List Char}
      (h : { s.emit .operator o.toList (x' ++ '\n' :: X) with brackets := brackets } = t) :
      some { s.emit .operator o.toList (x' ++ '\n' :: Y) with brackets := brackets }
        = some (t.leaving (w ++ '\n' :: Y)) := by
    rw [← h] at ht ⊢
    rw [← leaving_emit s (x' ++ '\n' :: X)]
    rw [emit_eq] at ht
    rw [List.append_cancel_right ((advance_rest ..).symm.trans ht)]
    rfl
  rw [operator, hs, hdrop] at h
  rw [operator, leaving_rest, hdrop, emit_leaving, leaving_brackets]
  split at h
  · next hopen =>
    rw [if_pos hopen]
    split at h
    · cases h
    · next hdeep =>
      rw [if_neg hdeep]
      exact hend (Option.some.inj h)
  · next hopen =>
    rw [if_neg hopen]
    split at h
    · next hclose =>
      rw [if_pos hclose]
      split at h
      · cases h
      · split at h
        · next hmatch =>
          rw [if_pos hmatch]
          exact hend (Option.some.inj h)
        · cases h
    · next hclose =>
      rw [if_neg hclose]
      rw [← Option.some.inj h, emit_eq, adding_rest, advance_rest] at ht
      rw [← Option.some.inj h, leaving_emit, List.append_cancel_right ht]

theorem comment_of_hash {r : List Char} (hs : s.rest = '#' :: r) : s.comment
    = s.emit .comment ('#' :: r.takeWhile (· != '\n')) (r.dropWhile (· != '\n')) := by
  rw [comment, hs]
  rfl

theorem comment_of_ne (hs : ∀ r, s.rest ≠ '#' :: r) : s.comment = s := by
  unfold comment
  split
  · next r hr => exact absurd hr (hs r)
  · rfl

/-- A comment ends in front of a line feed. -/
theorem comment_ahead (hs : s.rest = x ++ '\n' :: X) :
    ∃ w, s.comment.rest = w ++ '\n' :: X
      ∧ (s.leaving (x ++ '\n' :: Y)).comment = s.comment.leaving (w ++ '\n' :: Y) := by
  have hnone (h : ∀ Z r, x ++ '\n' :: Z ≠ '#' :: r) : ∃ w, s.comment.rest = w ++ '\n' :: X
      ∧ (s.leaving (x ++ '\n' :: Y)).comment = s.comment.leaving (w ++ '\n' :: Y) := by
    rw [comment_of_ne (hs ▸ h X), comment_of_ne (h Y)]
    exact ⟨x, hs, rfl⟩
  cases x with
  | nil => exact hnone fun Z r h ↦ absurd (List.cons.inj h).1 (by decide)
  | cons c x =>
    by_cases hc : c = '#'
    · subst hc
      refine ⟨x.dropWhile (· != '\n'), ?_, ?_⟩
      · rw [comment_of_hash hs, emit_eq, adding_rest, advance_rest]
        exact dropWhile_ahead rfl x
      · rw [comment_of_hash hs, leaving_emit]
        rw [comment_of_hash (s := s.leaving ('#' :: x ++ '\n' :: Y)) rfl, emit_leaving]
        exact congrArg₂ (fun p r ↦ s.emit .comment ('#' :: p) r)
          ((takeWhile_ahead rfl x).trans (takeWhile_ahead rfl x).symm) (dropWhile_ahead rfl x)
    · exact hnone fun Z r h ↦ hc (List.cons.inj h).1

theorem isWordLike_newline : isWordLike '\n' = false := by decide

theorem lineBreak_rest (s : Scanner) (r : List Char) : (s.lineBreak r).rest = r := by
  rw [lineBreak, emit_eq]
  exact advance_rest ..

theorem ne_append_newline : X ≠ w ++ '\n' :: X := by
  intro h
  have hlength := congrArg List.length h
  rw [List.length_append, List.length_cons] at hlength
  omega

/-- What begins like a word: letters with a string behind them, or a word. -/
def wordOrString (n : Nat) (cs v : List Char) (s : Scanner) : Option Scanner :=
  match v with
  | q :: v =>
    if q = '\'' || q = '"' then
      match StringSort.ofLetters? cs with
      | some sort => string n sort (cs ++ [q]) q v s
      | none => s.word cs
    else s.word cs
  | [] => s.word cs

theorem wordOrString_ahead {n : Nat} {cs : List Char} (hs : s.rest = cs ++ (x ++ '\n' :: X))
    (ht : t.rest = w ++ '\n' :: X) (h : wordOrString n cs (x ++ '\n' :: X) s = some t) :
    wordOrString n cs (x ++ '\n' :: Y) (s.leaving (cs ++ (x ++ '\n' :: Y)))
      = some (t.leaving (w ++ '\n' :: Y)) := by
  cases x with
  | nil => exact word_ahead (x := []) hs ht h
  | cons q v =>
    rw [List.cons_append, wordOrString] at h ⊢
    split at h
    · next hquote =>
      rw [if_pos hquote]
      have hq : q ≠ '\n' := by
        rintro rfl
        exact absurd hquote (by decide)
      cases hsort : StringSort.ofLetters? cs with
      | none =>
        rw [hsort] at h
        exact word_ahead (x := q :: v) hs ht h
      | some sort =>
        rw [hsort] at h
        exact string_ahead hq ht h _
    · next hquote =>
      rw [if_neg hquote]
      exact word_ahead (x := q :: v) hs ht h

/-- **One token** is scanned without a look behind the next line feed. -/
theorem token_ahead {n : Nat} (hs : s.rest = x ++ '\n' :: X) (ht : t.rest = w ++ '\n' :: X)
    (h : token n s = some t) :
    token n (s.leaving (x ++ '\n' :: Y)) = some (t.leaving (w ++ '\n' :: Y)) := by
  cases n with
  | zero => cases h
  | succ n =>
    rw [token, hs] at h
    rw [token, leaving_rest]
    cases x with
    | nil =>
      change some (s.lineBreak X) = some t at h
      rw [← Option.some.inj h, lineBreak_rest] at ht
      exact absurd ht ne_append_newline
    | cons c x =>
      dsimp only [List.cons_append] at h hs ⊢
      split at h
      · next hblank =>
        cases h
        rw [advance_rest] at ht
        rw [if_pos hblank, advance_leaving, leaving_advance, List.append_cancel_right ht]
      next hblank =>
      rw [if_neg hblank]
      split at h
      · next hcomment =>
        subst hcomment
        cases h
        obtain ⟨w', hw', hcomment⟩ := comment_ahead (Y := Y) (x := '#' :: x) hs
        rw [List.append_cancel_right (hw'.symm.trans ht)] at hcomment
        rw [if_pos rfl]
        exact congrArg some hcomment
      next hcomment =>
      rw [if_neg hcomment]
      split at h
      · next hfeed =>
        cases h
        rw [lineBreak_rest] at ht
        rw [if_pos hfeed, lineBreak_leaving, leaving_lineBreak, List.append_cancel_right ht]
      next hfeed =>
      rw [if_neg hfeed]
      split at h
      · next hback =>
        rw [if_pos hback]
        cases x with
        | nil =>
          split at h
          · next d r heq =>
            cases heq
            rw [← Option.some.inj h, advance_rest] at ht
            exact absurd ht ne_append_newline
          · cases h
        | cons c' x =>
          by_cases hc : c' = '\n'
          · subst hc
            have hcons (Z : List Char) : ∃ d r, x ++ '\n' :: Z = d :: r := by
              cases x <;> exact ⟨_, _, rfl⟩
            obtain ⟨d, r, hX⟩ := hcons X
            obtain ⟨d', r', hY⟩ := hcons Y
            rw [List.cons_append, hX] at h
            rw [List.cons_append, hY]
            change some (s.advance ['\\', '\n'] (d :: r)) = some t at h
            change some ((s.leaving _).advance ['\\', '\n'] (d' :: r')) = _
            rw [← Option.some.inj h, advance_rest, ← hX] at ht
            rw [← Option.some.inj h, advance_leaving, leaving_advance, ← hY,
              List.append_cancel_right ht]
          · split at h
            · next heq => exact absurd (List.cons.inj heq).1 hc
            · cases h
      next hback =>
      rw [if_neg hback]
      split at h
      · next hword =>
        rw [if_pos hword]
        have hcut (Z : List Char) : (c :: (x ++ '\n' :: Z)).takeWhile isWordLike
            = (c :: x).takeWhile isWordLike := takeWhile_ahead isWordLike_newline (c :: x)
        have hdrop (Z : List Char) :
            (c :: (x ++ '\n' :: Z)).drop ((c :: x).takeWhile isWordLike).length
              = (c :: x).dropWhile isWordLike ++ '\n' :: Z := by
          rw [← hcut Z, Text.drop_length_takeWhile]
          exact dropWhile_ahead isWordLike_newline (c :: x)
        have hsplit : c :: x
            = (c :: x).takeWhile isWordLike ++ (c :: x).dropWhile isWordLike :=
          List.takeWhile_append_dropWhile.symm
        have hwhole (Z : List Char) : c :: (x ++ '\n' :: Z) = (c :: x).takeWhile isWordLike
            ++ ((c :: x).dropWhile isWordLike ++ '\n' :: Z) := by
          rw [← List.append_assoc, ← hsplit]
          rfl
        rw [hcut, hdrop] at h
        rw [hcut, hdrop]
        exact hwhole Y ▸ wordOrString_ahead (hs.trans (hwhole X)) ht h
      next hword =>
      rw [if_neg hword]
      split at h
      · next hquote =>
        rw [if_pos hquote]
        have hq : c ≠ '\n' := by
          rintro rfl
          exact absurd hquote (by decide)
        exact string_ahead hq ht h _
      next hquote =>
      rw [if_neg hquote]
      split at h
      · next hdigit =>
        rw [if_pos hdigit]
        exact number_ahead (looksToLine_scanNumber X Y [] (c :: x)) ht h _
      next hdigit =>
      rw [if_neg hdigit]
      have hhead : (x ++ '\n' :: Y).head? = (x ++ '\n' :: X).head? := by cases x <;> rfl
      rw [hhead]
      split at h
      · next hpoint =>
        rw [if_pos hpoint]
        exact number_ahead (looksToLine_fractionTail X Y ['.'] x) ht h _
      next hpoint =>
      rw [if_neg hpoint]
      have hoperator : operatorAt? (c :: (x ++ '\n' :: Y)) = operatorAt? (c :: (x ++ '\n' :: X)) :=
        operatorAt?_ahead (c :: x)
      rw [hoperator]
      split at h
      · next o ho =>
        unfold operatorAt? at ho
        have hfeed : ∀ o ∈ operators.flatten, '\n' ∉ o.toList := by decide
        have hprefix := List.find?_some ho
        exact operator_ahead (x := c :: x) hprefix (hfeed o (List.mem_of_find?_eq_some ho)) hs ht h
      · cases h
        rw [emit_eq, adding_rest, advance_rest] at ht
        rw [emit_leaving, leaving_emit, List.append_cancel_right ht]

/-! ## Starts of lines -/

/-- What is left behind characters, if more than `X` is left. -/
theorem exists_ahead_of_isSuffix {r : List Char} (h : r <:+ x ++ '\n' :: X)
    (hlength : X.length < r.length) : ∃ w, r = w ++ '\n' :: X := by
  obtain ⟨w, hw⟩ := List.suffix_of_suffix_length_le (List.suffix_append x ('\n' :: X)) h
    (by rw [List.length_cons]; exact hlength)
  exact ⟨w, hw.symm⟩

theorem measure_ahead {n m : Nat} {d d' : Depth} {held held' : Option Depth}
    (hs : s.rest = x ++ '\n' :: X) (ht : t.rest = w ++ '\n' :: X) (hm : x.length < m)
    (h : measure n d held s = some (d', held', t)) :
    measure m d held (s.leaving (x ++ '\n' :: Y))
      = some (d', held', t.leaving (w ++ '\n' :: Y)) := by
  induction n generalizing m d held s x with
  | zero => cases h
  | succ n ih =>
    obtain ⟨m, rfl⟩ := Nat.exists_eq_succ_of_ne_zero (Nat.ne_zero_of_lt hm)
    -- where characters are passed, the rest is measured alike
    have hgo {d : Depth} {held : Option Depth} (x' passed : List Char) (hx : x = passed ++ x')
        (hpassed : passed ≠ [])
        (h : measure n d held (s.advance passed (x' ++ '\n' :: X)) = some (d', held', t)) :
        measure m d held ((s.leaving (x ++ '\n' :: Y)).advance passed (x' ++ '\n' :: Y))
          = some (d', held', t.leaving (w ++ '\n' :: Y)) := by
      have hlength := List.length_pos_iff.2 hpassed
      rw [hx, List.length_append] at hm
      rw [advance_leaving, ← leaving_advance s (x' ++ '\n' :: X)]
      exact ih (advance_rest ..) (by omega) h
    have hhere (h : some (d, held, s) = some (d', held', t)) :
        some (d, held, s.leaving (x ++ '\n' :: Y))
          = some (d', held', t.leaving (w ++ '\n' :: Y)) := by
      cases h
      rw [List.append_cancel_right (hs.symm.trans ht)]
    unfold measure at h ⊢
    rw [leaving_rest]
    cases x with
    | nil =>
      rw [hs] at h
      exact hhere h
    | cons c x =>
      rw [hs] at h
      dsimp only [List.cons_append] at h ⊢
      split at h
      · next heq =>
        cases heq
        exact hgo x [' '] rfl (List.cons_ne_nil _ _) h
      · next heq =>
        cases heq
        exact hgo x ['\t'] rfl (List.cons_ne_nil _ _) h
      · next heq =>
        cases heq
        exact hgo x ['\x0c'] rfl (List.cons_ne_nil _ _) h
      · next c' r heq =>
        obtain ⟨rfl, hr⟩ := List.cons.inj heq
        cases x with
        | nil =>
          cases hr
          obtain ⟨used, -, hused, -⟩ := exists_spacing_of_measure h
          rw [advance_rest, ht, ← List.append_assoc] at hused
          exact absurd hused ne_append_newline
        | cons b x =>
          obtain ⟨rfl, htail⟩ := List.cons.inj hr
          rw [← htail] at h
          have hend := hgo x ['\\', '\n'] rfl (List.cons_ne_nil _ _) h
          cases x <;> exact hend
      · cases h
      · next hspace htab hfeed hfold hback =>
        have hc {b : Char} {r r' : List Char} (hb : ∀ r, c :: (x ++ '\n' :: X) ≠ b :: r)
            (heq : c :: r = b :: r') : False :=
          hb _ (congrArg (· :: (x ++ '\n' :: X)) (List.cons.inj heq).1)
        split
        · next heq => exact (hc hspace heq).elim
        · next heq => exact (hc htab heq).elim
        · next heq => exact (hc hfeed heq).elim
        · next heq => exact (hc hback heq).elim
        · next heq => exact (hc hback heq).elim
        · exact hhere h

theorem closeBlocks_leaving (d : Depth) (depths : List Depth) (s : Scanner) (r : List Char) :
    closeBlocks d depths (s.leaving r)
      = ((closeBlocks d depths s).1, (closeBlocks d depths s).2.leaving r) := by
  induction depths generalizing s with
  | nil => rfl
  | cons top below ih =>
    rw [closeBlocks, closeBlocks]
    split
    · exact ih (s.mark .dedent)
    · rfl

theorem arrange_leaving (d : Depth) (s : Scanner) (r : List Char) :
    arrange d (s.leaving r) = (arrange d s).map (·.leaving r) := by
  rw [arrange, arrange, leaving_depths, closeBlocks_leaving]
  dsimp only
  split_ifs <;> rfl

theorem length_comment (s : Scanner) : s.comment.rest.length ≤ s.rest.length := by
  unfold comment
  split
  · next r hr =>
    rw [emit_eq, adding_rest, advance_rest, hr]
    exact (List.dropWhile_suffix _).length_le.trans (Nat.le_succ _)
  · exact Nat.le_refl _

/-- **The start of a line** is scanned without a look behind the next line feed. -/
theorem lineStart_ahead (hs : s.rest = x ++ '\n' :: X) (ht : t.rest = w ++ '\n' :: X)
    (h : s.lineStart = some t) :
    (s.leaving (x ++ '\n' :: Y)).lineStart = some (t.leaving (w ++ '\n' :: Y)) := by
  rw [lineStart] at h ⊢
  simp only [Option.bind_eq_bind, Option.bind_eq_some_iff] at h
  obtain ⟨⟨depth, held, u⟩, hmeasure, h⟩ := h
  obtain ⟨used, -, hused, -⟩ := exists_spacing_of_measure hmeasure
  dsimp only at h
  obtain ⟨v, hv⟩ : ∃ v, u.rest = v ++ '\n' :: X := by
    have hsuffix : u.rest <:+ x ++ '\n' :: X := hs ▸ hused ▸ List.suffix_append used u.rest
    refine exists_ahead_of_isSuffix hsuffix ?_
    have hlength : X.length < t.rest.length := by
      rw [ht, List.length_append, List.length_cons]
      omega
    refine hlength.trans_le ?_
    split at h
    · have hcomment := length_comment u
      split at h
      · next r hr =>
        rw [hr, List.length_cons] at hcomment
        rw [← Option.some.inj h, emit_eq, adding_rest, advance_rest]
        exact (Nat.le_succ _).trans hcomment
      · rw [← Option.some.inj h]
        exact hcomment
    · split at h
      · rw [← Option.some.inj h]
      · obtain ⟨u', hu', rfl⟩ := Option.map_eq_some_iff.1 h
        obtain ⟨depths, marks, -, -, rfl⟩ := exists_marks_of_arrange hu'
        exact Nat.le_refl _
  have hlength : x.length < (s.leaving (x ++ '\n' :: Y)).rest.length + 1 := by
    rw [leaving_rest, List.length_append]
    omega
  rw [measure_ahead hs hv hlength hmeasure]
  simp only [Option.bind_eq_bind, Option.bind_some]
  have hhead : (v ++ '\n' :: Y).head? = u.rest.head? := by
    rw [hv]
    cases v <;> rfl
  rw [leaving_rest, hhead]
  split at h
  · next halone =>
    rw [if_pos halone]
    obtain ⟨v', hv', hcomment⟩ := comment_ahead (Y := Y) hv
    rw [hv'] at h
    rw [hcomment, leaving_rest]
    cases v' with
    | nil =>
      change some (u.comment.emit .gap ['\n'] X) = some t at h
      rw [← Option.some.inj h, emit_eq, adding_rest, advance_rest] at ht
      exact absurd ht ne_append_newline
    | cons c v' =>
      by_cases hc : c = '\n'
      · subst hc
        change some (u.comment.emit .gap ['\n'] (v' ++ '\n' :: X)) = some t at h
        change some ((u.comment.leaving _).emit .gap ['\n'] (v' ++ '\n' :: Y)) = _
        rw [← Option.some.inj h, emit_eq, adding_rest, advance_rest] at ht
        rw [← Option.some.inj h, emit_leaving, leaving_emit, List.append_cancel_right ht]
      · have hmore (Z r : List Char) : c :: v' ++ '\n' :: Z ≠ '\n' :: r :=
          fun heq ↦ hc (List.cons.inj heq).1
        split at h
        · next heq => exact absurd heq (hmore X _)
        · split
          · next heq => exact absurd heq (hmore Y _)
          · rw [← Option.some.inj h] at ht ⊢
            rw [List.append_cancel_right ht]
            rfl
  · next halone =>
    rw [if_neg halone, leaving_brackets]
    split at h
    · next hbrackets =>
      rw [if_pos hbrackets]
      cases h
      rw [List.append_cancel_right (hv.symm.trans ht)]
      rfl
    · next hbrackets =>
      rw [if_neg hbrackets, arrange_leaving, Option.map_map]
      obtain ⟨u', hu', rfl⟩ := Option.map_eq_some_iff.1 h
      obtain ⟨depths, marks, -, -, rfl⟩ := exists_marks_of_arrange hu'
      rw [hu', List.append_cancel_right (hv.symm.trans ht)]
      rfl

/-- **A move** is made without a look behind the next line feed, and without counting on more
characters than there are. -/
theorem next_ahead (hs : s.rest = x ++ '\n' :: X) (ht : t.rest = w ++ '\n' :: X)
    (hY : Y.length ≤ X.length) (h : s.next = some t) :
    (s.leaving (x ++ '\n' :: Y)).next = some (t.leaving (w ++ '\n' :: Y)) := by
  rw [next] at h ⊢
  rw [leaving_atLineStart]
  split at h
  · next hstart =>
    rw [if_pos hstart]
    exact lineStart_ahead hs ht h
  · next hstart =>
    rw [if_neg hstart]
    have hfuel : (s.leaving (x ++ '\n' :: Y)).rest.length ≤ s.rest.length := by
      rw [leaving_rest, hs, List.length_append, List.length_append, List.length_cons,
        List.length_cons]
      omega
    rw [(same_of_enough _ (2 * s.rest.length + 4)).1 _ (Nat.le_refl _) (by omega)]
    exact token_ahead hs ht h

end

end Scanner
end Source
end TexWeave
