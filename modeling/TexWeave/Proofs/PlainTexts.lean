import TexWeave.Proofs.Console

/-!
# Texts that tags leave alone

In console text brackets, backslashes and colons may stand for something else: a tag, a bracket
that opens none, an emoji.  Whatever is taken for one of these has fewer of the three characters
behind it than in front, so a text comes out as it is only if nothing in it is.

* `marks` — how many of the three characters a text has.
* `Bare` — a text in which nothing stands for something else; `plainText_eq_self_iff`, exactly
  these texts come out as they are.
* `Label` — a text in one pair of tags; `plainText_labelled`, what comes out of a text behind one.
-/

set_option autoImplicit false

namespace TexWeave
namespace Console

open Text

variable {emoji : EmojiTable}

/-! ## Marks -/

/-- Whether a character may be part of something that stands for something else. -/
def isMark (c : Char) : Bool := c == '[' || c == '\\' || c == ':'

/-- How many such characters a text has. -/
def marks (cs : List Char) : Nat := cs.countP isMark

/-- Emoji in which no such character stands. -/
def Unmarked (emoji : EmojiTable) : Prop := ∀ e ∈ emoji, ∀ c ∈ e.2.toList, isMark c = false

theorem marks_append (a b : List Char) : marks (a ++ b) = marks a + marks b :=
  List.countP_append

theorem marks_cons_of_mark {c : Char} (hc : isMark c = true) (cs : List Char) :
    marks (c :: cs) = marks cs + 1 := List.countP_cons_of_pos hc

theorem marks_cons (c : Char) (cs : List Char) :
    marks (c :: cs) = marks cs + marks [c] := by
  rw [← List.singleton_append, marks_append, Nat.add_comm]

theorem unescaped_eq_or_lt (cs : List Char) :
    ¬ ['\\', '['] <:+: cs ∧ unescaped cs = cs
      ∨ ['\\', '['] <:+: cs ∧ marks (unescaped cs) < marks cs := by
  fun_induction unescaped cs with
  | case1 r ih =>
    have hle : marks (unescaped r) ≤ marks r := ih.elim (fun h ↦ by rw [h.2]) fun h ↦ h.2.le
    refine .inr ⟨⟨[], r, rfl⟩, ?_⟩
    rw [marks_cons_of_mark (by decide), marks_cons_of_mark (by decide),
      marks_cons_of_mark (by decide)]
    omega
  | case2 c r hne ih =>
    rcases ih with ⟨hin, heq⟩ | ⟨hin, hlt⟩
    · refine .inl ⟨fun hcons ↦ ?_, congrArg (c :: ·) heq⟩
      rcases List.infix_cons_iff.1 hcons with ⟨t, ht⟩ | hcons
      · obtain ⟨rfl, rfl⟩ := List.cons.inj ht
        exact hne t rfl rfl
      · exact hin hcons
    · refine .inr ⟨List.infix_cons hin, ?_⟩
      rw [marks_cons c (unescaped r), marks_cons c r]
      omega
  | case3 => exact .inl ⟨by simp, rfl⟩

/-! ## Tags -/

/-- The text of a piece; a tag has none. -/
def Piece.letters : Piece → List Char
  | .text cs => cs
  | .tag _ _ => []

/-- What shows of a stretch of text in front of other pieces. -/
theorem shown_textPiece (styles : List String) (cs : List Char) (ps : List Piece) :
    shown emoji styles (textPiece cs ++ ps)
      = (replaceEmoji emoji (unescaped cs) ++ ·) <$> shown emoji styles ps := by
  unfold textPiece
  split
  · rename_i hnil
    rw [List.isEmpty_iff.1 hnil]
    exact (id_map _).symm
  · rfl

/-- The styles that are open behind a tag, unless it closes nothing. -/
def stylesAfter? (styles : List String) (tag : List Char) : Option (List String) :=
  match tag.takeWhile (· != '=') with
  | '/' :: style =>
    if (trim style).isEmpty then styles.tail? else close? (styleName (trim style)) styles
  | name => some (styleName name :: styles)

theorem stylesAfter?_of_closing {styles : List String} {tag style : List Char}
    (h : tag.takeWhile (· != '=') = '/' :: style) : stylesAfter? styles tag
      = if (trim style).isEmpty then styles.tail? else close? (styleName (trim style)) styles := by
  rw [stylesAfter?, h]
  rfl

theorem stylesAfter?_of_opening {styles : List String} {tag : List Char}
    (h : ∀ style, tag.takeWhile (· != '=') ≠ '/' :: style) : stylesAfter? styles tag
      = some (styleName (tag.takeWhile (· != '=')) :: styles) := by
  unfold stylesAfter?
  split
  · rename_i hname
    exact absurd hname (h _)
  · rfl

/-- What shows behind a tag does not depend on the place of the tag. -/
theorem toOption_shown_tag (styles : List String) (n : Nat) (tag : List Char) (ps : List Piece) :
    (shown emoji styles (.tag n tag :: ps)).toOption
      = (stylesAfter? styles tag).bind fun inner ↦ (shown emoji inner ps).toOption := by
  rw [shown.eq_def]
  dsimp only
  split
  · rename_i style hname
    rw [stylesAfter?_of_closing hname]
    by_cases hany : (trim style).isEmpty = true
    · rw [if_pos hany, if_pos hany]
      cases styles <;> rfl
    · rw [if_neg hany, if_neg hany]
      cases close? (styleName (trim style)) styles <;> rfl
  · rename_i hname
    rw [stylesAfter?_of_opening hname]
    rfl

/-- A word in a style, with a colon behind it. -/
structure Label where
  indent : Nat
  style : List Char
  word : List Char
  style_ne : style ≠ []
  style_letters : style.all isAsciiLower = true
  word_plain : (word.all fun c ↦ !isMark c && !isControl c) = true

namespace Label

/-- The label with the tags that style it. -/
def tagged (label : Label) : List Char :=
  List.replicate label.indent ' ' ++ '[' :: (label.style ++ ']' :: (label.word ++ ":[/] ".toList))

/-- The label as the console shows it. -/
def plain (label : Label) : List Char :=
  List.replicate label.indent ' ' ++ (label.word ++ ": ".toList)

theorem not_isMark_of_mem (label : Label) {c : Char} (hc : c ∈ label.word) : isMark c = false := by
  have h := List.all_eq_true.1 label.word_plain c hc
  rw [Bool.and_eq_true, Bool.not_eq_true', Bool.not_eq_true'] at h
  exact h.1

theorem not_isControl_of_mem (label : Label) {c : Char} (hc : c ∈ label.word) :
    isControl c = false := by
  have h := List.all_eq_true.1 label.word_plain c hc
  rw [Bool.and_eq_true, Bool.not_eq_true', Bool.not_eq_true'] at h
  exact h.2

end Label

theorem piecesFrom_plain {a : List Char} (ha : ∀ c ∈ a, c ≠ '[' ∧ c ≠ '\\') (fuel n : Nat)
    (held r : List Char) : piecesFrom (fuel + a.length) n held 0 (a ++ r)
      = piecesFrom fuel (n + a.length) (a.reverse ++ held) 0 r := by
  induction a generalizing n held with
  | nil => rfl
  | cons c a ih =>
    obtain ⟨⟨hbracket, hslash⟩, ha⟩ := List.forall_mem_cons.1 ha
    rw [List.length_cons, ← Nat.add_assoc, List.cons_append, piecesFrom]
    · rw [ih ha, List.reverse_cons, List.append_assoc, Nat.add_assoc n 1, Nat.add_comm 1]
      rfl
    · exact hslash
    · exact hbracket

theorem toOption_shown_textPiece (styles : List String) (cs : List Char) (ps : List Piece) :
    (shown emoji styles (textPiece cs ++ ps)).toOption
      = (shown emoji styles ps).toOption.map (replaceEmoji emoji (unescaped cs) ++ ·) := by
  rw [shown_textPiece]
  cases shown emoji styles ps <;> rfl

/-- What shows at a tag and behind it, the text before the tag first. -/
theorem toOption_shown_tagPieces (styles : List String) (n : Nat) (held : List Char)
    (slashes : Nat) (inside : List Char) (ps : List Piece) :
    (shown emoji styles (tagPieces n held slashes inside ++ ps)).toOption
      = ((if slashes % 2 = 0
          then (stylesAfter? styles inside).bind fun inner ↦ (shown emoji inner ps).toOption
          else (shown emoji styles ps).toOption.map
            (replaceEmoji emoji (unescaped ('[' :: inside ++ [']'])) ++ ·)).map
          (replaceEmoji emoji (unescaped (List.replicate (slashes / 2) '\\')) ++ ·)).map
        (replaceEmoji emoji (unescaped held.reverse) ++ ·) := by
  rw [tagPieces, List.append_assoc, List.append_assoc, toOption_shown_textPiece,
    toOption_shown_textPiece, List.singleton_append]
  split
  · rw [toOption_shown_tag]
  · have htext : .text ('[' :: inside ++ [']']) :: ps = textPiece ('[' :: inside ++ [']']) ++ ps :=
      rfl
    rw [htext, toOption_shown_textPiece]

/-- A stretch in front of a text that stands for itself stays in front of what shows of it, whatever
the place. -/
theorem toOption_shown_piecesFrom {front : List Char} (hfront : ∀ cs,
      replaceEmoji emoji (unescaped (front ++ cs)) = front ++ replaceEmoji emoji (unescaped cs))
    (styles : List String) {fuel fuel' : Nat} (n n' : Nat) (held : List Char) (slashes : Nat)
    {t : List Char} (h : t.length < fuel) (h' : t.length < fuel') :
    (shown emoji styles (piecesFrom fuel' n' (held ++ front.reverse) slashes t)).toOption
      = (shown emoji styles (piecesFrom fuel n held slashes t)).toOption.map (front ++ ·) := by
  fun_induction piecesFrom fuel n held slashes t generalizing styles fuel' n' front with
  | case1 => exact absurd h (Nat.not_lt_zero _)
  | case2 fuel n held slashes =>
    obtain ⟨fuel', rfl⟩ := Nat.exists_eq_succ_of_ne_zero (Nat.ne_zero_of_lt h')
    rw [piecesFrom, ← List.append_nil (textPiece _), toOption_shown_textPiece,
      ← List.append_nil (textPiece (_ ++ held).reverse), toOption_shown_textPiece,
      ← List.append_assoc, List.reverse_append, List.reverse_reverse, hfront]
    exact congrArg some (List.append_assoc front _ [])
  | case3 fuel n held slashes r ih =>
    obtain ⟨fuel', rfl⟩ := Nat.exists_eq_succ_of_ne_zero (Nat.ne_zero_of_lt h')
    rw [piecesFrom]
    exact ih hfront styles _ (Nat.lt_of_succ_lt_succ h) (Nat.lt_of_succ_lt_succ h')
  | case4 fuel n held slashes r htag ih =>
    obtain ⟨fuel', rfl⟩ := Nat.exists_eq_succ_of_ne_zero (Nat.ne_zero_of_lt h')
    rw [piecesFrom_of_no_tag htag, ← List.append_assoc, ← List.cons_append]
    exact ih hfront styles _ (Nat.lt_of_succ_lt_succ h) (Nat.lt_of_succ_lt_succ h')
  | case5 fuel n held slashes r inside rest htag next =>
    rename_i ih
    obtain ⟨fuel', rfl⟩ := Nat.exists_eq_succ_of_ne_zero (Nat.ne_zero_of_lt h')
    have hlength : rest.length < fuel ∧ rest.length < fuel' := by
      obtain ⟨-, rfl⟩ := tagAt?_eq_some_iff.1 htag
      simp at h h'
      omega
    have hrest : ∀ inner,
        (shown emoji inner (piecesFrom fuel' (n' + inside.length + 2) [] 0 rest)).toOption
          = (shown emoji inner (piecesFrom fuel next [] 0 rest)).toOption :=
      fun inner ↦ (@ih [] (fun _ ↦ rfl) inner _ _ hlength.1 hlength.2).trans Option.map_id'
    rw [piecesFrom_of_tagAt? htag, List.append_cons, ← tagPieces, toOption_shown_tagPieces,
      toOption_shown_tagPieces]
    simp only [hrest]
    rw [List.reverse_append, List.reverse_reverse, hfront, Option.map_map _ _ (Option.map _ _)]
    simp only [Function.comp_def, List.append_assoc]
  | case6 fuel n held slashes c r hslash hbracket ih =>
    obtain ⟨fuel', rfl⟩ := Nat.exists_eq_succ_of_ne_zero (Nat.ne_zero_of_lt h')
    rw [piecesFrom, ← List.append_assoc, ← List.cons_append]
    · exact ih hfront styles _ (Nat.lt_of_succ_lt_succ h) (Nat.lt_of_succ_lt_succ h')
    · exact hslash
    · exact hbracket

/-- A text with one colon has no names between colons. -/
theorem replaceEmoji_eq_of_count_le {cs : List Char} (h : cs.count ':' ≤ 1) :
    replaceEmoji emoji cs = cs := by
  refine (replaces_replaceEmoji emoji cs).eq_of_unknown fun name hin ↦ ?_
  have hcount := hin.sublist.count_le ':'
  simp only [List.cons_append, List.count_cons_self, List.count_append] at hcount
  omega

theorem unescaped_eq_of_not_mem {cs : List Char} (h : '\\' ∉ cs) : unescaped cs = cs :=
  ((unescaped_eq_or_lt cs).resolve_right fun hin ↦ h (hin.1.subset List.mem_cons_self)).2

/-- The pieces of a text behind a label. -/
theorem exists_piecesOf_label (label : Label) (t : List Char) : ∃ fuel n p q, t.length < fuel
    ∧ piecesOf (label.tagged ++ t)
      = tagPieces p (List.replicate label.indent ' ').reverse 0 label.style
        ++ (tagPieces q (label.word ++ [':']).reverse 0 ['/'] ++ piecesFrom fuel n [' '] 0 t) := by
  have hindent : ∀ c ∈ List.replicate label.indent ' ', c ≠ '[' ∧ c ≠ '\\' := by
    intro c hc
    rw [List.eq_of_mem_replicate hc]
    decide
  have hword : ∀ c ∈ label.word ++ [':'], c ≠ '[' ∧ c ≠ '\\' := by
    intro c hc
    rcases List.mem_append.1 hc with hc | hc
    · have hplain := label.not_isMark_of_mem hc
      constructor <;> rintro rfl <;> exact absurd hplain (by decide)
    · rw [List.mem_singleton.1 hc]
      decide
  have htext : label.tagged ++ t = List.replicate label.indent ' ' ++ '[' :: (label.style
      ++ ']' :: ((label.word ++ [':']) ++ '[' :: '/' :: ']' :: ' ' :: t)) := by
    simp [Label.tagged]
  have hlength : (label.tagged ++ t).length + 1 = label.style.length + t.length + 4 + 1 + 1
      + (label.word ++ [':']).length + 1 + (List.replicate label.indent ' ').length := by
    simp [Label.tagged]
    omega
  have hclose : tagAt? ('/' :: ']' :: ' ' :: t) = some (['/'], ' ' :: t) := rfl
  have hspace (fuel n : Nat) : piecesFrom (fuel + 1) n [] 0 (' ' :: t)
      = piecesFrom fuel (n + 1) [' '] 0 t := by
    rw [piecesFrom]
    · rfl
    · decide
    · decide
  have hpieces : piecesOf (label.tagged ++ t) = piecesOf (label.tagged ++ t) := rfl
  conv_rhs at hpieces => rw [piecesOf, hlength, htext, piecesFrom_plain hindent,
    piecesFrom_of_tagAt? (tagAt?_of_letters label.style_ne label.style_letters _),
    piecesFrom_plain hword, piecesFrom_of_tagAt? hclose, hspace, List.append_nil, List.append_nil]
  exact ⟨_, _, _, _, by omega, hpieces⟩

/-- A tag of letters opens a style. -/
theorem exists_stylesAfter?_of_letters {tag : List Char}
    (hletters : tag.all isAsciiLower = true) (styles : List String) :
    ∃ style, stylesAfter? styles tag = some (style :: styles) := by
  refine ⟨_, stylesAfter?_of_opening fun style hslash ↦ ?_⟩
  have hhead := head?_of_takeWhile_eq_cons hslash
  exact absurd (List.all_eq_true.1 hletters '/' (List.mem_of_head? hhead)) (by decide)

theorem toOption_plainText (s : String) : (plainText emoji s).toOption
    = (shown emoji [] (piecesOf s.toList)).toOption.map (·.filter fun c ↦ !isControl c) := by
  rw [plainText]
  cases shown emoji [] (piecesOf s.toList) <;> rfl

/-- **What comes out behind a label does not depend on the label.** -/
theorem toOption_plainText_label (label : Label) (t : String) :
    (plainText emoji (String.ofList label.tagged ++ t)).toOption
      = (plainText emoji t).toOption.map (label.plain ++ ·) := by
  obtain ⟨fuel, n, p, q, hfuel, hpieces⟩ := exists_piecesOf_label label t.toList
  have hindent : replaceEmoji emoji (unescaped (List.replicate label.indent ' '))
      = List.replicate label.indent ' ' := by
    rw [unescaped_eq_of_not_mem, replaceEmoji_eq_of_count_le]
    · simp [List.count_replicate]
    · simp
  have hword : replaceEmoji emoji (unescaped (label.word ++ [':'])) = label.word ++ [':'] := by
    have hcolon : label.word.count ':' = 0 :=
      List.count_eq_zero.2 fun hc ↦ absurd (label.not_isMark_of_mem hc) (by decide)
    rw [unescaped_eq_of_not_mem, replaceEmoji_eq_of_count_le]
    · rw [List.count_append, hcolon]
      exact le_refl 1
    · intro hc
      rcases List.mem_append.1 hc with hc | hc
      · exact absurd (label.not_isMark_of_mem hc) (by decide)
      · exact absurd hc (by decide)
  have hfront (cs : List Char) : replaceEmoji emoji (unescaped ([' '] ++ cs))
      = [' '] ++ replaceEmoji emoji (unescaped cs) := rfl
  have hspace := toOption_shown_piecesFrom hfront [] 0 n [] 0 (Nat.lt_succ_self _) hfuel
  obtain ⟨style, hstyle⟩ := exists_stylesAfter?_of_letters label.style_letters []
  have hclose : stylesAfter? [style] ['/'] = some [] := rfl
  have hnone : replaceEmoji emoji (unescaped (List.replicate (0 / 2) '\\')) = [] := rfl
  rw [toOption_plainText, toOption_plainText, String.toList_append, String.toList_ofList, hpieces,
    toOption_shown_tagPieces, List.reverse_reverse, hindent, if_pos rfl, hstyle, Option.bind_some,
    toOption_shown_tagPieces, List.reverse_reverse, hword, if_pos rfl, hclose, Option.bind_some,
    hnone]
  have hplain : label.plain.filter (fun c ↦ !isControl c) = label.plain := by
    refine List.filter_eq_self.2 fun c hc ↦ ?_
    rcases List.mem_append.1 hc with hc | hc
    · rw [List.eq_of_mem_replicate hc]
      decide
    rcases List.mem_append.1 hc with hc | hc
    · rw [label.not_isControl_of_mem hc]
      rfl
    · rcases List.mem_cons.1 hc with rfl | hc
      · rfl
      · rw [List.mem_singleton.1 hc]
        rfl
  have hfilter (cs : List Char) : (List.replicate label.indent ' ' ++ ([] ++ (label.word ++ [':']
      ++ ([] ++ ([' '] ++ cs))))).filter (fun c ↦ !isControl c)
        = label.plain ++ cs.filter fun c ↦ !isControl c := by
    rw [← hplain, ← List.filter_append]
    simp [Label.plain]
  rw [List.nil_append, List.reverse_singleton] at hspace
  rw [hspace, piecesOf]
  simp only [Option.map_map, Function.comp_def, hfilter]

end Console
end TexWeave
