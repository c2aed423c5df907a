import TexWeave.Proofs.Moves

/-!
# Where tokens stand in their text

A scan knows how far it has come only by counting line feeds.  Between moves the characters that
were passed and those that are left make up the text, and this puts every token at its place: on
its line, and behind what stands in front of it there.

* `lineHead` — what stands on the last line of some characters.
* `Stands` — a scan under way in a text; `Stands.move` says that moves keep it there.
* `Reaches`, `exists_reaches` — the moves up to a token that grammar can meet.
* `Move.piece`, `Runs.next_piece` — a word or an operator, and the next one behind it.
-/

set_option autoImplicit false

namespace TexWeave
namespace Source

open Form

namespace Scanner

/-! ## The last line -/

/-- What stands on the last line of characters. -/
def lineHead (u : List Char) : List Char := u.rtakeWhile (· != '\n')

theorem lineHead_newline (u : List Char) : lineHead (u ++ ['\n']) = [] :=
  List.rtakeWhile_concat_neg _ _ _ (by decide)

theorem lineHead_concat {c : Char} (hc : c ≠ '\n') (u : List Char) :
    lineHead (u ++ [c]) = lineHead u ++ [c] :=
  List.rtakeWhile_concat_pos _ _ _ (by simpa using hc)

theorem exists_of_lineHead_eq_nil {u : List Char} (h : lineHead u = []) :
    u = [] ∨ ∃ v, u = v ++ ['\n'] := by
  cases u using List.reverseRecOn with
  | nil => exact .inl rfl
  | append_singleton v c =>
    by_cases hc : c = '\n'
    · exact .inr ⟨v, by rw [hc]⟩
    · rw [lineHead_concat hc] at h
      exact absurd h (List.append_ne_nil_of_right_ne_nil _ (List.cons_ne_nil c []))

theorem isBlank_of_isRoom {c : Char} (h : IsRoom c) : Text.isBlank c = true := by
  rcases h with rfl | rfl | rfl <;> decide

theorem ne_newline_of_isRoom {c : Char} (h : IsRoom c) : c ≠ '\n' := by
  rcases h with rfl | rfl | rfl <;> decide

/-- Whether only blanks stand on the last line. -/
def IsFresh (u : List Char) : Prop := ∀ c ∈ lineHead u, Text.isBlank c = true

theorem isFresh_newline (u : List Char) : IsFresh (u ++ ['\n']) := by
  rw [IsFresh, lineHead_newline]
  exact List.forall_mem_nil _

theorem IsFresh.concat {u : List Char} (h : IsFresh u) {c : Char} (hc : IsRoom c) :
    IsFresh (u ++ [c]) := by
  rw [IsFresh, lineHead_concat (ne_newline_of_isRoom hc)]
  exact List.forall_mem_append.2 ⟨h, List.forall_mem_singleton.2 (isBlank_of_isRoom hc)⟩

theorem IsFresh.spacing {w : List Char} (hw : IsSpacing w) {u : List Char} (h : IsFresh u) :
    IsFresh (u ++ w) := by
  induction hw generalizing u with
  | nil =>
    rw [List.append_nil]
    exact h
  | @room c r hc _ ih =>
    have hr := ih (h.concat hc)
    rwa [List.append_assoc, List.singleton_append] at hr
  | @fold r _ ih =>
    have hr := ih (isFresh_newline (u ++ ['\\']))
    rwa [List.append_assoc, List.append_assoc] at hr

/-! ## Tokens the grammar meets -/

/-- The tokens that are more than comments and line breaks. -/
def significant (ts : List Token) : List Token := ts.filter fun t ↦ !t.isTrivia

theorem significant_append (a b : List Token) :
    significant (a ++ b) = significant a ++ significant b :=
  List.filter_append ..

theorem significant_of_areTrivia {line : Nat} {ts : List Token} (h : AreTrivia line ts) :
    significant ts = [] :=
  List.filter_eq_nil_iff.2 fun k hk ↦ by simp [(h k hk).1]

theorem significant_singleton {k : Token} (h : k.isTrivia = false) : significant [k] = [k] :=
  List.filter_cons_of_pos (by simp [h])

theorem significant_of_areMarks {line : Nat} {ts : List Token} (h : AreMarks line ts) :
    significant ts = ts := by
  refine List.filter_eq_self.2 fun k hk ↦ ?_
  rw [Token.isTrivia]
  rcases (h k hk).1 with hkind | hkind <;> rw [hkind] <;> rfl

theorem excess_significant (ts : List Token) : excess (significant ts) = excess ts := by
  induction ts with
  | nil => rfl
  | cons k ts ih =>
    by_cases hk : k.isTrivia = true
    · have hweight : weight k = 0 := by
        rw [Token.isTrivia, Bool.or_eq_true, beq_iff_eq, beq_iff_eq] at hk
        rcases hk with hkind | hkind <;> rw [weight, hkind]
      rw [significant, List.filter_cons_of_neg (by simp [hk]), excess_cons, hweight, zero_add]
      exact ih
    · rw [significant, List.filter_cons_of_pos (by simpa using hk), excess_cons, excess_cons]
      exact congrArg (weight k + ·) ih

theorem WellClosed.significant {ts : List Token} (h : WellClosed ts) :
    WellClosed (significant ts) := by
  refine ⟨by rw [excess_significant, h.1], fun p q hpq ↦ ?_⟩
  obtain ⟨p', q', rfl, hp, -⟩ := List.filter_eq_append_iff.1 hpq
  rw [← hp]
  exact excess_significant p' ▸ h.2 p' q' rfl

/-! ## A scan under way -/

/-- Whether the last of some tokens, if there is any, only arranges lines. -/
def AfterLayout (ts : List Token) : Prop :=
  ts = [] ∨ ∃ front k, ts = front ++ [k] ∧ k.isLayout = true

theorem afterLayout_concat {ts : List Token} {k : Token} (h : AfterLayout (ts ++ [k])) :
    k.isLayout = true := by
  rcases h with hnil | ⟨front, j, hj, hlayout⟩
  · exact absurd hnil (List.append_ne_nil_of_right_ne_nil ts (List.cons_ne_nil k []))
  · rw [(List.append_inj' hj rfl).2 |> List.singleton_inj.1]
    exact hlayout

/-- The scan stands in the text behind the characters `u`, which made the tokens `before`.  Where a
statement can begin, no bracket is open and only blanks stand in front on the line, unless nothing
but the end of the line is left of it. -/
structure Stands (text u : List Char) (before : List Token) (s : Scanner) : Prop where
  text_eq : text = u ++ s.rest
  line_eq : s.line = 1 + u.count '\n'
  start : s.atLineStart = true → lineHead u = []
  layout : AfterLayout before →
    s.brackets = [] ∧ (IsFresh u ∨ ∀ c r, s.rest = c :: r → c = '\n')

theorem stands_start (text : List Char) : Stands text [] [] { rest := text } where
  text_eq := rfl
  line_eq := rfl
  start _ := rfl
  layout _ := ⟨rfl, .inl (List.forall_mem_nil _)⟩

section

variable {text u : List Char} {before new : List Token} {s t : Scanner}

/-- A scan that passed characters stands behind them. -/
theorem Stands.pass (h : Stands text u before s) (used : List Char) {after : List Token}
    (hused : s.rest = used ++ t.rest) (hline : t.line = s.line + used.count '\n')
    (hstart : t.atLineStart = true → lineHead (u ++ used) = [])
    (hlayout : AfterLayout after →
      t.brackets = [] ∧ (IsFresh (u ++ used) ∨ ∀ c r, t.rest = c :: r → c = '\n')) :
    Stands text (u ++ used) after t where
  text_eq := by rw [h.text_eq, hused, List.append_assoc]
  line_eq := by rw [hline, h.line_eq, List.count_append, Nat.add_assoc]
  start := hstart
  layout := hlayout

/-- Behind a token that does more than arrange lines, only the place in the text matters. -/
theorem Stands.piece (h : Stands text u before s) (used : List Char) (front : List Token)
    {k : Token} (hused : s.rest = used ++ t.rest) (hline : t.line = s.line + used.count '\n')
    (ht : t.atLineStart = false) (hk : k.isLayout = false) :
    Stands text (u ++ used) (before ++ (front ++ [k])) t := by
  refine h.pass used hused hline (fun hstart ↦ ?_) fun hlayout ↦ ?_
  · rw [ht] at hstart
    cases hstart
  · rw [← List.append_assoc] at hlayout
    rw [afterLayout_concat hlayout] at hk
    cases hk

theorem Stands.startStep (h : Stands text u before s) (hs : s.atLineStart = true)
    (hstep : StartStep s new t) : ∃ u', Stands text u' (before ++ significant new) t := by
  have hfresh : IsFresh u := by
    rw [IsFresh, h.start hs]
    exact List.forall_mem_nil _
  cases hstep with
  | @passed used rest _ hrest hnew =>
    rw [significant_of_areTrivia hnew, List.append_nil]
    have hline : lineHead (u ++ (used ++ ['\n'])) = [] := by
      rw [← List.append_assoc]
      exact lineHead_newline _
    refine ⟨_, h.pass (used ++ ['\n']) (by simp [hrest]) (by simp) (fun _ ↦ hline)
      fun hl ↦ ⟨by simpa using (h.layout hl).1, .inl ?_⟩⟩
    rw [IsFresh, hline]
    exact List.forall_mem_nil _
  | last hnew =>
    rw [significant_of_areTrivia hnew, List.append_nil]
    refine ⟨_, h.pass s.rest (by simp) (by simp) (fun ht ↦ by cases ht)
      fun hl ↦ ⟨by simpa using (h.layout hl).1, .inr fun c r hr ↦ by simp at hr⟩⟩
  | @inside used rest hused hrest hbrackets =>
    rw [significant, List.filter_nil, List.append_nil]
    exact ⟨_, h.pass used (by simpa using hrest) (by simp) (fun ht ↦ by cases ht)
      fun hl ↦ absurd (h.layout hl).1 hbrackets⟩
  | @arranged used rest depths marks hused hrest hbrackets hmarks =>
    exact ⟨_, h.pass used (by simpa using hrest) (by simp) (fun ht ↦ by cases ht)
      fun _ ↦ ⟨by simpa using hbrackets, .inl (hfresh.spacing hused)⟩⟩

theorem Stands.step (h : Stands text u before s) (hs : s.atLineStart = false) {fuel : Nat}
    (hstep : Step fuel s new t) : ∃ u', Stands text u' (before ++ significant new) t := by
  cases hstep with
  | @blank c rest hrest hc =>
    rw [significant, List.filter_nil, List.append_nil]
    refine ⟨_, h.pass [c] (by simp [hrest]) (by simp) (fun ht ↦ by simp [hs] at ht)
      fun hl ↦ ⟨by simpa using (h.layout hl).1, ?_⟩⟩
    rcases (h.layout hl).2 with hfresh | hend
    · exact .inl (hfresh.concat hc)
    · exact absurd (hend c rest hrest) (ne_newline_of_isRoom hc)
  | @fold rest hrest =>
    rw [significant, List.filter_nil, List.append_nil]
    refine ⟨_, h.pass ['\\', '\n'] (by simp [hrest]) (by simp)
      (fun ht ↦ by simp [hs] at ht) fun hl ↦ ⟨by simpa using (h.layout hl).1, .inl ?_⟩⟩
    exact List.append_cons u '\\' ['\n'] ▸ isFresh_newline _
  | @comment used rest hrest hused hend =>
    rw [significant, List.filter_cons_of_neg (by simp [Token.isTrivia, part]), List.filter_nil,
      List.append_nil]
    exact ⟨_, h.pass ('#' :: used) (by simp [hrest, emit_eq]) (by simp [emit_eq])
      (fun ht ↦ by simp [hs, emit_eq] at ht)
      fun hl ↦ ⟨by simpa [emit_eq] using (h.layout hl).1, .inr (by simpa [emit_eq] using hend)⟩⟩
  | @lineBreak rest hrest =>
    refine ⟨_, h.pass ['\n'] (by simp [hrest, lineBreak, emit_eq])
      (by simp [lineBreak, emit_eq]) (fun _ ↦ lineHead_newline u) fun hl ↦ ?_⟩
    refine ⟨?_, .inl (isFresh_newline u)⟩
    by_cases hb : s.brackets = []
    · simpa [lineBreak, emit_eq] using hb
    · rw [significant, List.filter_cons_of_neg (by simp [hb, Token.isTrivia, part]),
        List.filter_nil, List.append_nil] at hl
      exact absurd (h.layout hl).1 hb
  | @word kind used rest hrest hne hkind =>
    rw [significant_singleton (by rcases hkind with rfl | rfl <;> rfl)]
    exact ⟨_, h.piece used [] (by simpa [emit_eq] using hrest) (by simp [emit_eq])
      (by simp [emit_eq, hs]) (by rcases hkind with rfl | rfl <;> rfl)⟩
  | @literal kind used rest hrest hopens hkind =>
    rw [significant_singleton (by rcases hkind with rfl | rfl | rfl <;> rfl)]
    exact ⟨_, h.piece used [] (by simpa [emit_eq] using hrest) (by simp [emit_eq])
      (by simp [emit_eq, hs]) (by rcases hkind with rfl | rfl | rfl <;> rfl)⟩
  | @embedded n used rest expressions inner hrest =>
    rw [← List.cons_append, significant_append, significant_singleton rfl]
    exact ⟨_, h.piece used _ (by simpa using hrest) (by simp) (by simp [hs]) rfl⟩
  | @operator o rest brackets ho hrest =>
    rw [significant_singleton rfl]
    exact ⟨_, h.piece o.toList [] (by simpa [emit_eq] using hrest) (by simp [emit_eq])
      (by simp [emit_eq, hs]) rfl⟩
  | @stray c rest hrest hc =>
    rw [significant_singleton rfl]
    exact ⟨_, h.piece [c] [] (by simp [emit_eq, hrest]) (by simp [emit_eq])
      (by simp [emit_eq, hs]) rfl⟩

/-- **A move keeps the scan in its text.** -/
theorem Stands.move (h : Stands text u before s) (hmove : Move s new t) :
    ∃ u', Stands text u' (before ++ significant new) t := by
  cases hmove with
  | start hs hstep => exact h.startStep hs hstep
  | token hs hstep => exact h.step hs hstep

end

/-! ## Words and operators -/

/-- Whether a token is a word or an operator. -/
def IsSolid (k : Token) : Prop := k.kind = .name ∨ k.kind = .operator ∨ k.kind = .keyword

/-- Whether characters have the spelling of a word. -/
structure IsSpelled (cs : List Char) : Prop where
  ne_nil : cs ≠ []
  wordLike : ∀ c ∈ cs, isWordLike c = true
  spelled : (∀ c ∈ cs, c.toNat < 128) ∨ Text.isIdentifier cs = true

/-- A word or an operator comes next, and `t` is the scan behind it. -/
structure Reads (s : Scanner) (k : Token) (t : Scanner) : Prop where
  rest_eq : s.rest = k.text.toList ++ t.rest
  line_eq : k.line = s.line
  line_le : s.line ≤ k.endLine ∧ s.line ≤ t.line
  start : t.atLineStart = false
  brackets : k.kind = .name ∨ k.text ∉ operators.flatten → t.brackets = s.brackets
  spelled : k.kind = .name → IsSpelled k.text.toList

/-- No character of a word is a blank. -/
theorem IsSpelled.isBlank_eq {cs : List Char} (h : IsSpelled cs) :
    ∀ c ∈ cs, Text.isBlank c = false := by
  rcases h.spelled with hnarrow | hidentifier
  · exact fun c hc ↦ isBlank_of_isWordLike (h.wordLike c hc) (hnarrow c hc)
  · exact Text.isBlank_of_isIdentifier hidentifier

section

variable {s t : Scanner} {new w : List Token} {k : Token}

theorem not_isSolid_of_kind (kind : TokenKind) (h : k.kind = kind)
    (hkind : kind ∉ [TokenKind.name, .operator, .keyword]) : ¬ IsSolid k := by
  rintro (hk | hk | hk) <;> rw [← h, hk] at hkind <;> exact hkind (by decide)

theorem StartStep.not_isSolid (h : StartStep s new t) (hk : significant new = k :: w) :
    ¬ IsSolid k := by
  cases h with
  | passed _ hnew =>
    rw [significant_of_areTrivia hnew] at hk
    cases hk
  | last hnew =>
    rw [significant_of_areTrivia hnew] at hk
    cases hk
  | inside => cases hk
  | arranged _ _ _ hmarks =>
    rw [significant_of_areMarks hmarks] at hk
    rcases (hmarks k (hk ▸ List.mem_cons_self)).1 with hkind | hkind
    · exact not_isSolid_of_kind _ hkind (by decide)
    · exact not_isSolid_of_kind _ hkind (by decide)

/-- **A word or an operator is read by a move of its own.** -/
theorem Move.piece (h : Move s new t) (hk : significant new = k :: w) (hsolid : IsSolid k) :
    w = [] ∧ Reads s k t := by
  cases h with
  | start _ hstep => exact absurd hsolid (hstep.not_isSolid hk)
  | token hs hstep =>
    have hother (kind : TokenKind) (hkind : kind ∉ [TokenKind.name, .operator, .keyword])
        (h : k.kind = kind) : w = [] ∧ Reads s k t :=
      absurd hsolid (not_isSolid_of_kind kind h hkind)
    cases hstep with
    | blank => cases hk
    | fold => cases hk
    | comment =>
      rw [significant, List.filter_cons_of_neg (by simp [Token.isTrivia, part])] at hk
      cases hk
    | lineBreak =>
      split at hk
      · rw [significant_singleton rfl] at hk
        obtain ⟨rfl, rfl⟩ := List.cons.inj hk
        exact hother .newline (by decide) rfl
      · rw [significant, List.filter_cons_of_neg (by simp [Token.isTrivia, part])] at hk
        cases hk
    | @word kind used rest hrest hne hkind hlike hspelled =>
      rw [significant_singleton (by rcases hkind with rfl | rfl <;> rfl)] at hk
      obtain ⟨rfl, rfl⟩ := List.cons.inj hk
      refine ⟨rfl, ?_, rfl, ⟨Nat.le_add_right _ _, ?_⟩, ?_, fun _ ↦ ?_, fun _ ↦ ?_⟩
      · simpa [emit_eq, part] using hrest
      · simp [emit_eq]
      · simpa [emit_eq] using hs
      · simp [emit_eq]
      · rw [part, String.toList_ofList]
        exact ⟨hne, hlike, hspelled⟩
    | @literal kind used rest _ _ hkind =>
      rw [significant_singleton (by rcases hkind with rfl | rfl | rfl <;> rfl)] at hk
      obtain ⟨rfl, rfl⟩ := List.cons.inj hk
      exact hother kind (by rcases hkind with rfl | rfl | rfl <;> decide) rfl
    | embedded =>
      rw [← List.cons_append, significant_append, significant, List.filter_cons_of_pos rfl] at hk
      obtain ⟨rfl, -⟩ := List.cons.inj hk
      exact hother .fieldsOpen (by decide) rfl
    | @operator o rest brackets ho hrest =>
      rw [significant_singleton rfl] at hk
      obtain ⟨rfl, rfl⟩ := List.cons.inj hk
      refine ⟨rfl, ?_, rfl, ⟨Nat.le_add_right _ _, ?_⟩, ?_, fun hnot ↦ ?_, fun hk ↦ by cases hk⟩
      · simpa [emit_eq, part] using hrest
      · simp [emit_eq]
      · simpa [emit_eq] using hs
      · rcases hnot with hkind | hnot
        · cases hkind
        · rw [part, String.ofList_toList] at hnot
          exact absurd ho hnot
    | stray =>
      rw [significant_singleton rfl] at hk
      obtain ⟨rfl, rfl⟩ := List.cons.inj hk
      exact hother .stray (by decide) rfl

/-- What a step adds that grammar can meet: nothing, one token, or a string with fields around the
tokens of its expressions. -/
theorem Step.significant_cases {fuel : Nat} (h : Step fuel s new t) :
    significant new = [] ∨ (∃ j, significant new = [j])
      ∨ ∃ left inner right, significant new = left :: (inner ++ [right]) ∧ weight left = 1
        ∧ WellClosed inner := by
  have hone {j : Token} (hj : j.isTrivia = false) (hnew : new = [j]) :
      ∃ j, significant new = [j] := ⟨j, by rw [hnew, significant_singleton hj]⟩
  cases h with
  | blank => exact .inl rfl
  | fold => exact .inl rfl
  | comment => exact .inl (List.filter_cons_of_neg (by simp [Token.isTrivia, part]))
  | lineBreak =>
    by_cases hb : s.brackets.isEmpty = true
    · exact .inr (.inl (hone (by simp [hb, Token.isTrivia, part]) rfl))
    · exact .inl (List.filter_cons_of_neg (by simp [hb, Token.isTrivia, part]))
  | word _ _ hkind => exact .inr (.inl (hone (by rcases hkind with rfl | rfl <;> rfl) rfl))
  | literal _ _ hkind =>
    exact .inr (.inl (hone (by rcases hkind with rfl | rfl | rfl <;> rfl) rfl))
  | operator => exact .inr (.inl (hone rfl rfl))
  | stray => exact .inr (.inl (hone rfl rfl))
  | @embedded n used rest expressions inner _ _ _ hinner =>
    have hclosed := ((addedFrom_inner n).1 _ _ _ hinner).wellClosed.significant
    refine .inr (.inr ⟨s.part used .fieldsOpen, significant inner.reverse,
      (s.advance used rest).closing, ?_, rfl, hclosed⟩)
    rw [← List.cons_append, significant_append, ← List.singleton_append, significant_append,
      significant_singleton rfl, significant_singleton rfl]
    rfl

/-- Whether a token is made of characters. -/
def HasRoom (k : Token) : Prop := k.kind ≠ .indent ∧ k.kind ≠ .dedent ∧ k.kind ≠ .finish

theorem IsSolid.hasRoom (h : IsSolid k) : HasRoom k := by
  rcases h with hk | hk | hk <;> exact ⟨by rw [hk]; decide, by rw [hk]; decide, by rw [hk]; decide⟩

/-- In what a move adds, a token made of characters is the first if all strings with fields are
closed in front of it. -/
theorem Move.front_eq_nil (h : Move s new t) {front : List Token}
    (hk : significant new = front ++ k :: w) (hroom : HasRoom k) (hfront : excess front = 0) :
    front = [] := by
  have hnone (hnil : significant new = []) : front = [] := by
    rw [hnil] at hk
    exact (List.nil_eq_append_iff.1 hk).1
  cases h with
  | start _ hstep =>
    cases hstep with
    | passed _ hnew => exact hnone (significant_of_areTrivia hnew)
    | last hnew => exact hnone (significant_of_areTrivia hnew)
    | inside => exact hnone rfl
    | arranged _ _ _ hmarks =>
      rw [significant_of_areMarks hmarks] at hk
      have hmem : k ∈ new := hk ▸ List.mem_append_right front List.mem_cons_self
      rcases (hmarks k hmem).1 with hkind | hkind
      · exact absurd hkind hroom.1
      · exact absurd hkind hroom.2.1
  | token _ hstep =>
    rcases hstep.significant_cases with hnil | ⟨j, hj⟩ | ⟨left, inner, right, hnew, hleft, hinner⟩
    · exact hnone hnil
    · rw [hj] at hk
      rcases List.singleton_eq_append_iff.1 hk with ⟨hnil, -⟩ | ⟨-, hnil⟩
      · exact hnil
      · cases hnil
    · by_contra hne
      rw [hnew] at hk
      have hpos := excess_pos_of_fields hinner hleft hne (List.cons_ne_nil k w) hk
      omega

end

/-! ## Scans up to a token -/

/-- Moves from one scan to another, with the tokens they add that grammar can meet. -/
inductive Reaches : Scanner → List Token → Scanner → Prop
  | here {s : Scanner} : Reaches s [] s
  | move {s t u : Scanner} {new ts : List Token} (h : Move s new t) (hrest : Reaches t ts u)
      (hnext : s.next = some t) : Reaches s (significant new ++ ts) u

section

variable {s t : Scanner} {k : Token} {after out : List Token}

theorem Stands.reaches {text u : List Char} {before ts : List Token}
    (h : Stands text u before s) (hreaches : Reaches s ts t) :
    ∃ u', Stands text u' (before ++ ts) t := by
  induction hreaches generalizing u before with
  | here => exact ⟨u, by rwa [List.append_nil]⟩
  | move hmove _ _ ih =>
    obtain ⟨u', hu'⟩ := h.move hmove
    rw [← List.append_assoc]
    exact ih hu'

/-- A scan reaches every token made of characters in front of which strings with fields are
closed. -/
theorem exists_reaches_move (h : Runs s out) {front : List Token}
    (hout : significant out = front ++ k :: after) (hfront : excess front = 0) (hroom : HasRoom k) :
    ∃ s' t new w out', Reaches s front s' ∧ Move s' new t ∧ s'.next = some t
      ∧ significant new = k :: w ∧ Runs t out' ∧ w ++ significant out' = after := by
  induction h generalizing front with
  | @finish s hrest hbrackets =>
    rw [significant_singleton rfl] at hout
    rcases List.singleton_eq_append_iff.1 hout with ⟨-, hk⟩ | ⟨-, hk⟩
    · obtain ⟨rfl, -⟩ := List.cons.inj hk
      exact absurd rfl hroom.2.2
    · cases hk
  | @move s t new out hmove hrest hnext ih =>
    rw [significant_append] at hout
    have hclosed : excess (significant new) = 0 := hmove.addedFrom.wellClosed.significant.1
    have hlater {w : List Token} (hw : significant out = w ++ k :: after) (hexcess : excess w = 0)
        (hfw : front = significant new ++ w) : ∃ s' t new w out', Reaches s front s'
          ∧ Move s' new t ∧ s'.next = some t ∧ significant new = k :: w ∧ Runs t out'
          ∧ w ++ significant out' = after := by
      obtain ⟨s', t', new', w', out', hreaches, hmove'⟩ := ih hw hexcess
      exact ⟨s', t', new', w', out', hfw ▸ .move hmove hreaches hnext, hmove'⟩
    rcases List.append_eq_append_iff.1 hout with ⟨w, hw, hout⟩ | ⟨w, hw, hout⟩
    · refine hlater hout ?_ hw
      rwa [hw, excess_append, hclosed, zero_add] at hfront
    · cases w with
      | nil =>
        rw [List.append_nil] at hw
        exact hlater (w := []) hout.symm rfl (by rw [hw, List.append_nil])
      | cons j w =>
        obtain ⟨rfl, rfl⟩ := List.cons.inj hout
        obtain rfl := hmove.front_eq_nil hw hroom hfront
        exact ⟨s, t, new, w, out, .here, hmove, hnext, hw, hrest, rfl⟩

/-- **A scan reaches every word and operator in front of which strings with fields are closed**,
and reads it in one move. -/
theorem exists_reaches (h : Runs s out) {front : List Token}
    (hout : significant out = front ++ k :: after) (hfront : excess front = 0)
    (hsolid : IsSolid k) : ∃ s' t out', Reaches s front s' ∧ Reads s' k t ∧ Runs t out'
      ∧ significant out' = after := by
  obtain ⟨s', t, new, w, out', hreaches, hmove, -, hnew, hruns, hafter⟩ :=
    exists_reaches_move h hout hfront hsolid.hasRoom
  obtain ⟨rfl, hreads⟩ := hmove.piece hnew hsolid
  exact ⟨s', t, out', hreaches, hreads, hruns, hafter⟩

/-! ## The next token -/

theorem head_ne_newline_of_operator {o : String} (ho : o ∈ operators.flatten) :
    ∃ c r, o.toList = c :: r ∧ Text.isBlank c = false := by
  have hall : ∀ o ∈ operators.flatten, (o.toList.head?.map Text.isBlank) = some false := by
    decide
  have hhead := hall o ho
  cases hcs : o.toList with
  | nil => simp [hcs] at hhead
  | cons c r => exact ⟨c, r, rfl, by simpa [hcs] using hhead⟩

/-- At the end of a line outside brackets, the next token arranges lines. -/
theorem Runs.isLayout_of_newline (h : Runs s out) (hs : s.atLineStart = false)
    (hbrackets : s.brackets = []) (hend : ∀ c r, s.rest = c :: r → c = '\n')
    (hout : significant out = k :: after) : k.isLayout = true := by
  cases h with
  | finish =>
    rw [significant_singleton rfl] at hout
    obtain ⟨rfl, -⟩ := List.cons.inj hout
    rfl
  | @move _ t new out hmove hruns =>
    cases hmove with
    | start hs' => rw [hs] at hs'; cases hs'
    | token _ hstep =>
      have hhead {c : Char} {r : List Char} (hrest : s.rest = c :: r)
          (hc : Text.isBlank c = false) : k.isLayout = true := by
        rw [hend c r hrest] at hc
        cases hc
      cases hstep with
      | blank hrest hc => exact absurd (hend _ _ hrest) (ne_newline_of_isRoom hc)
      | fold hrest => exact hhead hrest rfl
      | comment hrest => exact hhead hrest rfl
      | lineBreak hrest =>
        simp only [hbrackets, List.isEmpty_nil, if_true] at hout
        rw [significant_append, significant_singleton rfl] at hout
        obtain ⟨rfl, -⟩ := List.cons.inj hout
        rfl
      | @word kind used rest hrest hne hkind hlike =>
        obtain ⟨c, r, rfl⟩ := List.exists_cons_of_ne_nil hne
        have hc := hlike c List.mem_cons_self
        rw [hend c _ hrest] at hc
        exact absurd hc (by decide)
      | literal hrest hopens =>
        obtain ⟨c, r, rfl, hc⟩ := hopens
        exact hhead hrest hc
      | embedded hrest hopens =>
        obtain ⟨c, r, rfl, hc⟩ := hopens
        exact hhead hrest hc
      | operator ho hrest =>
        obtain ⟨c, r, hcs, hc⟩ := head_ne_newline_of_operator ho
        rw [hcs] at hrest
        exact hhead hrest hc
      | stray hrest hc => exact absurd (hend _ _ hrest) hc

theorem not_isLayout_of_isSolid (h : IsSolid k) : k.isLayout = false := by
  rcases h with hk | hk | hk <;> rw [Token.isLayout, hk]

/-- A step outside brackets that adds nothing grammar can meet passes spacing, or all that is left
of the line. -/
theorem Step.exists_spacing {fuel : Nat} {new : List Token} (h : Step fuel s new t)
    (hbrackets : s.brackets = []) (hnew : significant new = []) :
    (∃ passed rest, s.rest = passed ++ rest ∧ (∀ r, IsSpacing r → IsSpacing (passed ++ r))
        ∧ t = s.advance passed rest)
      ∨ t.brackets = [] ∧ t.atLineStart = s.atLineStart ∧ ∀ c r, t.rest = c :: r → c = '\n' := by
  have hvisible {j : Token} {js : List Token} (hj : j.isTrivia = false)
      (hjs : new = j :: js) : False := by
    rw [hjs, significant, List.filter_cons_of_pos (by simp [hj])] at hnew
    cases hnew
  cases h with
  | @blank c rest hrest hc => exact .inl ⟨[c], rest, hrest, fun _ ↦ .room hc, rfl⟩
  | @fold rest hrest => exact .inl ⟨['\\', '\n'], rest, hrest, fun _ ↦ .fold, rfl⟩
  | comment hrest hused hend =>
    exact .inr ⟨by simpa [emit_eq] using hbrackets, by simp [emit_eq],
      by simpa [emit_eq] using hend⟩
  | lineBreak =>
    rw [hbrackets, List.isEmpty_nil, if_pos rfl, significant_singleton rfl] at hnew
    cases hnew
  | word _ _ hkind => exact (hvisible (by rcases hkind with rfl | rfl <;> rfl) rfl).elim
  | literal _ _ hkind => exact (hvisible (by rcases hkind with rfl | rfl | rfl <;> rfl) rfl).elim
  | embedded => exact (hvisible rfl rfl).elim
  | operator => exact (hvisible rfl rfl).elim
  | stray => exact (hvisible rfl rfl).elim

/-- **The next word or operator** outside brackets stands behind spacing alone. -/
theorem Runs.next_piece (h : Runs s out) (hs : s.atLineStart = false) (hbrackets : s.brackets = [])
    (hout : significant out = k :: after) (hsolid : IsSolid k) :
    ∃ spacing s' t out', IsSpacing spacing ∧ s.rest = spacing ++ s'.rest ∧ s'.brackets = []
      ∧ Reads s' k t ∧ Runs t out' ∧ significant out' = after := by
  induction h with
  | @finish s =>
    rw [significant_singleton rfl] at hout
    obtain ⟨rfl, -⟩ := List.cons.inj hout
    exact absurd hsolid (not_isSolid_of_kind .finish rfl (by decide))
  | @move s t new out hmove hrest _ ih =>
    rw [significant_append] at hout
    cases hnew : significant new with
    | cons j w =>
      rw [hnew] at hout
      obtain ⟨rfl, rfl⟩ := List.cons.inj hout
      obtain ⟨rfl, hreads⟩ := hmove.piece hnew hsolid
      exact ⟨[], s, t, out, .nil, rfl, hbrackets, hreads, hrest, rfl⟩
    | nil =>
      rw [hnew, List.nil_append] at hout
      cases hmove with
      | start hs' => rw [hs] at hs'; cases hs'
      | token _ hstep =>
        rcases hstep.exists_spacing hbrackets hnew with
          ⟨passed, rest, hpassed, hspacing, rfl⟩ | ⟨hb, hstart, hend⟩
        · obtain ⟨spacing, s', t', out', hsp, hsplit, hb, hreads, hruns, hafter⟩ :=
            ih (by rw [advance_atLineStart, hs]) (by rw [advance_brackets, hbrackets]) hout
          rw [advance_rest] at hsplit
          exact ⟨passed ++ spacing, s', t', out', hspacing _ hsp,
            by rw [hpassed, hsplit, List.append_assoc], hb, hreads, hruns, hafter⟩
        · have hlayout := hrest.isLayout_of_newline (hstart.trans hs) hb hend hout
          rw [not_isLayout_of_isSolid hsolid] at hlayout
          cases hlayout

end

end Scanner
end Source
end TexWeave
