import TexWeave.Proofs.ScanningAhead
import TexWeave.Proofs.ScanningDepth
import TexWeave.Proofs.Trimming

/-!
# Tokens of a text whose lines lose room

Two scans run side by side, the second in a text that has lost room at the start of its lines.  At
every place they find tokens of the same kind.  All tokens but strings have the same text, and what
stands in the fields of a string is scanned by the same rules, so the three statements about tokens,
fields and what is within a field are proved together.

* `Alike` — tokens that the two scans find at the same place.
* `Beside` — how far the two scans have come.
* `tokens_beside`, `Beside.token` — both find alike tokens from one place to the next.
-/

set_option autoImplicit false

namespace TexWeave
namespace Source
namespace Scanner

/-! ## Scans side by side -/

/-- Tokens of one kind and, strings apart, of one text, on lines that differ by `n`. -/
structure Alike (n : Nat) (k k' : Token) : Prop where
  kind_eq : k.kind = k'.kind
  text_eq : k.opensString = false → k.text = k'.text
  line_eq : k.line = k'.line + n
  endLine_eq : k.endLine = k'.endLine + n

/-- Two scans that have found alike tokens since `old` and `old'`, the second in a text that has
lost room.  `G` is known at the start of a line. -/
structure Beside (G : List Char → List Char → Prop) (n : Nat) (old old' : List Token)
    (s s' : Scanner) : Prop where
  rest : Trims G true s.rest s'.rest
  start : s.atLineStart = true → G s.rest s'.rest
  line_eq : s.line = s'.line + n
  atLineStart_eq : s.atLineStart = s'.atLineStart
  brackets_eq : s.brackets = s'.brackets
  found : ∃ new new', s.found = new ++ old ∧ s'.found = new' ++ old'
    ∧ List.Forall₂ (Alike n) new new'

section

variable {G : List Char → List Char → Prop} {n : Nat} {old old' : List Token} {s s' : Scanner}
  {b : Bool} {used used' rest rest' : List Char}

/-- Both scans pass characters; what was known of the texts is not needed any more. -/
theorem Beside.passing {G₀ : List Char → List Char → Prop} (h : Beside G₀ n old old' s s')
    (hstart : s.atLineStart = true → G rest rest') (hrest : Trims G b rest rest')
    (hcount : used'.count '\n' = used.count '\n') :
    Beside G n old old' (s.advance used rest) (s'.advance used' rest') where
  rest := by
    rw [advance_rest, advance_rest]
    exact hrest.loosen
  start := by
    rw [advance_atLineStart, advance_rest, advance_rest]
    exact hstart
  line_eq := by rw [advance_line, advance_line, h.line_eq, hcount, Nat.add_right_comm]
  atLineStart_eq := by rw [advance_atLineStart, advance_atLineStart, h.atLineStart_eq]
  brackets_eq := by rw [advance_brackets, advance_brackets, h.brackets_eq]
  found := by
    rw [advance_found, advance_found]
    exact h.found

theorem Beside.pass (h : Beside G n old old' s s') (hs : s.atLineStart = false)
    (hrest : Trims G b rest rest') (hcount : used'.count '\n' = used.count '\n') :
    Beside G n old old' (s.advance used rest) (s'.advance used' rest') :=
  h.passing (fun hstart ↦ (Bool.false_ne_true (hs.symm.trans hstart)).elim) hrest hcount

/-- Room that the second text has lost. -/
theorem Beside.skip (h : Beside G n old old' s s') (hs : s.atLineStart = false) {c : Char}
    (hc : IsRoom c) (hrest : Trims G true rest s'.rest) :
    Beside G n old old' (s.advance [c] rest) s' := by
  have hcount : ([] : List Char).count '\n' = [c].count '\n' := by
    rw [List.count_cons_of_ne (ne_newline_of_isRoom hc)]
  have hpass := h.pass hs hrest hcount
  rwa [advance_nil] at hpass

theorem Beside.adding (h : Beside G n old old' s s') {new new' : List Token}
    (hnew : List.Forall₂ (Alike n) new new') :
    Beside G n old old' (s.adding new) (s'.adding new') where
  rest := h.rest
  start := h.start
  line_eq := h.line_eq
  atLineStart_eq := h.atLineStart_eq
  brackets_eq := h.brackets_eq
  found := by
    obtain ⟨before, before', hfound, hfound', hbefore⟩ := h.found
    refine ⟨new.reverse ++ before, new'.reverse ++ before', ?_, ?_,
      List.rel_append (List.forall₂_reverse_iff.2 hnew) hbefore⟩
    · rw [adding_found, hfound, List.append_assoc]
    · rw [adding_found, hfound', List.append_assoc]

theorem Beside.part (h : Beside G n old old' s s') (kind : TokenKind)
    (hcount : used'.count '\n' = used.count '\n')
    (htext : (s.part used kind).opensString = false → used = used') :
    Alike n (s.part used kind) (s'.part used' kind) where
  kind_eq := rfl
  text_eq hkind := congrArg String.ofList (htext hkind)
  line_eq := h.line_eq
  endLine_eq := by
    change s.line + _ = s'.line + _ + n
    rw [h.line_eq, hcount, Nat.add_right_comm]

theorem Beside.emit (h : Beside G n old old' s s') (hs : s.atLineStart = false)
    (kind : TokenKind) (hrest : Trims G b rest rest')
    (hcount : used'.count '\n' = used.count '\n')
    (htext : (s.part used kind).opensString = false → used = used') :
    Beside G n old old' (s.emit kind used rest) (s'.emit kind used' rest') := by
  rw [emit_eq, emit_eq]
  exact (h.pass hs hrest hcount).adding (.cons (h.part kind hcount htext) .nil)

/-- The same characters in both texts. -/
theorem Beside.emit_same (h : Beside G n old old' s s') (hs : s.atLineStart = false)
    (kind : TokenKind) (hrest : Trims G b rest rest') :
    Beside G n old old' (s.emit kind used rest) (s'.emit kind used rest') :=
  h.emit hs kind hrest rfl fun _ ↦ rfl

theorem Beside.brackets (h : Beside G n old old' s s') (bs : List Char) :
    Beside G n old old' { s with brackets := bs } { s' with brackets := bs } :=
  ⟨h.rest, h.start, h.line_eq, h.atLineStart_eq, rfl, h.found⟩

theorem Beside.inLine (h : Beside G n old old' s s') :
    Beside G n old old' { s with atLineStart := false } { s' with atLineStart := false } :=
  ⟨h.rest, fun h ↦ (Bool.false_ne_true h).elim, h.line_eq, rfl, h.brackets_eq, h.found⟩

end

/-! ## Tokens of one line -/

section

variable {G : List Char → List Char → Prop} {n : Nat} {old old' : List Token} {s s' t : Scanner}
  {r r' : List Char}

theorem Beside.comment (h : Beside G n old old' s s') (hs : s.atLineStart = false)
    (hrest : s.rest = '#' :: r) (hrest' : s'.rest = '#' :: r') (hr : Trims G false r r') :
    Beside G n old old' s.comment s'.comment := by
  obtain ⟨htake, hdrop⟩ := hr.splitWhile (p := (· != '\n')) rfl
  rw [comment_of_hash hrest, comment_of_hash hrest', htake]
  exact h.emit_same hs .comment hdrop

theorem Beside.lineBreak (h : Beside G n old old' s s') (hs : s.atLineStart = false)
    (hG : G r r') (hr : Trims G true r r') :
    Beside G n old old' (s.lineBreak r) (s'.lineBreak r') := by
  rw [Scanner.lineBreak, Scanner.lineBreak, ← h.brackets_eq]
  have hemit : Beside G n old old' (s.emit _ ['\n'] r) (s'.emit _ ['\n'] r') :=
    h.emit_same hs (if s.brackets.isEmpty then .newline else .gap) hr
  obtain ⟨hrest, -, hline, -, hbrackets, hfound⟩ := hemit
  exact ⟨hrest, fun _ ↦ by simpa [emit_eq] using hG, hline, rfl, hbrackets, hfound⟩

theorem Beside.word (h : Beside G n old old' s s') (hs : s.atLineStart = false) {w : List Char}
    (hr : Trims G false (s.rest.drop w.length) (s'.rest.drop w.length)) (ht : s.word w = some t) :
    ∃ t', s'.word w = some t' ∧ Beside G n old old' t t' := by
  rw [Scanner.word] at ht ⊢
  split at ht
  · next hok =>
    cases ht
    rw [if_pos hok]
    exact ⟨_, rfl, h.emit_same hs _ hr⟩
  · cases ht

theorem Beside.operator (h : Beside G n old old' s s') (hs : s.atLineStart = false) {o : String}
    (hr : Trims G false (s.rest.drop o.length) (s'.rest.drop o.length))
    (ht : s.operator o = some t) :
    ∃ t', s'.operator o = some t' ∧ Beside G n old old' t t' := by
  have hemit : Beside G n old old' (s.emit .operator o.toList _) (s'.emit .operator o.toList _) :=
    h.emit_same hs .operator hr
  rw [Scanner.operator] at ht ⊢
  rw [← h.brackets_eq]
  split at ht
  · next hopen =>
    rw [if_pos hopen]
    split at ht
    · cases ht
    · next hdeep =>
      cases ht
      rw [if_neg hdeep]
      exact ⟨_, rfl, hemit.brackets _⟩
  · next hopen =>
    rw [if_neg hopen]
    split at ht
    · next hclose =>
      rw [if_pos hclose]
      split at ht
      · cases ht
      · split at ht
        · next hmatch =>
          cases ht
          rw [if_pos hmatch]
          exact ⟨_, rfl, hemit.brackets _⟩
        · cases ht
    · next hclose =>
      cases ht
      rw [if_neg hclose]
      exact ⟨_, rfl, hemit⟩

/-- A number is read to its end without a look at the next line. -/
theorem Beside.number (h : Beside G n old old' s s') (hs : s.atLineStart = false)
    {f : Split → Option Split} (acc : List Char) (hf : LooksToLine f)
    (hr : Trims G false r r') (htext : Trims G false (acc.reverse ++ r) (acc.reverse ++ r'))
    (hsplit : ∀ p, f (acc, r) = some p → acc.reverse ++ r = p.1.reverse ++ p.2 ∧ '\n' ∉ p.1)
    (hsplit' : ∀ p, f (acc, r') = some p → acc.reverse ++ r' = p.1.reverse ++ p.2)
    (ht : number (f (acc, r)) s = some t) :
    ∃ t', number (f (acc, r')) s' = some t' ∧ Beside G n old old' t t' := by
  rw [Scanner.number] at ht
  obtain ⟨p, hp, rfl⟩ := Option.map_eq_some_iff.1 ht
  obtain ⟨heq, hfeed⟩ := hsplit p hp
  rw [heq] at htext
  obtain ⟨v, hv, hbehind⟩ := htext.of_append fun hmem ↦ hfeed (List.mem_reverse.1 hmem)
  obtain ⟨v', hp'⟩ : ∃ v', f (acc, r') = some (p.1, v') := by
    rcases hr.line with ⟨rfl, -⟩ | ⟨x, X, Y, rfl, rfl⟩
    · exact ⟨p.2, hp⟩
    · obtain ⟨w, -, hw⟩ := hf X Y acc x p hp
      exact ⟨_, hw⟩
  have hv' : v = v' := List.append_cancel_left (hv.symm.trans (hsplit' (p.1, v') hp'))
  subst hv'
  exact ⟨_, by rw [Scanner.number, hp', Option.map_some], h.emit_same hs .number hbehind⟩

end

/-! ## All tokens -/

/-- The line feeds of a string with its quotes. -/
theorem count_take {q : Char} {r body rest : List Char} (h : closeString q r = some (body, rest)) :
    (r.take (r.length - rest.length)).count '\n' = r.count '\n' - rest.count '\n' := by
  obtain ⟨w, hw⟩ := closeString_isSuffix h
  rw [← hw, List.append_cons, List.length_append, Nat.add_sub_cancel, List.take_left]
  exact (Nat.sub_eq_of_eq_add List.count_append).symm

/-- The scan behind a string with fields. -/
theorem embedded_eq (s : Scanner) (used rest : List Char) (inner : List Token) :
    { s.advance used rest with
      found := ⟨.fieldsClose, "", (s.advance used rest).line, (s.advance used rest).column,
        (s.advance used rest).line⟩ :: (inner ++ (s.emit .fieldsOpen used rest).found) }
      = (s.advance used rest).adding
        (s.part used .fieldsOpen :: (inner.reverse ++ [(s.advance used rest).closing])) := by
  simp [emit_eq, adding, closing]

/-- What the comparison of two scans says of a token. -/
def TokenBeside (fuel : Nat) : Prop :=
  ∀ {G : List Char → List Char → Prop} {n : Nat} {old old' : List Token} {s s' t : Scanner},
    Beside G n old old' s s' → s.atLineStart = false → (∀ c ∈ s.rest.getLast?, ¬ IsRoom c) →
    token fuel s = some t → ∀ m, 2 * s'.rest.length + 4 ≤ m →
      Beside G n old old' t s' ∨ ∃ t', token m s' = some t' ∧ Beside G n old old' t t'

/-- The same for the tokens of fields. -/
def FieldsBeside (fuel : Nat) : Prop :=
  ∀ {n line : Nat} {es es' : List (List Char)} {ts : List Token},
    List.Forall₂ (Loosely false) es es' → fields fuel (line + n) es = some ts →
    ∀ m, 2 * room es' + 6 ≤ m →
      ∃ ts', fields m line es' = some ts' ∧ List.Forall₂ (Alike n) ts ts'

/-- The same for all tokens within a field. -/
def InsideBeside (fuel : Nat) : Prop :=
  ∀ {n : Nat} {s s' : Scanner} {ts : List Token},
    Beside (fun _ _ ↦ True) n [] [] s s' → s.atLineStart = false →
    (∀ c ∈ s.rest.getLast?, ¬ IsRoom c) → inside fuel s = some ts →
    ∀ m, 2 * s'.rest.length + 5 ≤ m → ∃ ts', inside m s' = some ts' ∧ List.Forall₂ (Alike n) ts ts'

section

variable {G : List Char → List Char → Prop} {n : Nat} {old old' : List Token} {s s' t : Scanner}
  {r r' : List Char}

theorem Beside.string {fuel : Nat} (hfields : ∀ k < fuel, FieldsBeside k)
    (h : Beside G n old old' s s') (hs : s.atLineStart = false) {sort : StringSort} {q : Char}
    {opening : List Char} (hq : IsQuote q) (hr : Trims G false r r')
    (ht : string fuel sort opening q r s = some t) (m : Nat) (hm : 2 * r'.length + 5 ≤ m) :
    ∃ t', string m sort opening q r' s' = some t' ∧ Beside G n old old' t t' := by
  obtain ⟨m, rfl⟩ : ∃ k, m = k + 1 := ⟨m - 1, by omega⟩
  cases fuel with
  | zero => cases ht
  | succ fuel =>
    rw [Scanner.string] at ht ⊢
    obtain ⟨⟨body, rest⟩, hclose, ht⟩ := Option.bind_eq_some_iff.1 ht
    obtain ⟨body', rest', hclose', hbody, hrest⟩ := trims_closeString hq hr hclose
    rw [hclose', Option.bind_some]
    dsimp only at ht ⊢
    have hcount : (opening ++ r'.take (r'.length - rest'.length)).count '\n'
        = (opening ++ r.take (r.length - rest.length)).count '\n' := by
      rw [List.count_append, List.count_append, count_take hclose, count_take hclose',
        hr.count_newline, hrest.count_newline]
    generalize opening ++ r.take (r.length - rest.length) = used at hcount ht
    generalize opening ++ r'.take (r'.length - rest'.length) = used' at hcount ⊢
    split at ht
    · next hbytes =>
      rw [if_pos hbytes]
      split at ht
      · next hok =>
        cases ht
        rw [if_pos (hbody.bytesOk hok)]
        exact ⟨_, rfl, h.emit hs .bytes hrest hcount fun hkind ↦
          (Bool.false_ne_true hkind.symm).elim⟩
      · cases ht
    next hbytes =>
    rw [if_neg hbytes]
    split at ht
    · next hsort =>
      rw [if_pos hsort]
      simp only [Option.bind_eq_bind, Option.bind_eq_some_iff] at ht
      obtain ⟨es, hes, inner, hinner, ht⟩ := ht
      obtain ⟨es', hes', hloosely⟩ := hbody.fieldExpressions hes
      have hroom := room_fieldExpressions hes'
      have hlength := length_closeString hclose'
      rw [h.line_eq] at hinner
      obtain ⟨inner', hinner', halike⟩ :=
        hfields fuel (Nat.lt_succ_self _) hloosely hinner m (by omega)
      simp only [Option.bind_eq_bind, hes', hinner', Option.bind_some]
      refine ⟨_, rfl, ?_⟩
      rw [← Option.some.inj ht, embedded_eq, embedded_eq]
      have hpass := h.pass hs hrest hcount
      refine hpass.adding (.cons (h.part .fieldsOpen hcount fun hkind ↦ ?_)
        (List.rel_append (List.forall₂_reverse_iff.2 halike) (.cons ?_ .nil)))
      · exact (Bool.false_ne_true hkind.symm).elim
      · exact ⟨rfl, fun _ ↦ rfl, hpass.line_eq, hpass.line_eq⟩
    · next hsort =>
      rw [if_neg hsort]
      split at ht
      · next hok =>
        cases ht
        have hok' : (sort.raw || escapesOk body') = true := by
          rw [Bool.or_eq_true] at hok ⊢
          exact hok.imp_right hbody.escapesOk
        rw [if_pos hok']
        exact ⟨_, rfl, h.emit hs .string hrest hcount
          fun hkind ↦ (Bool.false_ne_true hkind.symm).elim⟩
      · cases ht

theorem operatorAt?_trims (h : Trims G false r r') : operatorAt? r' = operatorAt? r := by
  rcases h.line with ⟨rfl, -⟩ | ⟨x, X, Y, rfl, rfl⟩
  · rfl
  · exact operatorAt?_ahead x

theorem Beside.wordOrString {fuel : Nat} (hfields : ∀ k < fuel, FieldsBeside k)
    (h : Beside G n old old' s s') (hs : s.atLineStart = false) {w v v' : List Char}
    (hrest : s.rest = w ++ v) (hrest' : s'.rest = w ++ v') (hv : Trims G false v v')
    (ht : wordOrString fuel w v s = some t) (m : Nat) (hm : 2 * v'.length + 3 ≤ m) :
    ∃ t', wordOrString m w v' s' = some t' ∧ Beside G n old old' t t' := by
  have hlone (ht : s.word w = some t) :
      ∃ t', s'.word w = some t' ∧ Beside G n old old' t t' := by
    refine h.word hs ?_ ht
    rwa [hrest, hrest', List.drop_left, List.drop_left]
  cases v with
  | nil =>
    rw [hv.eq_nil]
    exact hlone ht
  | cons q v =>
    obtain ⟨v', rfl, -⟩ := hv.of_cons (by simp)
    rw [Scanner.wordOrString] at ht ⊢
    split at ht
    · next hquote =>
      rw [if_pos hquote]
      have hq := isQuote_of_eq (by simpa using hquote)
      obtain ⟨_, hv', hv⟩ := hv.of_plain (by simp) hq.feed
      obtain rfl := (List.cons.inj hv').2
      split at ht
      · exact h.string hfields hs hq hv ht m (by simpa [Nat.mul_add] using hm)
      · exact hlone ht
    · next hquote =>
      rw [if_neg hquote]
      exact hlone ht

theorem Beside.operatorOrStray (h : Beside G n old old' s s') (hs : s.atLineStart = false)
    {c : Char} (hrest : s.rest = c :: r) (hrest' : s'.rest = c :: r') (hc : c ≠ '\n')
    (hr : Trims G false r r')
    (ht : (match operatorAt? (c :: r) with
      | some o => s.operator o
      | none => some (s.emit .stray [c] r)) = some t) :
    ∃ t', (match operatorAt? (c :: r') with
      | some o => s'.operator o
      | none => some (s'.emit .stray [c] r')) = some t' ∧ Beside G n old old' t t' := by
  have hcons : Trims G false (c :: r) (c :: r') := .cons hc hr
  rw [operatorAt?_trims hcons]
  cases ho : operatorAt? (c :: r) with
  | none =>
    rw [ho] at ht
    cases ht
    exact ⟨_, rfl, h.emit_same hs .stray hr⟩
  | some o =>
    rw [ho] at ht
    unfold operatorAt? at ho
    have hfeed : ∀ o ∈ operators.flatten, '\n' ∉ o.toList := by decide
    have hprefix := List.find?_some ho
    obtain ⟨x, hx⟩ := List.isPrefixOf_iff_prefix.1 hprefix
    rw [← hx] at hcons hrest
    obtain ⟨x', hx', hbehind⟩ := hcons.of_append (hfeed o (List.mem_of_find?_eq_some ho))
    refine h.operator hs ?_ ht
    rwa [hrest, hrest', hx', ← String.length_toList, List.drop_left, List.drop_left]

theorem tokenBeside_succ {fuel : Nat} (hfields : ∀ k < fuel, FieldsBeside k) :
    TokenBeside (fuel + 1) := by
  intro G n old old' s s' t h hs hlast ht m hm
  obtain ⟨m, rfl⟩ : ∃ k, m = k + 1 := ⟨m - 1, by omega⟩
  rw [token] at ht
  cases hrest : s.rest with
  | nil =>
    rw [hrest] at ht
    cases ht
  | cons c r =>
    have htrims := h.rest
    rw [hrest] at htrims hlast
    simp only [hrest] at ht
    have hblank : ((c = ' ' || c = '\t' || c = '\x0c') = true) ↔ IsRoom c := by
      simp [IsRoom, or_assoc]
    rw [token]
    by_cases hroom : IsRoom c
    · rw [if_pos (hblank.2 hroom)] at ht
      cases ht
      -- room that the second text has lost is passed by the first scan alone
      generalize hrest' : s'.rest = r₀ at htrims
      cases htrims with
      | drop _ hr => exact .inl (h.skip hs hroom (hrest' ▸ hr))
      | next _ hr =>
        dsimp only
        rw [if_pos (hblank.2 hroom)]
        exact .inr ⟨_, rfl, h.pass hs hr rfl⟩
    obtain ⟨r', hrest', hG, hr⟩ := htrims.of_cons fun _ ↦ hroom
    rw [hrest', List.length_cons] at hm
    simp only [hrest']
    refine .inr ?_
    rw [if_neg (mt hblank.1 hroom)] at ht ⊢
    by_cases hfeed : c = '\n'
    · subst hfeed
      cases ht
      exact ⟨_, rfl, h.lineBreak hs (hG rfl) hr⟩
    rw [beq_eq_false_iff_ne.2 hfeed] at hr
    have hcons : Trims G false (c :: r) (c :: r') := .cons hfeed hr
    split at ht
    · next hhash =>
      subst hhash
      cases ht
      rw [if_pos rfl]
      exact ⟨_, rfl, h.comment hs hrest hrest' hr⟩
    next hhash =>
    rw [if_neg hhash, if_neg hfeed]
    split at ht
    · next hback =>
      subst hback
      rw [if_pos rfl]
      split at ht
      · next d w =>
        cases ht
        obtain ⟨y, rfl, -, hy⟩ := hr.of_cons (by simp)
        obtain ⟨d', w', rfl⟩ := hy.exists_of_last (by simpa using hlast)
        exact ⟨_, rfl, h.pass hs hy rfl⟩
      · cases ht
    next hback =>
    rw [if_neg hback]
    split at ht
    · next hword =>
      rw [if_pos hword]
      obtain ⟨htake, hdrop⟩ := hcons.splitWhile isWordLike_newline
      rw [Text.drop_length_takeWhile] at ht
      rw [Text.drop_length_takeWhile, htake]
      have hcut := List.takeWhile_append_dropWhile (p := isWordLike) (l := c :: r)
      have hcut' := List.takeWhile_append_dropWhile (p := isWordLike) (l := c :: r')
      refine h.wordOrString hfields hs (hrest.trans hcut.symm)
        (hrest'.trans (htake ▸ hcut'.symm)) hdrop ht m ?_
      have hlength := (List.dropWhile_suffix (p := isWordLike) (l := c :: r')).length_le
      rw [List.length_cons] at hlength
      omega
    next hword =>
    rw [if_neg hword]
    split at ht
    · next hquote =>
      rw [if_pos hquote]
      exact h.string hfields hs (isQuote_of_eq (by simpa using hquote)) hr ht m (by omega)
    next hquote =>
    rw [if_neg hquote]
    split at ht
    · next hdigit =>
      rw [if_pos hdigit]
      exact h.number hs [] looksToLine_scanNumber hcons hcons
        (fun p hp ↦ ⟨(split_scanNumber hdigit hp).1, newline_not_mem_scanNumber hdigit hp⟩)
        (fun p hp ↦ (split_scanNumber hdigit hp).1) ht
    next hdigit =>
    rw [if_neg hdigit]
    rw [← hr.head?_eq] at ht
    split at ht
    · next hpoint =>
      rw [if_pos hpoint]
      obtain ⟨rfl, -⟩ : c = '.' ∧ _ := by simpa using hpoint
      exact h.number hs ['.'] looksToLine_fractionTail hr hcons
        (fun p hp ↦ ⟨(split_fractionTail hp).1, newline_not_mem_fractionTail hp⟩)
        (fun p hp ↦ (split_fractionTail hp).1) ht
    next hpoint =>
    rw [if_neg hpoint]
    exact h.operatorOrStray hs hrest hrest' hfeed hr ht

theorem fieldsBeside_succ {fuel : Nat} (hinside : InsideBeside fuel) (hfields : FieldsBeside fuel) :
    FieldsBeside (fuel + 1) := by
  intro n line es es' ts hes ht m hm
  obtain ⟨m, rfl⟩ : ∃ k, m = k + 1 := ⟨m - 1, by omega⟩
  cases hes with
  | nil =>
    rw [fields] at ht ⊢
    cases ht
    exact ⟨[], rfl, .nil⟩
  | @cons e e' es es' he hes =>
    rw [fields] at ht ⊢
    simp only [Option.bind_eq_bind, Option.bind_eq_some_iff] at ht
    obtain ⟨ts, hts, us, hus, ht⟩ := ht
    rw [room] at hm
    have hclosing (b : Bool) : Loosely b [')'] [')'] := .next (fun _ ↦ trivial) .nil
    have hbeside : Beside (fun _ _ ↦ True) n [] []
        { rest := '(' :: (e ++ [')']), line := line + n, atLineStart := false }
        { rest := '(' :: (e' ++ [')']), line := line, atLineStart := false } :=
      ⟨.cons (by decide) (he.append hclosing), fun _ ↦ trivial, rfl, rfl, rfl, [], [], rfl, rfl,
        .nil⟩
    have hlast : ∀ c ∈ ('(' :: (e ++ [')'])).getLast?, ¬ IsRoom c := by
      rw [← List.cons_append, List.getLast?_concat]
      rintro _ ⟨⟩
      decide
    obtain ⟨ts', hts', halike⟩ := hinside hbeside rfl hlast hts m (by simp; omega)
    obtain ⟨us', hus', halike'⟩ := hfields hes hus m (by omega)
    refine ⟨us' ++ ts', ?_, ?_⟩
    · simp only [Option.bind_eq_bind, hts', hus', Option.bind_some]
      rfl
    · rw [← Option.some.inj ht]
      exact List.rel_append halike' halike

theorem insideBeside_succ {fuel : Nat} (htoken : TokenBeside fuel) (hinside : InsideBeside fuel) :
    InsideBeside (fuel + 1) := by
  intro n s s' ts h hs hlast ht m hm
  obtain ⟨m, rfl⟩ : ∃ k, m = k + 1 := ⟨m - 1, by omega⟩
  rw [inside] at ht
  split at ht
  · next hnil =>
    rw [List.isEmpty_iff] at hnil
    have hnil' : s'.rest = [] := (hnil ▸ h.rest).eq_nil
    rw [inside, hnil', ← h.brackets_eq]
    split at ht
    · next hbrackets =>
      cases ht
      obtain ⟨new, new', hfound, hfound', halike⟩ := h.found
      rw [List.append_nil] at hfound hfound'
      exact ⟨s'.found, by rw [hbrackets]; rfl, by rwa [hfound, hfound']⟩
    · cases ht
  · next hne =>
    obtain ⟨t, htok, ht⟩ := Option.bind_eq_some_iff.1 ht
    have hlast' : ∀ c ∈ t.rest.getLast?, ¬ IsRoom c := by
      obtain ⟨new, hstep⟩ := exists_step_of_token htok
      obtain ⟨used, -, hused, -⟩ := hstep.text
      exact fun c hc ↦ hlast c (by rw [hused, List.getLast?_append, hc]; rfl)
    rcases htoken h hs hlast htok m (by omega) with hskip | ⟨t', htok', hstep⟩
    · have hs' : s'.atLineStart = false := h.atLineStart_eq.symm.trans hs
      have hinLine := hskip.inLine
      rw [show { s' with atLineStart := false } = s' by rw [← hs']] at hinLine
      exact hinside hinLine rfl hlast' ht (m + 1) hm
    · obtain ⟨new, hstep'⟩ := exists_step_of_token htok'
      obtain ⟨used, hused, hrest, -⟩ := hstep'.text
      have hlength : s'.rest.length = used.length + t'.rest.length := by
        rw [hrest, List.length_append]
      have hpos := List.length_pos_iff.2 hused
      have hne' : ¬ s'.rest.isEmpty = true := by
        rw [List.isEmpty_iff, ← List.length_eq_zero_iff]
        omega
      rw [inside, if_neg hne', htok', Option.bind_some]
      exact hinside hstep.inLine rfl hlast' ht m (by dsimp only; omega)

/-- **Tokens of a text whose lines lose room** are alike, in the text and in its fields. -/
theorem tokens_beside (fuel : Nat) :
    TokenBeside fuel ∧ FieldsBeside fuel ∧ InsideBeside fuel := by
  -- a string hands its fields some fuel that is less than its own, not the fuel next to it
  induction fuel using Nat.strong_induction_on with
  | _ fuel ih =>
    cases fuel with
    | zero =>
      refine ⟨?_, ?_, ?_⟩
      · intro G n old old' s s' t h hs hlast ht
        cases ht
      · intro n line es es' ts hes ht
        cases ht
      · intro n s s' ts h hs hlast ht
        cases ht
    | succ fuel =>
      obtain ⟨htoken, hfields, hinside⟩ := ih fuel (Nat.lt_succ_self _)
      exact ⟨tokenBeside_succ fun k hk ↦ (ih k (Nat.lt_succ_of_lt hk)).2.1,
        fieldsBeside_succ hinside hfields, insideBeside_succ htoken hinside⟩

theorem Beside.token {fuel : Nat} (h : Beside G n old old' s s') (hs : s.atLineStart = false)
    (hlast : ∀ c ∈ s.rest.getLast?, ¬ IsRoom c) (ht : token fuel s = some t) :
    Beside G n old old' t s' ∨ ∃ t', token (2 * s'.rest.length + 4) s' = some t'
      ∧ Beside G n old old' t t' :=
  (tokens_beside fuel).1 h hs hlast ht _ le_rfl

end

end Scanner
end Source
end TexWeave
