import TexWeave.Proofs.Lines
import TexWeave.Title

/-!
# Where names are cut into words

A name is cut wherever low lines stand in it and at every camel-case boundary, and nowhere else.
Low lines are in no word; all other characters are in one, in their order.

* `Parted` — places at which a name is cut, and `CutBehind`, where a list of words has a cut.
* `IsSplit`, `FinestSplit` — words with cuts at such places only, and at all of them.
* `eq_of_cutBehind_iff` — words are known from their cuts.
* `charWords_cons` — the words of a name, character by character.
* `Smooth` — texts without a camel-case boundary, as words are.
* `splitWords_finest` — the words of a name are the one finest split, and each is its own.
-/

set_option autoImplicit false

namespace TexWeave

open Text

/-! ## Places in a name -/

/-- The characters of a name that are in its words. -/
def letters (cs : List Char) : List Char := cs.filter (· != '_')

/-- A camel-case boundary: a capital after a small letter or a digit, or a capital and a small
letter after a capital. -/
def AtBoundary (p q : List Char) : Prop :=
  ∃ a b r, p.getLast? = some a ∧ q = b :: r ∧ isAsciiUpper b = true
    ∧ (isAsciiLower a = true ∨ isAsciiDigit a = true
      ∨ isAsciiUpper a = true ∧ ∃ c, r.head? = some c ∧ isAsciiLower c = true)

/-- Whether a name is cut between two parts of it: by a low line on either side, or by a camel-case
boundary. -/
def Parted (p q : List Char) : Prop :=
  p.getLast? = some '_' ∨ q.head? = some '_' ∨ AtBoundary p q

/-- Whether one of some words ends behind so many characters. -/
def CutBehind (ws : List (List Char)) (cs : List Char) : Prop :=
  ∃ before after, ws = before ++ after ∧ before.flatten = cs

/-- Words that hold the characters of a name, with cuts only where the name can be cut. -/
structure IsSplit (name : List Char) (ws : List (List Char)) : Prop where
  words : ∀ w ∈ ws, w ≠ [] ∧ '_' ∉ w
  joined : ws.flatten = letters name
  parted : ∀ p q, name = p ++ q → letters p ≠ [] → letters q ≠ [] →
    CutBehind ws (letters p) → Parted p q

/-- Words with cuts wherever the name can be cut between two letters. -/
structure FinestSplit (name : List Char) (ws : List (List Char)) : Prop
    extends IsSplit name ws where
  cut : ∀ p q, name = p ++ q → letters p ≠ [] → letters q ≠ [] →
    Parted p q → CutBehind ws (letters p)

/-- Words of which other words are put together. -/
def Refines (ws vs : List (List Char)) : Prop :=
  ∃ groups : List (List (List Char)), groups.flatten = ws ∧ groups.map List.flatten = vs

theorem letters_append (p q : List Char) : letters (p ++ q) = letters p ++ letters q :=
  List.filter_append p q

@[simp] theorem letters_low (r : List Char) : letters ('_' :: r) = letters r := rfl

theorem letters_cons {c : Char} (hc : c ≠ '_') (r : List Char) :
    letters (c :: r) = c :: letters r :=
  List.filter_cons_of_pos (bne_iff_ne.2 hc)

theorem letters_of_not_mem {cs : List Char} (h : '_' ∉ cs) : letters cs = cs :=
  List.filter_eq_self.2 fun _ hc ↦ bne_iff_ne.2 fun heq ↦ h (heq ▸ hc)

theorem low_not_mem_letters (cs : List Char) : '_' ∉ letters cs := by
  simp [letters]

theorem getLast?_cons_of_ne_nil {p : List Char} (hp : p ≠ []) (c : Char) :
    (c :: p).getLast? = p.getLast? := by
  obtain ⟨d, p', rfl⟩ := List.exists_cons_of_ne_nil hp
  exact List.getLast?_cons_cons

theorem atBoundary_cons {c : Char} {p : List Char} (hp : p ≠ []) (q : List Char) :
    AtBoundary (c :: p) q ↔ AtBoundary p q := by
  rw [AtBoundary, AtBoundary, getLast?_cons_of_ne_nil hp]

theorem parted_cons {c : Char} {p : List Char} (hp : p ≠ []) (q : List Char) :
    Parted (c :: p) q ↔ Parted p q := by
  rw [Parted, Parted, getLast?_cons_of_ne_nil hp, atBoundary_cons hp]

/-- More characters behind a boundary leave it one. -/
theorem AtBoundary.of_isPrefix {p q r : List Char} (h : AtBoundary p q) (hq : q <+: r) :
    AtBoundary p r := by
  obtain ⟨t, rfl⟩ := hq
  obtain ⟨a, b, s, ha, rfl, hb, h⟩ := h
  refine ⟨a, b, s ++ t, ha, rfl, hb, h.imp_right (Or.imp_right (And.imp_right ?_))⟩
  rintro ⟨c, hc, hlower⟩
  exact ⟨c, by rw [List.head?_append, hc]; rfl, hlower⟩

theorem AtBoundary.ne_nil {p q : List Char} (h : AtBoundary p q) : p ≠ [] ∧ q ≠ [] := by
  obtain ⟨a, b, s, ha, rfl, -⟩ := h
  refine ⟨?_, List.cons_ne_nil b s⟩
  rintro rfl
  cases ha

/-! ## Words and their cuts -/

section Cuts

variable {ws vs : List (List Char)} {w cs : List Char}

theorem cutBehind_nil (ws : List (List Char)) : CutBehind ws [] := ⟨[], ws, rfl, rfl⟩

theorem cutBehind_flatten (ws : List (List Char)) : CutBehind ws ws.flatten :=
  ⟨ws, [], (List.append_nil ws).symm, rfl⟩

theorem CutBehind.isPrefix (h : CutBehind ws cs) : cs <+: ws.flatten := by
  obtain ⟨before, after, rfl, rfl⟩ := h
  rw [List.flatten_append]
  exact List.prefix_append _ _

theorem cutBehind_cons_append (w : List Char) :
    CutBehind ws cs → CutBehind (w :: ws) (w ++ cs) := by
  rintro ⟨before, after, rfl, rfl⟩
  exact ⟨w :: before, after, rfl, rfl⟩

/-- Behind the first word, the cuts are those of the words that follow. -/
theorem cutBehind_cons (hcs : cs ≠ []) (h : CutBehind (w :: ws) cs) :
    ∃ ds, cs = w ++ ds ∧ CutBehind ws ds := by
  obtain ⟨before, after, hws, rfl⟩ := h
  cases before with
  | nil => exact absurd rfl hcs
  | cons v before =>
    obtain ⟨rfl, rfl⟩ := List.cons.inj hws
    exact ⟨before.flatten, rfl, before, after, rfl, rfl⟩

theorem cutBehind_cons_iff (hw : w ≠ []) : CutBehind (w :: ws) (w ++ cs) ↔ CutBehind ws cs := by
  refine ⟨fun h ↦ ?_, cutBehind_cons_append w⟩
  obtain ⟨ds, heq, h⟩ := cutBehind_cons (fun heq ↦ hw (List.append_eq_nil_iff.1 heq).1) h
  rwa [List.append_cancel_left heq]

/-- A first word with one more character in front has its cuts one character later. -/
theorem cutBehind_lengthened (c : Char) (hcs : cs ≠ []) :
    CutBehind ((c :: w) :: ws) (c :: cs) ↔ CutBehind (w :: ws) cs := by
  constructor
  · intro h
    obtain ⟨ds, heq, h⟩ := cutBehind_cons (List.cons_ne_nil c cs) h
    rw [(List.cons.inj heq).2]
    exact cutBehind_cons_append w h
  · intro h
    obtain ⟨ds, rfl, hds⟩ := cutBehind_cons hcs h
    exact cutBehind_cons_append (c :: w) hds

/-- Behind some words, the cuts are those of the words that follow. -/
theorem cutBehind_append_iff {before : List (List Char)} (hbefore : ∀ w ∈ before, w ≠ []) :
    CutBehind (before ++ ws) (before.flatten ++ cs) ↔ CutBehind ws cs := by
  induction before with
  | nil => rfl
  | cons w before ih =>
    obtain ⟨hw, hbefore⟩ := List.forall_mem_cons.1 hbefore
    rw [List.cons_append, List.flatten_cons, List.append_assoc, cutBehind_cons_iff hw, ih hbefore]

theorem eq_nil_of_flatten (hws : ∀ w ∈ ws, w ≠ []) (h : ws.flatten = []) : ws = [] := by
  cases ws with
  | nil => rfl
  | cons w ws => exact absurd (List.append_eq_nil_iff.1 h).1 (hws w List.mem_cons_self)

/-- The first word is the first place with a cut. -/
theorem isPrefix_of_cutBehind (hcs : cs ≠ []) (h : CutBehind (w :: ws) cs) : w <+: cs := by
  obtain ⟨ds, rfl, -⟩ := cutBehind_cons hcs h
  exact List.prefix_append w ds

/-- **Words are known from their cuts.** -/
theorem eq_of_cutBehind_iff (hws : ∀ w ∈ ws, w ≠ []) (hvs : ∀ w ∈ vs, w ≠ [])
    (h : ∀ cs, CutBehind ws cs ↔ CutBehind vs cs) : ws = vs := by
  induction ws generalizing vs with
  | nil =>
    have hall : CutBehind [] vs.flatten := (h _).2 (cutBehind_flatten vs)
    exact (eq_nil_of_flatten hvs (List.prefix_nil.1 hall.isPrefix)).symm
  | cons w ws ih =>
    obtain ⟨hw, hws⟩ := List.forall_mem_cons.1 hws
    have hfirst : CutBehind vs w :=
      (h w).1 (by simpa using cutBehind_cons_append w (cutBehind_nil ws))
    cases vs with
    | nil => exact absurd (List.prefix_nil.1 hfirst.isPrefix) hw
    | cons v vs =>
      obtain ⟨hv, hrest⟩ := List.forall_mem_cons.1 hvs
      have hfirst' : CutBehind (w :: ws) v :=
        (h v).2 (by simpa using cutBehind_cons_append v (cutBehind_nil vs))
      have hle : w <+: v := isPrefix_of_cutBehind hv hfirst'
      have hge : v <+: w := isPrefix_of_cutBehind hw hfirst
      obtain rfl : w = v := hle.eq_of_length_le hge.length_le
      have hcuts : ∀ cs, CutBehind ws cs ↔ CutBehind vs cs :=
        fun cs ↦ (cutBehind_cons_iff hw).symm.trans ((h (w ++ cs)).trans (cutBehind_cons_iff hw))
      rw [ih hws hrest hcuts]

/-- Words with more cuts than others are what these are put together of. -/
theorem refines_of_cutBehind (hws : ∀ w ∈ ws, w ≠ []) (hvs : ∀ w ∈ vs, w ≠ [])
    (hjoin : ws.flatten = vs.flatten) (h : ∀ cs, CutBehind vs cs → CutBehind ws cs) :
    Refines ws vs := by
  induction vs generalizing ws with
  | nil => exact ⟨[], (eq_nil_of_flatten hws hjoin).symm, rfl⟩
  | cons v vs ih =>
    obtain ⟨hv, hvs⟩ := List.forall_mem_cons.1 hvs
    obtain ⟨before, after, rfl, hbefore⟩ :=
      h v (by simpa using cutBehind_cons_append v (cutBehind_nil vs))
    have hbehind : ∀ w ∈ before, w ≠ [] := fun w hw ↦ hws w (List.mem_append_left _ hw)
    have hrest : after.flatten = vs.flatten := by
      rw [List.flatten_append, hbefore, List.flatten_cons] at hjoin
      exact List.append_cancel_left hjoin
    obtain ⟨groups, rfl, rfl⟩ := ih (fun w hw ↦ hws w (List.mem_append_right _ hw)) hvs hrest
      fun cs hcs ↦ by
        have hcut := h _ (cutBehind_cons_append v hcs)
        rwa [← hbefore, cutBehind_append_iff hbehind] at hcut
    exact ⟨before :: groups, rfl, by rw [List.map_cons, hbefore]⟩

end Cuts

/-! ## The words of a name -/

/-- The words of a name, as lists of characters. -/
def charWords (cs : List Char) : List (List Char) := (splitAt '_' cs).flatMap splitCamel

theorem splitWords_eq (name : String) :
    splitWords name = (charWords name.toList).map String.ofList := rfl

theorem map_toList_splitWords (name : String) :
    (splitWords name).map String.toList = charWords name.toList := by
  rw [splitWords_eq, List.map_map]
  exact (List.map_congr_left fun w _ ↦ String.toList_ofList).trans (List.map_id _)

/-- Whether a name is cut behind a character when `r` follows. -/
def isCutBefore (c : Char) : List Char → Bool
  | [] => true
  | b :: r => b == '_' || isBoundary c b r

theorem isBoundary_iff {a b : Char} {r : List Char} :
    isBoundary a b r = true ↔ AtBoundary [a] (b :: r) := by
  constructor
  · intro h
    obtain ⟨hb, h⟩ := Bool.and_eq_true_iff.1 h
    refine ⟨a, b, r, rfl, rfl, hb, ?_⟩
    rw [Bool.or_eq_true, Bool.or_eq_true, Bool.and_eq_true, or_assoc] at h
    refine h.imp_right (Or.imp_right (And.imp_right fun hr ↦ ?_))
    cases r with
    | nil => cases hr
    | cons c r => exact ⟨c, rfl, hr⟩
  · rintro ⟨a', b', r', ha, hr, hb, h⟩
    cases ha
    cases hr
    unfold isBoundary
    rw [hb, Bool.true_and, Bool.or_eq_true, Bool.or_eq_true, Bool.and_eq_true, or_assoc]
    refine h.imp_right (Or.imp_right (And.imp_right ?_))
    rintro ⟨c, hc, hlower⟩
    obtain ⟨r', rfl⟩ := List.head?_eq_some_iff.1 hc
    exact hlower

theorem isCutBefore_iff {c : Char} (hc : c ≠ '_') {r : List Char} (hr : r ≠ []) :
    isCutBefore c r = true ↔ Parted [c] r := by
  obtain ⟨b, r, rfl⟩ := List.exists_cons_of_ne_nil hr
  rw [isCutBefore, Bool.or_eq_true, beq_iff_eq, isBoundary_iff, Parted]
  simp [hc]

/-- A boundary is seen without what stands behind the next low line. -/
theorem isBoundary_append (a b : Char) (l : List Char) {r : List Char}
    (hr : ∀ c, r.head? = some c → c = '_') : isBoundary a b (l ++ r) = isBoundary a b l := by
  cases l with
  | cons c l => rfl
  | nil =>
    cases r with
    | nil => rfl
    | cons c r =>
      obtain rfl := hr c rfl
      rfl

theorem splitCamel_ne_nil (c : Char) (r : List Char) : splitCamel (c :: r) ≠ [] := by
  cases r with
  | nil => exact List.cons_ne_nil _ _
  | cons b r =>
    rw [splitCamel]
    split
    · exact List.cons_ne_nil _ _
    · split <;> exact List.cons_ne_nil _ _

@[simp] theorem charWords_nil : charWords [] = [] := rfl

@[simp] theorem charWords_low (r : List Char) : charWords ('_' :: r) = charWords r := by
  rw [charWords, splitAt, if_pos rfl]
  rfl

/-- A character is a word alone or in front of the next word. -/
theorem charWords_cons {c : Char} (hc : c ≠ '_') (r : List Char) :
    charWords (c :: r) = if isCutBefore c r then [c] :: charWords r
      else (c :: (charWords r).headD []) :: (charWords r).tail := by
  obtain ⟨l, ls, hl, hr⟩ := exists_splitAt_eq_cons '_' r
  have hlow : '_' ∉ l := not_mem_of_mem_splitAt (hl ▸ List.mem_cons_self)
  rw [charWords, splitAt, if_neg hc, charWords, hl, List.flatMap_cons, List.flatMap_cons]
  have hrest : ∀ x, (ls.flatMap ('_' :: ·)).head? = some x → x = '_' := by
    intro x hx
    cases ls with
    | nil => cases hx
    | cons l' ls => exact (Option.some.inj hx).symm
  cases l with
  | nil =>
    have hcut : isCutBefore c r = true := by
      cases r with
      | nil => rfl
      | cons b r =>
        rw [isCutBefore, hrest b (by rw [← List.nil_append (ls.flatMap _), ← hr]; rfl)]
        rfl
    rw [if_pos hcut]
    rfl
  | cons b l =>
    have hb : b ≠ '_' := fun heq ↦ hlow (heq ▸ List.mem_cons_self)
    obtain ⟨w, ws, hw⟩ := List.exists_cons_of_ne_nil (splitCamel_ne_nil b l)
    have hcut : isCutBefore c r = isBoundary c b l := by
      rw [hr, List.cons_append, isCutBefore, isBoundary_append c b l hrest]
      simp [hb]
    rw [splitCamel, hw, hcut]
    dsimp only
    split <;> rfl

theorem ne_nil_of_mem_charWords {cs w : List Char} (h : w ∈ charWords cs) : w ≠ [] := by
  induction cs generalizing w with
  | nil => exact absurd h List.not_mem_nil
  | cons c r ih =>
    by_cases hc : c = '_'
    · rw [hc, charWords_low] at h
      exact ih h
    · rw [charWords_cons hc] at h
      split at h
      · rcases List.mem_cons.1 h with rfl | h
        · exact List.cons_ne_nil _ _
        · exact ih h
      · rcases List.mem_cons.1 h with rfl | h
        · exact List.cons_ne_nil _ _
        · exact ih (List.mem_of_mem_tail h)

theorem flatten_charWords (cs : List Char) : (charWords cs).flatten = letters cs := by
  induction cs with
  | nil => rfl
  | cons c r ih =>
    by_cases hc : c = '_'
    · rw [hc, charWords_low, letters_low, ih]
    · rw [charWords_cons hc, letters_cons hc, ← ih]
      split
      · rfl
      · cases charWords r <;> rfl

theorem exists_charWords_eq_cons (cs : List Char) (h : letters cs ≠ []) :
    ∃ w ws, charWords cs = w :: ws ∧ w ≠ [] := by
  obtain ⟨w, ws, hws⟩ := List.exists_cons_of_ne_nil fun hnil : charWords cs = [] ↦
    h (by rw [← flatten_charWords, hnil]; rfl)
  exact ⟨w, ws, hws, ne_nil_of_mem_charWords (hws ▸ List.mem_cons_self)⟩

/-- A part of a name without letters ends with a low line. -/
theorem getLast?_of_letters_eq_nil {p : List Char} (hp : p ≠ []) (h : letters p = []) :
    p.getLast? = some '_' := by
  have hall : ∀ c ∈ p, c = '_' := by simpa [letters] using h
  rw [List.getLast?_eq_getLast_of_ne_nil hp, hall _ (List.getLast_mem hp)]

/-- **A name is cut where it can be.** -/
theorem cutBehind_charWords_iff {p q : List Char} (hp : letters p ≠ []) (hq : letters q ≠ []) :
    CutBehind (charWords (p ++ q)) (letters p) ↔ Parted p q := by
  induction p with
  | nil => exact absurd rfl hp
  | cons c p ih =>
    by_cases hc : c = '_'
    · subst hc
      have hne : p ≠ [] := by
        rintro rfl
        exact hp rfl
      rw [List.cons_append, charWords_low, letters_low, parted_cons hne, ih hp]
    have hrest : letters (p ++ q) ≠ [] := by
      rw [letters_append]
      exact fun h ↦ hq (List.append_eq_nil_iff.1 h).2
    obtain ⟨w, ws, hws, hw⟩ := exists_charWords_eq_cons _ hrest
    rw [List.cons_append, charWords_cons hc, letters_cons hc]
    by_cases hlow : letters p = []
    · have hcut : isCutBefore c (p ++ q) = true ↔ Parted (c :: p) q := by
        cases p with
        | nil =>
          refine isCutBefore_iff hc ?_
          rintro rfl
          exact hq rfl
        | cons d p =>
          have hd : d = '_' := by
            by_contra hd
            exact absurd (letters_cons hd p ▸ hlow) (List.cons_ne_nil _ _)
          rw [parted_cons (List.cons_ne_nil d p), hd]
          exact iff_of_true rfl
            (.inl (getLast?_of_letters_eq_nil (List.cons_ne_nil _ _) (hd ▸ hlow)))
      rw [hlow, ← hcut]
      split
      · rename_i htrue
        exact iff_of_true ⟨[[c]], _, rfl, rfl⟩ htrue
      · rename_i hfalse
        refine iff_of_false (fun h ↦ hw ?_) hfalse
        rw [hws] at h
        have hprefix : c :: w <+: [c] := isPrefix_of_cutBehind (List.cons_ne_nil _ _) h
        simpa using hprefix
    · have hne : p ≠ [] := by
        rintro rfl
        exact hlow rfl
      rw [parted_cons hne, ← ih hlow, hws]
      split
      · exact cutBehind_cons_iff (List.cons_ne_nil c [])
      · exact cutBehind_lengthened c hlow

theorem finestSplit_charWords (cs : List Char) : FinestSplit cs (charWords cs) where
  words w hw := by
    refine ⟨ne_nil_of_mem_charWords hw, fun hlow ↦ low_not_mem_letters cs ?_⟩
    rw [← flatten_charWords]
    exact List.mem_flatten_of_mem hw hlow
  joined := flatten_charWords cs
  parted := by
    rintro p q rfl hp hq
    exact (cutBehind_charWords_iff hp hq).1
  cut := by
    rintro p q rfl hp hq
    exact (cutBehind_charWords_iff hp hq).2

/-! ## The one finest split -/

/-- A name is cut behind all of its letters up to some place, if these are what some words hold. -/
theorem exists_letters_eq {name cs : List Char} (h : cs <+: letters name) :
    ∃ p q, name = p ++ q ∧ letters p = cs := by
  obtain ⟨rest, hrest⟩ := h
  obtain ⟨p, q, rfl, hp, -⟩ := List.filter_eq_append_iff.1 hrest.symm
  exact ⟨p, q, rfl, hp⟩

namespace IsSplit

variable {name : List Char} {ws vs : List (List Char)}

/-- Words with cuts at the right places have no cut that the finest split does not have. -/
theorem cutBehind_of_finest (hws : IsSplit name ws) (hvs : FinestSplit name vs) {cs : List Char}
    (h : CutBehind ws cs) : CutBehind vs cs := by
  have hprefix : cs <+: letters name := hws.joined ▸ h.isPrefix
  obtain ⟨p, q, rfl, rfl⟩ := exists_letters_eq hprefix
  by_cases hp : letters p = []
  · rw [hp]
    exact cutBehind_nil vs
  by_cases hq : letters q = []
  · have hall : letters p = vs.flatten := by
      rw [hvs.joined, letters_append, hq, List.append_nil]
    rw [hall]
    exact cutBehind_flatten vs
  · exact hvs.cut p q rfl hp hq (hws.parted p q rfl hp hq h)

theorem refined (hws : IsSplit name ws) (hvs : FinestSplit name vs) : Refines vs ws :=
  refines_of_cutBehind (fun w hw ↦ (hvs.words w hw).1) (fun w hw ↦ (hws.words w hw).1)
    (hvs.joined.trans hws.joined.symm) fun _ ↦ hws.cutBehind_of_finest hvs

end IsSplit

theorem FinestSplit.eq {name : List Char} {ws vs : List (List Char)} (hws : FinestSplit name ws)
    (hvs : FinestSplit name vs) : ws = vs :=
  eq_of_cutBehind_iff (fun w hw ↦ (hws.words w hw).1) (fun w hw ↦ (hvs.words w hw).1) fun _ ↦
    ⟨hws.toIsSplit.cutBehind_of_finest hvs, hvs.toIsSplit.cutBehind_of_finest hws⟩

/-! ## Words are not cut again -/

/-- A text without a camel-case boundary. -/
def Smooth (cs : List Char) : Prop := ∀ p q, cs = p ++ q → ¬ AtBoundary p q

theorem exists_of_not_isCutBefore {c : Char} {r : List Char} (h : ¬ isCutBefore c r = true) :
    ∃ b s, r = b :: s ∧ b ≠ '_' := by
  cases r with
  | nil => exact absurd rfl h
  | cons b s =>
    refine ⟨b, s, rfl, ?_⟩
    rintro rfl
    exact h rfl

/-- The first word of a name without a low line in front stands at its front. -/
theorem isPrefix_of_charWords {b : Char} {r w : List Char} {ws : List (List Char)} (hb : b ≠ '_')
    (h : charWords (b :: r) = w :: ws) : w <+: b :: r := by
  induction r generalizing b w ws with
  | nil =>
    rw [charWords_cons hb, isCutBefore, if_pos rfl] at h
    exact (List.cons.inj h).1 ▸ List.prefix_rfl
  | cons d r ih =>
    rw [charWords_cons hb] at h
    split at h
    · rw [← (List.cons.inj h).1]
      exact List.prefix_append [b] (d :: r)
    · rename_i hcut
      obtain ⟨d', r', hr, hd⟩ := exists_of_not_isCutBefore hcut
      obtain ⟨rfl, rfl⟩ := List.cons.inj hr
      obtain ⟨v, vs, hvs, -⟩ := exists_charWords_eq_cons (d :: r)
        (letters_cons hd r ▸ List.cons_ne_nil _ _)
      rw [hvs] at h
      rw [← (List.cons.inj h).1, List.cons_prefix_cons]
      exact ⟨rfl, ih hd hvs⟩

/-- No word has a boundary in it. -/
theorem smooth_of_mem_charWords {cs w : List Char} (h : w ∈ charWords cs) : Smooth w := by
  intro p q hw hboundary
  induction cs generalizing w p with
  | nil => exact absurd h List.not_mem_nil
  | cons c r ih =>
    by_cases hc : c = '_'
    · rw [hc, charWords_low] at h
      exact ih h _ hw hboundary
    rw [charWords_cons hc] at h
    obtain ⟨hp, hq⟩ := hboundary.ne_nil
    obtain ⟨a, p, rfl⟩ := List.exists_cons_of_ne_nil hp
    split at h
    · rcases List.mem_cons.1 h with rfl | h
      · exact hq (List.append_eq_nil_iff.1 (List.cons.inj hw).2.symm).2
      · exact ih h _ hw hboundary
    · rename_i hcut
      obtain ⟨b, s, rfl, hb⟩ := exists_of_not_isCutBefore hcut
      obtain ⟨v, vs, hvs, -⟩ := exists_charWords_eq_cons (b :: s)
        (letters_cons hb s ▸ List.cons_ne_nil _ _)
      rw [hvs] at h ih
      rcases List.mem_cons.1 h with rfl | h
      · obtain ⟨rfl, hv⟩ := List.cons.inj hw
        by_cases hne : p = []
        · subst hne
          obtain rfl : v = q := hv
          have hr := hboundary.of_isPrefix (isPrefix_of_charWords hb hvs)
          exact hcut ((isCutBefore_iff hc (List.cons_ne_nil b s)).2 (.inr (.inr hr)))
        · exact ih List.mem_cons_self p hv ((atBoundary_cons hne q).1 hboundary)
      · exact ih (List.mem_cons_of_mem v h) _ hw hboundary

/-- A text without a place to cut is a word. -/
theorem finestSplit_singleton {w : List Char} (hne : w ≠ []) (hlow : '_' ∉ w) (h : Smooth w) :
    FinestSplit w [w] := by
  have hnone : ∀ p q, w = p ++ q → ¬ Parted p q := by
    rintro p q rfl (hp | hq | hboundary)
    · exact hlow (List.mem_append_left _ (List.mem_of_getLast? hp))
    · exact hlow (List.mem_append_right _ (List.mem_of_head? hq))
    · exact h p q rfl hboundary
  refine ⟨⟨fun v hv ↦ ?_, ?_, fun p q hw hp hq hcut ↦ ?_⟩, fun p q hw _ _ hparted ↦ ?_⟩
  · rw [List.mem_singleton.1 hv]
    exact ⟨hne, hlow⟩
  · rw [List.flatten_singleton, letters_of_not_mem hlow]
  · have hprefix : w <+: letters p := isPrefix_of_cutBehind hp hcut
    rw [← letters_of_not_mem hlow, hw, letters_append] at hprefix
    have hlength := hprefix.length_le
    rw [List.length_append] at hlength
    exact absurd (List.eq_nil_of_length_eq_zero (by omega)) hq
  · exact absurd hparted (hnone p q hw)

theorem charWords_of_smooth {w : List Char} (hne : w ≠ []) (hlow : '_' ∉ w) (h : Smooth w) :
    charWords w = [w] :=
  (finestSplit_charWords w).eq (finestSplit_singleton hne hlow h)

/-- **The words of a name are its one finest split**: they have a cut at every low line and every
camel-case boundary, and nowhere else.  Any other split at such places is put together of them, and
a word has no words but itself. -/
theorem splitWords_finest (name : String) :
    (∀ ws, FinestSplit name.toList ws ↔ (splitWords name).map String.toList = ws)
      ∧ (∀ ws, IsSplit name.toList ws → Refines ((splitWords name).map String.toList) ws)
      ∧ ∀ w ∈ splitWords name, splitWords w = [w] := by
  rw [map_toList_splitWords]
  have hfinest := finestSplit_charWords name.toList
  refine ⟨fun ws ↦ ⟨fun h ↦ hfinest.eq h, ?_⟩, fun ws h ↦ h.refined hfinest, fun w hw ↦ ?_⟩
  · rintro rfl
    exact hfinest
  · have hmem : w.toList ∈ charWords name.toList := by
      rw [← map_toList_splitWords]
      exact List.mem_map_of_mem hw
    obtain ⟨hne, hlow⟩ := hfinest.words _ hmem
    rw [splitWords_eq, charWords_of_smooth hne hlow (smooth_of_mem_charWords hmem),
      List.map_singleton, String.ofList_toList]

theorem splitWords_finest_of_acronym :
    splitWords "run_HTTPServer" = ["run", "HTTP", "Server"] ∧ splitWords "HTTP" = ["HTTP"] :=
  ⟨by decide, (splitWords_finest "run_HTTPServer").2.2 "HTTP" (by decide)⟩

end TexWeave
