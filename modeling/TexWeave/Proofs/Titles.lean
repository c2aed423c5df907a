import TexWeave.Proofs.WordCuts

/-!
# Titles made from names

A title has the words of its name, each with a capital in front and a space to the next.  No place
to cut is left in it, so that the title of a title is the title itself.  Case and separators apart
it has the characters of the name.

* `TitleText` — texts without a place to cut and without a small letter in front.
* `folded` — the characters of a text but for case and separators.
* `titleWord`, `toList_deriveTitle` — what becomes of a word, and the title made of these.
* `deriveTitle_of_ascii` — titles of names in ASCII.
-/

set_option autoImplicit false

namespace TexWeave

open Text

/-! ## Case in ASCII -/

/-- What holds of the first 128 characters holds of every ASCII character. -/
theorem of_ascii (P : Char → Prop) (h : ∀ n < 128, P (Char.ofNat n)) {c : Char}
    (hc : c.toNat < 128) : P c :=
  Char.ofNat_toNat c ▸ h c.toNat hc

/-- A character between words. -/
def isSeparator (c : Char) : Bool := c == ' ' || c == '_'

/-- A text without its separators, in lower case. -/
def folded (cs : List Char) : List Char := (cs.filter fun c ↦ !isSeparator c).map Char.toLower

section Ascii

variable {c : Char}

theorem toUpper_ascii (hc : c.toNat < 128) : c.toUpper.toNat < 128 :=
  of_ascii (fun c ↦ c.toUpper.toNat < 128) (by decide) hc

theorem toLower_ascii (hc : c.toNat < 128) : c.toLower.toNat < 128 :=
  of_ascii (fun c ↦ c.toLower.toNat < 128) (by decide) hc

theorem isLowerChar_toUpper (hc : c.toNat < 128) : isLowerChar c.toUpper = false :=
  of_ascii (fun c ↦ isLowerChar c.toUpper = false) (by decide) hc

theorem isAsciiUpper_toLower (hc : c.toNat < 128) : isAsciiUpper c.toLower = false :=
  of_ascii (fun c ↦ isAsciiUpper c.toLower = false) (by decide) hc

theorem toUpper_eq_self (hc : c.toNat < 128) : isLowerChar c = false → c.toUpper = c :=
  of_ascii (fun c ↦ isLowerChar c = false → c.toUpper = c) (by decide) hc

theorem isLowerChar_eq (hc : c.toNat < 128) : isLowerChar c = isAsciiLower c :=
  of_ascii (fun c ↦ isLowerChar c = isAsciiLower c) (by decide) hc

/-- Case keeps separators apart from everything else. -/
theorem eq_separator_iff (hc : c.toNat < 128) : ∀ s ∈ [' ', '_'],
    (c.toUpper = s ↔ c = s) ∧ (c.toLower = s ↔ c = s) := by
  intro s hs
  rcases List.mem_cons.1 hs with rfl | hs
  · exact of_ascii (fun c ↦ (c.toUpper = ' ' ↔ c = ' ') ∧ (c.toLower = ' ' ↔ c = ' '))
      (by decide) hc
  · rw [List.mem_singleton.1 hs]
    exact of_ascii (fun c ↦ (c.toUpper = '_' ↔ c = '_') ∧ (c.toLower = '_' ↔ c = '_'))
      (by decide) hc

theorem folded_toUpper (hc : c.toNat < 128) : folded [c.toUpper] = folded [c] :=
  of_ascii (fun c ↦ folded [c.toUpper] = folded [c]) (by decide) hc

theorem folded_toLower (hc : c.toNat < 128) : folded [c.toLower] = folded [c] :=
  of_ascii (fun c ↦ folded [c.toLower] = folded [c]) (by decide) hc

end Ascii

/-- A text in lower case, as no ASCII letter depends on its place. -/
theorem lower_of_ascii {cs : List Char} (h : ∀ c ∈ cs, c.toNat < 128) :
    lower cs = cs.map Char.toLower := by
  suffices hafter : ∀ before, lowerAfter before cs = cs.map Char.toLower from hafter []
  induction cs with
  | nil => exact fun _ ↦ rfl
  | cons c r ih =>
    obtain ⟨hc, hr⟩ := List.forall_mem_cons.1 h
    intro before
    rw [lowerAfter, if_neg (by omega), lowerChar, if_pos hc, ih hr]
    rfl

theorem capitalized_cons {c : Char} (hc : c.toNat < 128) (r : List Char) :
    capitalized (c :: r) = c.toUpper :: r := by
  rw [capitalized, upperChar, if_pos hc]
  rfl

theorem folded_append (a b : List Char) : folded (a ++ b) = folded a ++ folded b := by
  simp [folded]

theorem folded_letters (cs : List Char) : folded (letters cs) = folded cs := by
  rw [folded, folded, letters, List.filter_filter]
  refine congrArg _ (List.filter_congr fun c _ ↦ ?_)
  by_cases hc : c = '_' <;> simp [isSeparator, hc]

/-! ## Texts without a place to cut -/

theorem smooth_of_no_capital {cs : List Char} (h : ∀ c ∈ cs, isAsciiUpper c = false) :
    Smooth cs := by
  rintro p q rfl ⟨a, b, s, -, rfl, hb, -⟩
  exact absurd (h b (List.mem_append_right p List.mem_cons_self)) (by rw [hb]; decide)

/-- A capital in front makes no boundary behind it: where a capital follows, there was one
before. -/
theorem Smooth.capital {c : Char} (hc : c.toNat < 128) {r : List Char} (h : Smooth (c :: r)) :
    Smooth (c.toUpper :: r) := by
  intro p q hpq hboundary
  obtain ⟨hp, hq⟩ := hboundary.ne_nil
  obtain ⟨d, p, rfl⟩ := List.exists_cons_of_ne_nil hp
  obtain ⟨rfl, rfl⟩ := List.cons.inj hpq
  by_cases hne : p = []
  · subst hne
    refine h [c] q rfl ?_
    by_cases hlower : isLowerChar c = true
    · obtain ⟨a, b, s, -, rfl, hb, -⟩ := hboundary
      exact ⟨c, b, s, rfl, rfl, hb, .inl (isLowerChar_eq hc ▸ hlower)⟩
    · rwa [toUpper_eq_self hc (Bool.eq_false_iff.2 hlower)] at hboundary
  · rw [atBoundary_cons hne, ← atBoundary_cons (c := c) hne] at hboundary
    exact h (c :: p) q rfl hboundary

/-- A space keeps boundaries apart. -/
theorem Smooth.append_space {v t : List Char} (hv : Smooth v) (ht : Smooth t) :
    Smooth (v ++ ' ' :: t) := by
  rintro p q hpq ⟨a, b, s, ha, rfl, hb, hcase⟩
  rcases List.append_eq_append_iff.1 hpq with ⟨p', rfl, ht'⟩ | ⟨q', rfl, hq'⟩
  · cases p' with
    | nil =>
      rw [← (List.cons.inj ht').1] at hb
      exact absurd hb (by decide)
    | cons x p' =>
      obtain ⟨rfl, rfl⟩ := List.cons.inj ht'
      by_cases hne : p' = []
      · rw [hne, List.getLast?_concat] at ha
        obtain rfl := Option.some.inj ha
        revert hcase
        simp [isAsciiLower, isAsciiDigit, isAsciiUpper]
      · rw [List.getLast?_append, getLast?_cons_of_ne_nil hne,
          List.getLast?_eq_getLast_of_ne_nil hne] at ha
        refine ht p' (b :: s) rfl ⟨a, b, s, ?_, rfl, hb, hcase⟩
        rw [List.getLast?_eq_getLast_of_ne_nil hne, ← ha]
        rfl
  · cases q' with
    | nil =>
      rw [(List.cons.inj hq').1] at hb
      exact absurd hb (by decide)
    | cons x q' =>
      obtain ⟨rfl, rfl⟩ := List.cons.inj hq'
      refine hv p (b :: q') rfl
        ⟨a, b, q', ha, rfl, hb, hcase.imp_right (Or.imp_right (And.imp_right ?_))⟩
      rintro ⟨c, hc, hlower⟩
      cases q' with
      | nil =>
        obtain rfl := Option.some.inj hc
        exact absurd hlower (by decide)
      | cons y q' => exact ⟨c, hc, hlower⟩

/-- A text in ASCII without a place to cut and without a small letter in front. -/
structure TitleText (t : List Char) : Prop where
  ascii : ∀ c ∈ t, c.toNat < 128
  low : '_' ∉ t
  smooth : Smooth t
  front : ∃ c r, t = c :: r ∧ isLowerChar c = false

namespace TitleText

theorem append_space {v t : List Char} (hv : TitleText v) (ht : TitleText t) :
    TitleText (v ++ ' ' :: t) where
  ascii := by
    refine List.forall_mem_append.2 ⟨hv.ascii, List.forall_mem_cons.2 ⟨by decide, ht.ascii⟩⟩
  low := by
    simpa using ⟨hv.low, ht.low⟩
  smooth := hv.smooth.append_space ht.smooth
  front := by
    obtain ⟨c, r, rfl, hc⟩ := hv.front
    exact ⟨c, r ++ ' ' :: t, rfl, hc⟩

theorem intercalate {ws : List (List Char)} (hne : ws ≠ []) (h : ∀ w ∈ ws, TitleText w) :
    TitleText ([' '].intercalate ws) := by
  induction ws with
  | nil => exact absurd rfl hne
  | cons w ws ih =>
    obtain ⟨hw, hws⟩ := List.forall_mem_cons.1 h
    cases ws with
    | nil => rwa [List.intercalate_singleton]
    | cons v ws =>
      rw [List.intercalate_cons_cons, List.append_assoc, List.singleton_append]
      exact hw.append_space (ih (List.cons_ne_nil v ws) hws)

/-- A capital in front of a word makes it one. -/
theorem ofWord {w : List Char} (hne : w ≠ []) (hascii : ∀ c ∈ w, c.toNat < 128) (hlow : '_' ∉ w)
    (h : Smooth w) : TitleText (capitalized w) := by
  obtain ⟨c, r, rfl⟩ := List.exists_cons_of_ne_nil hne
  obtain ⟨hc, hr⟩ := List.forall_mem_cons.1 hascii
  rw [capitalized_cons hc]
  refine ⟨List.forall_mem_cons.2 ⟨toUpper_ascii hc, hr⟩, fun hmem ↦ hlow ?_, h.capital hc,
    ⟨_, r, rfl, isLowerChar_toUpper hc⟩⟩
  rcases List.mem_cons.1 hmem with heq | hmem
  · rw [((eq_separator_iff hc '_' (by decide)).1.1 heq.symm)]
    exact List.mem_cons_self
  · exact List.mem_cons_of_mem c hmem

/-- Such a text is the title of itself. -/
theorem deriveTitle_eq {t : String} (h : TitleText t.toList) : deriveTitle t = t := by
  obtain ⟨c, r, ht, hc⟩ := h.front
  have hne : t.toList ≠ [] := ht ▸ List.cons_ne_nil c r
  have hwords : splitWords t = [t] := by
    rw [splitWords_eq, charWords_of_smooth hne h.low h.smooth, List.map_singleton,
      String.ofList_toList]
  have hascii : c.toNat < 128 := h.ascii c (ht ▸ List.mem_cons_self)
  have hplain : isShouted t [t] = false := rfl
  have hcapital : capitalized t.toList = t.toList := by
    rw [ht, capitalized_cons hascii, toUpper_eq_self hascii hc]
  rw [deriveTitle, hwords, hplain]
  show String.ofList (capitalized t.toList) = t
  rw [hcapital, String.ofList_toList]

end TitleText

/-! ## Titles -/

/-- What becomes of a word in the title of a name, which may be in capitals throughout. -/
def titleWord (shouted : Bool) (w : List Char) : List Char :=
  capitalized (if shouted then lower w else w)

section Word

variable {w : List Char} (hascii : ∀ c ∈ w, c.toNat < 128)

include hascii

theorem folded_capitalized : folded (capitalized w) = folded w := by
  cases w with
  | nil => rfl
  | cons c r =>
    have hc : c.toNat < 128 := hascii c List.mem_cons_self
    rw [capitalized_cons hc, ← List.singleton_append, folded_append, folded_toUpper hc,
      ← folded_append, List.singleton_append]

theorem folded_lower : folded (lower w) = folded w := by
  rw [lower_of_ascii hascii]
  induction w with
  | nil => rfl
  | cons c r ih =>
    obtain ⟨hc, hr⟩ := List.forall_mem_cons.1 hascii
    rw [List.map_cons, ← List.singleton_append, folded_append, folded_toLower hc, ih hr,
      ← folded_append, List.singleton_append]

theorem lower_ascii : ∀ c ∈ lower w, c.toNat < 128 := by
  rw [lower_of_ascii hascii]
  exact List.forall_mem_map.2 fun c hc ↦ toLower_ascii (hascii c hc)

/-- Lower case keeps the separators of a text, and makes no new ones. -/
theorem mem_lower_iff {s : Char} (hs : s ∈ [' ', '_']) : s ∈ lower w ↔ s ∈ w := by
  rw [lower_of_ascii hascii, List.mem_map]
  constructor
  · rintro ⟨c, hc, heq⟩
    rwa [← (eq_separator_iff (hascii c hc) s hs).2.1 heq]
  · exact fun h ↦ ⟨s, h, (eq_separator_iff (hascii s h) s hs).2.2 rfl⟩

theorem mem_capitalized_iff {s : Char} (hs : s ∈ [' ', '_']) : s ∈ capitalized w ↔ s ∈ w := by
  cases w with
  | nil => rfl
  | cons c r =>
    have hc : c.toNat < 128 := hascii c List.mem_cons_self
    rw [capitalized_cons hc, List.mem_cons, List.mem_cons, eq_comm,
      (eq_separator_iff hc s hs).1, eq_comm]

theorem folded_titleWord (shouted : Bool) : folded (titleWord shouted w) = folded w := by
  cases shouted with
  | false => exact folded_capitalized hascii
  | true => exact (folded_capitalized (lower_ascii hascii)).trans (folded_lower hascii)

theorem space_not_mem_titleWord (h : ' ' ∉ w) (shouted : Bool) : ' ' ∉ titleWord shouted w := by
  cases shouted with
  | false => rwa [titleWord, if_neg (by decide), mem_capitalized_iff hascii (by decide)]
  | true =>
    rwa [titleWord, if_pos rfl, mem_capitalized_iff (lower_ascii hascii) (by decide),
      mem_lower_iff hascii (by decide)]

theorem titleText_titleWord (hne : w ≠ []) (hlow : '_' ∉ w) (h : Smooth w) (shouted : Bool) :
    TitleText (titleWord shouted w) := by
  cases shouted with
  | false => exact .ofWord hne hascii hlow h
  | true =>
    refine .ofWord ?_ (lower_ascii hascii) ((mem_lower_iff hascii (by decide)).not.2 hlow) ?_
    · rw [lower_of_ascii hascii]
      simpa using hne
    · refine smooth_of_no_capital ?_
      rw [if_pos rfl, lower_of_ascii hascii]
      exact List.forall_mem_map.2 fun c hc ↦ isAsciiUpper_toLower (hascii c hc)

end Word

theorem toList_joinWith (sep : String) (ls : List String) :
    (joinWith sep ls).toList = sep.toList.intercalate (ls.map String.toList) := by
  induction ls with
  | nil => rfl
  | cons l ls ih =>
    cases ls with
    | nil => exact (List.intercalate_singleton).symm
    | cons l' ls =>
      rw [joinWith, String.toList_append, String.toList_append, ih, List.map_cons, List.map_cons,
        List.map_cons, List.intercalate_cons_cons, List.append_assoc]

theorem toList_deriveTitle {name : String} (h : charWords name.toList ≠ []) :
    ∃ shouted, (deriveTitle name).toList
      = [' '].intercalate ((charWords name.toList).map (titleWord shouted)) := by
  have hwords : (splitWords name).isEmpty = false := by
    rw [splitWords_eq, List.isEmpty_map]
    exact List.isEmpty_eq_false_iff.2 h
  refine ⟨isShouted name (splitWords name), ?_⟩
  rw [deriveTitle, if_neg (by rw [hwords]; decide), toList_joinWith, List.map_map,
    ← map_toList_splitWords]
  refine congrArg _ ?_
  cases isShouted name (splitWords name) <;> simp [titleWord, Function.comp_def]

theorem splitAt_intercalate {ws : List (List Char)} (hne : ws ≠ []) (h : ∀ w ∈ ws, ' ' ∉ w) :
    splitAt ' ' ([' '].intercalate ws) = ws := by
  induction ws with
  | nil => exact absurd rfl hne
  | cons w ws ih =>
    obtain ⟨hw, hws⟩ := List.forall_mem_cons.1 h
    cases ws with
    | nil => rw [List.intercalate_singleton, splitAt_of_not_mem hw]
    | cons v ws =>
      rw [List.intercalate_cons_cons, List.append_assoc, List.singleton_append, splitAt_append,
        splitAt_of_not_mem hw, ih (List.cons_ne_nil v ws) hws]
      rfl

theorem folded_intercalate (ws : List (List Char)) :
    folded ([' '].intercalate ws) = ws.flatMap folded := by
  induction ws with
  | nil => rfl
  | cons w ws ih =>
    cases ws with
    | nil => simp
    | cons v ws =>
      rw [List.intercalate_cons_cons, folded_append, folded_append, ih, List.flatMap_cons,
        List.flatMap_cons]
      simp [folded, isSeparator]

theorem folded_flatten (ws : List (List Char)) : folded ws.flatten = ws.flatMap folded := by
  simp only [folded, List.filter_flatten, List.map_flatten, List.map_map, List.flatMap_def]
  rfl

/-- **The title of a name in ASCII.**  It is the title of itself, has the characters of the name but
for case and separators, and as many words as the name, none with a small letter in front. -/
theorem deriveTitle_of_ascii (name : String) (hascii : ∀ c ∈ name.toList, c.toNat < 128) :
    deriveTitle (deriveTitle name) = deriveTitle name
      ∧ folded (deriveTitle name).toList = folded name.toList
      ∧ ((∃ c ∈ name.toList, c ≠ '_') → ' ' ∉ name.toList →
        (splitAt ' ' (deriveTitle name).toList).length = (splitWords name).length
          ∧ ∀ w ∈ splitAt ' ' (deriveTitle name).toList,
            ∃ c r, w = c :: r ∧ isLowerChar c = false) := by
  have hfinest := finestSplit_charWords name.toList
  have hletters : ∀ w ∈ charWords name.toList, ∀ c ∈ w, c ∈ name.toList := by
    intro w hw c hc
    have hmem : c ∈ letters name.toList := hfinest.joined ▸ List.mem_flatten_of_mem hw hc
    exact List.mem_of_mem_filter hmem
  by_cases hnone : charWords name.toList = []
  · have hself : deriveTitle name = name := by
      rw [deriveTitle, if_pos (by rw [splitWords_eq, hnone]; rfl)]
    rw [hself, hself]
    refine ⟨rfl, rfl, ?_⟩
    rintro ⟨c, hc, hne⟩
    have hmem : c ∈ letters name.toList := List.mem_filter.2 ⟨hc, bne_iff_ne.2 hne⟩
    rw [← hfinest.joined, hnone] at hmem
    exact absurd hmem List.not_mem_nil
  obtain ⟨shouted, htitle⟩ := toList_deriveTitle hnone
  have htext : ∀ v ∈ (charWords name.toList).map (titleWord shouted), TitleText v := by
    refine List.forall_mem_map.2 fun w hw ↦ ?_
    obtain ⟨hne, hlow⟩ := hfinest.words w hw
    exact titleText_titleWord (fun c hc ↦ hascii c (hletters w hw c hc)) hne hlow
      (smooth_of_mem_charWords hw) shouted
  have hmap : (charWords name.toList).map (titleWord shouted) ≠ [] := by simpa using hnone
  refine ⟨?_, ?_, fun _ hspace ↦ ?_⟩
  · exact TitleText.deriveTitle_eq (htitle ▸ TitleText.intercalate hmap htext)
  · rw [htitle, folded_intercalate, List.flatMap_map, ← folded_letters, ← hfinest.joined,
      folded_flatten]
    exact List.flatMap_congr fun w hw ↦
      folded_titleWord (fun c hc ↦ hascii c (hletters w hw c hc)) shouted
  · have hspaces : ∀ v ∈ (charWords name.toList).map (titleWord shouted), ' ' ∉ v :=
      List.forall_mem_map.2 fun w hw ↦ space_not_mem_titleWord
        (fun c hc ↦ hascii c (hletters w hw c hc)) (fun h ↦ hspace (hletters w hw _ h)) shouted
    rw [htitle, splitAt_intercalate hmap hspaces]
    exact ⟨by rw [List.length_map, splitWords_eq, List.length_map],
      fun v hv ↦ (htext v hv).front⟩

theorem deriveTitle_of_ascii_shouted :
    deriveTitle "HINGE_LOSS2D" = "Hinge Loss2 D" ∧ deriveTitle "Hinge Loss2 D" = "Hinge Loss2 D"
      ∧ (splitAt ' ' (deriveTitle "HINGE_LOSS2D").toList).length
        = (splitWords "HINGE_LOSS2D").length := by
  have hname : deriveTitle "HINGE_LOSS2D" = "Hinge Loss2 D" := by decide +kernel
  have hall : ("HINGE_LOSS2D".toList.all fun c ↦ decide (c.toNat < 128)) = true := by decide
  obtain ⟨hself, -, hwords⟩ := deriveTitle_of_ascii "HINGE_LOSS2D"
    fun c hc ↦ of_decide_eq_true (List.all_eq_true.1 hall c hc)
  exact ⟨hname, hname ▸ hself, (hwords ⟨'H', by decide, by decide⟩ (by decide)).1⟩

end TexWeave
