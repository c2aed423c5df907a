import Mathlib.Algebra.Group.Nat.Defs
import Mathlib.Data.List.Induction
import TexWeave.Proofs.LogErrors

/-!
# Line numbers of errors

Behind an error, the first line that opens with `l.` and digits gives the line number, and no more
than `lineWindow` characters are looked at.  Where the next error stands does not matter for that,
and the window may end in the middle of a number.  This file says what the window shows in terms of
whole lines.

* `shownLines` — the lines in a window, the last one cut where the window ends.
* `firstNumber?` — the first number they give, with `firstNumber?_append` for lines in two parts and
  `firstNumber?_eq_some_iff` for the line it is read from.
* `LogReport.errors_ofText_own` — when an error has a line number from behind the next mark.
* `LogReport.errors_ofText_digits` — which digits are read, and when they are all there are.
-/

set_option autoImplicit false

namespace TexWeave

open Text

/-! ## The number a line gives -/

/-- The digits behind `l.` at the start of a line. -/
def numberDigits (l : List Char) : List Char :=
  ((after? "l." l).getD []).takeWhile fun c ↦ (digitValue? c).isSome

/-- The line number a line gives, if it opens with `l.` and digits. -/
def givenNumber? (l : List Char) : Option Int :=
  if (numberDigits l).isEmpty then none else some (digitsValue (numberDigits l))

section

variable {l rest : List Char} {k n : Nat}

theorem givenNumber?_eq_none_iff : givenNumber? l = none ↔ numberDigits l = [] := by
  rw [givenNumber?, ← List.isEmpty_iff]
  split
  · rename_i h
    exact ⟨fun _ ↦ h, fun _ ↦ rfl⟩
  · rename_i h
    exact ⟨fun hsome ↦ absurd hsome (Option.some_ne_none _), fun hnil ↦ absurd hnil h⟩

theorem givenNumber?_eq_some_iff {n : Int} :
    givenNumber? l = some n ↔ numberDigits l ≠ [] ∧ n = digitsValue (numberDigits l) := by
  rw [givenNumber?]
  split
  · rename_i h
    exact ⟨fun hnone ↦ (Option.some_ne_none n hnone.symm).elim,
      fun hn ↦ absurd (List.isEmpty_iff.1 h) hn.1⟩
  · rename_i h
    rw [List.isEmpty_iff] at h
    rw [Option.some_inj]
    exact ⟨fun hn ↦ ⟨h, hn.symm⟩, fun hn ↦ hn.2.symm⟩

theorem isSome_of_mem_numberDigits {c : Char} (h : c ∈ numberDigits l) :
    (digitValue? c).isSome = true := by
  have hc := List.mem_takeWhile_imp h
  exact hc

/-- The digits stand behind two other characters. -/
theorem length_numberDigits_le : (numberDigits l).length ≤ l.length - 2 := by
  rw [numberDigits]
  cases h : after? "l." l with
  | none => exact Nat.zero_le _
  | some r =>
    have hl : l.length = r.length + 2 := by
      rw [after?_eq_some_iff.1 h, List.length_append, Nat.add_comm]
      rfl
    rw [hl, Option.getD_some]
    exact (List.takeWhile_prefix _).length_le

/-- A line that is cut keeps its digits up to the cut. -/
theorem numberDigits_take : numberDigits (l.take k) = (numberDigits l).take (k - 2) := by
  rw [numberDigits, numberDigits]
  cases h : after? "l." l with
  | none =>
    have hcut : after? "l." (l.take k) = none := by
      rw [after?_eq_none_iff] at h ⊢
      exact fun hcut ↦ h (hcut.trans (List.take_prefix k l))
    rw [hcut, Option.getD_none, List.takeWhile_nil, List.take_nil]
  | some r =>
    rw [after?_eq_some_iff] at h
    rw [h, Option.getD_some, List.take_takeWhile]
    rcases Nat.lt_or_ge k 2 with hk | hk
    · have hcut : after? "l." (("l.".toList ++ r).take k) = none := by
        rw [after?_eq_none_iff]
        intro hcut
        have hlength : 2 ≤ (("l.".toList ++ r).take k).length := hcut.length_le
        rw [List.length_take] at hlength
        omega
      rw [hcut, Nat.sub_eq_zero_of_le hk.le]
      rfl
    · have hcut : after? "l." (("l.".toList ++ r).take k) = some (r.take (k - 2)) := by
        rw [after?_eq_some_iff, List.take_append, List.take_of_length_le hk]
        rfl
      rw [hcut, Option.getD_some]

end

/-! ### The value of digits -/

theorem digitsValue_concat (a : List Char) {c : Char} {d : Nat} (hd : digitValue? c = some d) :
    digitsValue (a ++ [c]) = digitsValue a * 10 + d := by
  rw [digitsValue, List.foldl_append, List.foldl_cons, List.foldl_nil, hd]
  rfl

/-- Digits behind others move these to higher places. -/
theorem digitsValue_append (a : List Char) {b : List Char}
    (hb : ∀ c ∈ b, (digitValue? c).isSome = true) :
    digitsValue (a ++ b) = digitsValue a * 10 ^ b.length + digitsValue b := by
  induction b using List.reverseRecOn with
  | nil =>
    rw [List.append_nil, List.length_nil, Nat.pow_zero, Nat.mul_one]
    rfl
  | append_singleton b c ih =>
    obtain ⟨d, hd⟩ := Option.isSome_iff_exists.1 (hb c (List.mem_append_right b (.head [])))
    rw [← List.append_assoc, digitsValue_concat _ hd, digitsValue_concat _ hd,
      ih fun x hx ↦ hb x (List.mem_append_left [c] hx), List.length_append, List.length_singleton,
      Nat.pow_succ, ← Nat.mul_assoc, Nat.add_mul, Nat.add_assoc]

/-- Digits spell zero only if all of them do. -/
theorem digitsValue_eq_zero_iff {ds : List Char}
    (hds : ∀ c ∈ ds, (digitValue? c).isSome = true) :
    digitsValue ds = 0 ↔ ∀ c ∈ ds, digitValue? c = some 0 := by
  induction ds using List.reverseRecOn with
  | nil => exact ⟨fun _ c hc ↦ absurd hc List.not_mem_nil, fun _ ↦ rfl⟩
  | append_singleton ds c ih =>
    obtain ⟨d, hd⟩ := Option.isSome_iff_exists.1 (hds c (List.mem_append_right ds (.head [])))
    have hrest := ih fun x hx ↦ hds x (List.mem_append_left [c] hx)
    rw [digitsValue_concat ds hd, Nat.add_eq_zero_iff, Nat.mul_eq_zero,
      or_iff_left (by decide : (10 : Nat) ≠ 0), hrest, List.forall_mem_append,
      List.forall_mem_singleton, hd, Option.some_inj]

/-- Digits lose their value with the last of them, except zeros. -/
theorem digitsValue_take_eq_iff {ds : List Char} (k : Nat)
    (hds : ∀ c ∈ ds, (digitValue? c).isSome = true) :
    digitsValue (ds.take k) = digitsValue ds
      ↔ ds.length ≤ k ∨ ∀ c ∈ ds, digitValue? c = some 0 := by
  rcases Nat.lt_or_ge k ds.length with hk | hk
  · have hdropped : ∀ c ∈ ds.drop k, (digitValue? c).isSome = true :=
      fun c hc ↦ hds c (List.mem_of_mem_drop hc)
    have happend := digitsValue_append (ds.take k) hdropped
    have hpow : 10 ≤ 10 ^ (ds.drop k).length := by
      refine Nat.le_self_pow ?_ 10
      rw [List.length_drop]
      omega
    have hmul := Nat.mul_le_mul_left (digitsValue (ds.take k)) hpow
    rw [List.take_append_drop] at happend
    rw [or_iff_right (Nat.not_le.2 hk), ← digitsValue_eq_zero_iff hds]
    constructor
    · intro h
      omega
    · intro h
      omega
  · rw [List.take_of_length_le hk]
    exact ⟨fun _ ↦ .inl hk, fun _ ↦ rfl⟩

/-! ## The numbers in lines -/

theorem opensLine_lineNumberPattern : OpensLine lineNumberPattern := by
  intro b cs hb
  rw [lineNumberPattern, hb]
  rfl

/-- At the start of a line the pattern finds what the line gives, whatever follows the line. -/
theorem lineNumberPattern_line {b : Option Char} (hb : atLineStart b = true) (l : List Char)
    {rest : List Char} (hrest : ∀ c ∈ rest.head?, c = '\n') :
    lineNumberPattern b (l ++ rest)
      = (givenNumber? l).map fun n ↦ (n, 2 + (numberDigits l).length) := by
  have hdigits (r : List Char) : (r ++ rest).takeWhile (fun c ↦ (digitValue? c).isSome)
      = r.takeWhile fun c ↦ (digitValue? c).isSome := by
    cases rest with
    | nil => rw [List.append_nil]
    | cons c rest =>
      rw [List.takeWhile_append, List.takeWhile_cons_of_neg (by rw [hrest c rfl]; decide),
        List.append_nil]
      split
      · rename_i h
        exact ((List.takeWhile_prefix _).eq_of_length h).symm
      · rfl
  rw [lineNumberPattern, if_pos hb, after?_append (by decide) hrest]
  cases h : after? "l." l with
  | none =>
    have hnone : givenNumber? l = none := by
      rw [givenNumber?_eq_none_iff, numberDigits, h]
      rfl
    rw [hnone]
    rfl
  | some r =>
    have hl : numberDigits l = r.takeWhile fun c ↦ (digitValue? c).isSome := by
      rw [numberDigits, h, Option.getD_some]
    rw [Option.map_some, Option.bind_some, hdigits, ← hl, givenNumber?]
    dsimp only
    split <;> rfl

/-- The walk through lines finds the numbers they give. -/
theorem findAll_lineNumberPattern (ls : List (List Char)) (hlines : ∀ l ∈ ls, '\n' ∉ l)
    (b : Option Char) :
    findAll lineNumberPattern b 0 (ls.flatMap ('\n' :: ·)) = ls.filterMap givenNumber? := by
  induction ls generalizing b with
  | nil => rfl
  | cons l ls ih =>
    have hl : '\n' ∉ l := hlines l List.mem_cons_self
    have hbehind := ih fun m hm ↦ hlines m (List.mem_cons_of_mem l hm)
    have hfeed : lineNumberPattern b ('\n' :: (l ++ ls.flatMap ('\n' :: ·))) = none := by
      rw [lineNumberPattern]
      split <;> rfl
    have hline := lineNumberPattern_line (b := some '\n') rfl l (head?_flatMap_newline ls)
    rw [List.flatMap_cons, List.cons_append, findAll, hfeed]
    dsimp only
    cases l with
    | nil => exact hbehind (some '\n')
    | cons c r =>
      have hr : '\n' ∉ r := List.not_mem_of_not_mem_cons hl
      have hc : atLineStart (some c) = false := beq_false_of_ne (List.ne_of_not_mem_cons hl).symm
      rw [List.cons_append] at hline ⊢
      rw [findAll, hline]
      cases hn : givenNumber? (c :: r) with
      | none =>
        obtain ⟨b', h⟩ := opensLine_lineNumberPattern.exists_findAll_append
          (ls.flatMap ('\n' :: ·)) hc hr (Nat.zero_le _)
        rw [List.filterMap_cons_none hn, ← hbehind b', ← h]
        rfl
      | some n =>
        have hused : 2 + (numberDigits (c :: r)).length - 1 ≤ r.length := by
          have hdigits : numberDigits (c :: r) ≠ [] := (givenNumber?_eq_some_iff.1 hn).1
          have hpos := List.length_pos_of_ne_nil hdigits
          have hlength : (numberDigits (c :: r)).length ≤ (c :: r).length - 2 :=
            length_numberDigits_le
          rw [List.length_cons] at hlength
          omega
        obtain ⟨b', h⟩ := opensLine_lineNumberPattern.exists_findAll_append
          (ls.flatMap ('\n' :: ·)) hc hr hused
        rw [List.filterMap_cons_some hn, ← hbehind b', ← h]
        rfl

/-! ## Lines in a window -/

/-- How many characters lines take up, with a line feed before each. -/
def extent (ls : List (List Char)) : Nat := (ls.flatMap ('\n' :: ·)).length

/-- What the first `room` characters show of lines with a line feed before each. -/
def shownLines : Nat → List (List Char) → List (List Char)
  | 0, _ => []
  | _ + 1, [] => []
  | room + 1, l :: ls => l.take room :: shownLines (room - l.length) ls

/-- The first number that the first `room` characters of lines give. -/
def firstNumber? (room : Nat) (ls : List (List Char)) : Option Int :=
  (shownLines room ls).findSome? givenNumber?

section

variable {l : List Char} {ls before after : List (List Char)} {room : Nat} {n : Int}

theorem extent_cons (l : List Char) (ls : List (List Char)) :
    extent (l :: ls) = l.length + 1 + extent ls := by
  rw [extent, List.flatMap_cons, List.length_append, List.length_cons, extent]

theorem take_flatMap_newline (room : Nat) (ls : List (List Char)) :
    (ls.flatMap ('\n' :: ·)).take room = (shownLines room ls).flatMap ('\n' :: ·) := by
  induction ls generalizing room with
  | nil => cases room <;> rfl
  | cons l ls ih =>
    cases room with
    | zero => rfl
    | succ room =>
      rw [List.flatMap_cons, List.cons_append, List.take_succ_cons, List.take_append, ih,
        shownLines, List.flatMap_cons, List.cons_append]

theorem exists_of_mem_shownLines (h : l ∈ shownLines room ls) : ∃ m ∈ ls, l <+: m := by
  induction ls generalizing room with
  | nil => cases room <;> exact absurd h List.not_mem_nil
  | cons m ls ih =>
    cases room with
    | zero => exact absurd h List.not_mem_nil
    | succ room =>
      rcases List.mem_cons.1 h with rfl | h
      · exact ⟨m, List.mem_cons_self, List.take_prefix room m⟩
      · obtain ⟨m', hm', hl⟩ := ih h
        exact ⟨m', List.mem_cons_of_mem m hm', hl⟩

theorem lineNumber?_flatMap (hlines : ∀ l ∈ ls, '\n' ∉ l) :
    lineNumber? (ls.flatMap ('\n' :: ·)) = firstNumber? lineWindow ls := by
  have hshown : ∀ l ∈ shownLines lineWindow ls, '\n' ∉ l := by
    intro l hl hfeed
    obtain ⟨m, hm, hstart⟩ := exists_of_mem_shownLines hl
    exact hlines m hm (hstart.subset hfeed)
  rw [lineNumber?, take_flatMap_newline, findAll_lineNumberPattern _ hshown, List.head?_filterMap,
    firstNumber?]

theorem firstNumber?_zero (ls : List (List Char)) : firstNumber? 0 ls = none := by
  rw [firstNumber?, shownLines]
  rfl

theorem firstNumber?_nil (room : Nat) : firstNumber? room [] = none := by
  cases room <;> rfl

theorem firstNumber?_cons (room : Nat) (l : List Char) (ls : List (List Char)) :
    firstNumber? room (l :: ls)
      = (givenNumber? (l.take (room - 1))).or (firstNumber? (room - (l.length + 1)) ls) := by
  cases room with
  | zero =>
    rw [Nat.zero_sub, Nat.zero_sub, List.take_zero, firstNumber?_zero, firstNumber?_zero]
    rfl
  | succ room =>
    rw [firstNumber?, shownLines, List.findSome?_cons, Nat.add_sub_cancel, Nat.add_sub_add_right,
      ← firstNumber?]
    cases givenNumber? (l.take room) <;> rfl

/-- Behind some lines, there is so much less room. -/
theorem firstNumber?_append (room : Nat) (a b : List (List Char)) :
    firstNumber? room (a ++ b)
      = (firstNumber? room a).or (firstNumber? (room - extent a) b) := by
  induction a generalizing room with
  | nil => rw [firstNumber?_nil, List.nil_append, Option.none_or]; rfl
  | cons l a ih =>
    rw [List.cons_append, firstNumber?_cons, ih, firstNumber?_cons, extent_cons, Option.or_assoc,
      Nat.sub_sub]

/-- The number `n` is read from the line `l` of `ls`: no line before it gives a number, and `n` is
the value of those of its digits that stand within `room` characters. -/
structure ReadsNumber (room : Nat) (ls before : List (List Char)) (l : List Char)
    (after : List (List Char)) (n : Int) : Prop where
  lines_eq : ls = before ++ l :: after
  first : ∀ m ∈ before, givenNumber? m = none
  digits_ne_nil : (numberDigits l).take (room - (extent before + 3)) ≠ []
  value : n = digitsValue ((numberDigits l).take (room - (extent before + 3)))

/-- A line that gives no number gives none where it is cut. -/
theorem givenNumber?_take_of_none (h : givenNumber? l = none) (k : Nat) :
    givenNumber? (l.take k) = none := by
  rw [givenNumber?_eq_none_iff] at h ⊢
  rw [numberDigits_take, h, List.take_nil]

theorem firstNumber?_eq_some_iff :
    firstNumber? room ls = some n ↔ ∃ before l after, ReadsNumber room ls before l after n := by
  induction ls generalizing room with
  | nil =>
    rw [firstNumber?_nil]
    refine ⟨fun h ↦ (Option.some_ne_none n h.symm).elim, ?_⟩
    rintro ⟨before, l, after, h⟩
    exact absurd h.lines_eq.symm (List.append_ne_nil_of_right_ne_nil _ (List.cons_ne_nil _ _))
  | cons m ls ih =>
    rw [firstNumber?_cons, Option.or_eq_some_iff, givenNumber?_eq_some_iff, numberDigits_take,
      ih, Nat.sub_sub]
    constructor
    · rintro (⟨hdigits, hn⟩ | ⟨hm, before, l, after, h⟩)
      · exact ⟨[], m, ls, rfl, fun x hx ↦ absurd hx List.not_mem_nil, hdigits, hn⟩
      · -- the line is not cut, since the window goes on behind it
        have hroom : m.length ≤ room - 1 := by
          have hleft := List.length_pos_of_ne_nil h.digits_ne_nil
          rw [List.length_take] at hleft
          omega
        rw [List.take_of_length_le hroom] at hm
        have hextent : room - (extent (m :: before) + 3)
            = room - (m.length + 1) - (extent before + 3) := by
          rw [extent_cons]
          omega
        refine ⟨m :: before, l, after, by rw [h.lines_eq, List.cons_append], ?_, ?_, ?_⟩
        · exact List.forall_mem_cons.2 ⟨hm, h.first⟩
        · rw [hextent]
          exact h.digits_ne_nil
        · rw [hextent]
          exact h.value
    · rintro ⟨before, l, after, h⟩
      cases before with
      | nil =>
        obtain ⟨rfl, rfl⟩ := List.cons.inj h.lines_eq
        exact .inl ⟨h.digits_ne_nil, h.value⟩
      | cons x before =>
        obtain ⟨rfl, hls⟩ := List.cons.inj h.lines_eq
        have hextent : room - (extent (m :: before) + 3)
            = room - (m.length + 1) - (extent before + 3) := by
          rw [extent_cons]
          omega
        refine .inr ⟨givenNumber?_take_of_none (h.first m List.mem_cons_self) _, before, l, after,
          hls, fun y hy ↦ h.first y (List.mem_cons_of_mem m hy), ?_, ?_⟩
        · rw [← hextent]
          exact h.digits_ne_nil
        · rw [← hextent]
          exact h.value

/-- A number is read from a line that gives one. -/
theorem ReadsNumber.givenNumber?_ne_none (h : ReadsNumber room ls before l after n) :
    givenNumber? l ≠ none := by
  intro hnone
  have hdigits := h.digits_ne_nil
  rw [givenNumber?_eq_none_iff.1 hnone, List.take_nil] at hdigits
  exact hdigits rfl

/-- It is the number of the line if the window holds all the digits, or if they are zeros. -/
theorem ReadsNumber.givenNumber?_eq_iff (h : ReadsNumber room ls before l after n) :
    givenNumber? l = some n
      ↔ (numberDigits l).length ≤ room - (extent before + 3)
        ∨ ∀ c ∈ numberDigits l, digitValue? c = some 0 := by
  have hdigits : numberDigits l ≠ [] := fun hnil ↦
    h.givenNumber?_ne_none (givenNumber?_eq_none_iff.2 hnil)
  rw [givenNumber?_eq_some_iff, and_iff_right hdigits, h.value, Int.natCast_inj,
    digitsValue_take_eq_iff _ fun c ↦ isSome_of_mem_numberDigits]

/-- The number is that of some line exactly if it was not cut, or if cutting it made no
difference: its digits are zeros, or a line behind the one it is read from gives what was left. -/
theorem ReadsNumber.exists_given_iff (h : ReadsNumber room ls before l after n) :
    (∃ m ∈ ls, givenNumber? m = some n)
      ↔ (numberDigits l).length ≤ room - (extent before + 3)
        ∨ (∀ c ∈ numberDigits l, digitValue? c = some 0)
        ∨ ∃ m ∈ after, givenNumber? m = some n := by
  rw [← or_assoc, ← h.givenNumber?_eq_iff, h.lines_eq]
  constructor
  · rintro ⟨m, hm, hn⟩
    rcases List.mem_append.1 hm with hm | hm
    · exact absurd (hn.symm.trans (h.first m hm)) (Option.some_ne_none n)
    · rcases List.mem_cons.1 hm with rfl | hm
      · exact .inl hn
      · exact .inr ⟨m, hm, hn⟩
  · rintro (hn | ⟨m, hm, hn⟩)
    · exact ⟨l, List.mem_append_right before List.mem_cons_self, hn⟩
    · exact ⟨m, List.mem_append_right before (List.mem_cons_of_mem l hm), hn⟩

/-- Lines that give no number have none for any window to show. -/
theorem firstNumber?_eq_none (h : ∀ m ∈ ls, givenNumber? m = none) (room : Nat) :
    firstNumber? room ls = none := by
  rw [Option.eq_none_iff_forall_ne_some]
  intro n hn
  obtain ⟨before, l, after, hread⟩ := firstNumber?_eq_some_iff.1 hn
  refine hread.givenNumber?_ne_none (h l ?_)
  rw [hread.lines_eq]
  exact List.mem_append_right before List.mem_cons_self

/-- If the first of two parts has a line with a number, none is read from the second. -/
theorem ReadsNumber.of_append {a b : List (List Char)}
    (h : ReadsNumber room (a ++ b) before l after n) (ha : ∃ m ∈ a, givenNumber? m ≠ none) :
    ∃ after', ReadsNumber room a before l after' n := by
  obtain ⟨m, hm, hgiven⟩ := ha
  rcases List.append_eq_append_iff.1 h.lines_eq with ⟨more, rfl, -⟩ | ⟨more, rfl, hmore⟩
  · exact absurd (h.first m (List.mem_append_left more hm)) hgiven
  · cases more with
    | nil =>
      rw [List.append_nil] at hm
      exact absurd (h.first m hm) hgiven
    | cons x more =>
      obtain ⟨rfl, -⟩ := List.cons.inj hmore
      exact ⟨more, rfl, h.first, h.digits_ne_nil, h.value⟩

/-- Lines that the window holds as a whole are not cut. -/
theorem ReadsNumber.givenNumber?_of_extent (h : ReadsNumber room ls before l after n)
    (hroom : extent ls ≤ room) : givenNumber? l = some n := by
  have hextent : extent ls = extent before + (l.length + 1 + extent after) := by
    rw [h.lines_eq, extent, List.flatMap_append, List.length_append, ← extent, ← extent,
      extent_cons]
  have hdigits : (numberDigits l).length ≤ l.length - 2 := length_numberDigits_le
  exact h.givenNumber?_eq_iff.2 (.inl (by omega))

end

/-! ## The line numbers of the errors in a log -/

namespace ErrorPlace

/-- The line number of an error. -/
def line? (p : ErrorPlace) : Option Int := p.message.line

/-- The lines behind an error up to the next mark. -/
def own (p : ErrorPlace) : List (List Char) :=
  p.behind.takeWhile fun l ↦ (behindMark? l).isNone

/-- The lines from the next mark on. -/
def later (p : ErrorPlace) : List (List Char) :=
  p.behind.dropWhile fun l ↦ (behindMark? l).isNone

theorem own_append_later (p : ErrorPlace) : p.own ++ p.later = p.behind :=
  List.takeWhile_append_dropWhile

end ErrorPlace

theorem behind_suffix_of_mem_errorPlaces {p : ErrorPlace} {waiting : Bool}
    {ls : List (List Char)} (h : p ∈ errorPlaces waiting ls) : p.behind <:+ ls := by
  induction ls generalizing waiting with
  | nil =>
    rw [errorPlaces] at h
    split at h
    · obtain rfl := List.mem_singleton.1 h
      exact List.suffix_rfl
    · exact absurd h List.not_mem_nil
  | cons l ls ih =>
    have hcons : ls <:+ l :: ls := List.suffix_cons l ls
    rw [errorPlaces] at h
    split at h
    · exact (ih h).trans hcons
    · split at h
      · exact (ih h).trans hcons
      · rcases List.mem_cons.1 h with rfl | h
        · exact hcons
        · exact (ih h).trans hcons

/-- The line number of an error is what the window behind it gives. -/
theorem line?_of_mem_errorPlaces {log : String} {p : ErrorPlace}
    (h : p ∈ errorPlaces false (logLines log)) : p.line? = firstNumber? lineWindow p.behind := by
  have hlines : ∀ l ∈ p.behind, '\n' ∉ l := fun l hl ↦
    not_mem_of_mem_splitAt ((behind_suffix_of_mem_errorPlaces h).subset hl)
  exact lineNumber?_flatMap hlines

/-- **Whose line number it is.**  An error has the number that the lines before the next mark show
in the window, unless none of them gives a number and what is left of the window shows one behind
that mark: then it has the number of a later error. -/
theorem LogReport.errors_ofText_own (log : String) :
    (LogReport.ofText log).errors = (errorPlaces false (logLines log)).map ErrorPlace.message
      ∧ ∀ p ∈ errorPlaces false (logLines log),
        (p.line? = firstNumber? lineWindow p.own
          ↔ ((∀ l ∈ p.own, givenNumber? l = none) →
            firstNumber? (lineWindow - extent p.own) p.later = none))
        ∧ ∀ n, firstNumber? lineWindow p.own = some n →
          ∃ before l after, ReadsNumber lineWindow p.own before l after n
            ∧ (extent p.own ≤ lineWindow → givenNumber? l = some n) := by
  refine ⟨errors_ofText_places log, fun p hp ↦ ⟨?_, fun n hn ↦ ?_⟩⟩
  · have hparts : p.line? = (firstNumber? lineWindow p.own).or
        (firstNumber? (lineWindow - extent p.own) p.later) := by
      rw [← firstNumber?_append, p.own_append_later, line?_of_mem_errorPlaces hp]
    by_cases hown : ∀ l ∈ p.own, givenNumber? l = none
    · rw [hparts, firstNumber?_eq_none hown, Option.none_or]
      exact ⟨fun h _ ↦ h, fun h ↦ h hown⟩
    · have hgiven : ∃ l ∈ p.own, givenNumber? l ≠ none := by
        simpa using hown
      refine ⟨fun _ h ↦ absurd h hown, fun _ ↦ ?_⟩
      -- whatever is read behind the error is read from its own lines
      have hread (n : Int) (hn : p.line? = some n) : firstNumber? lineWindow p.own = some n := by
        rw [line?_of_mem_errorPlaces hp, ← p.own_append_later, firstNumber?_eq_some_iff] at hn
        obtain ⟨before, l, after, h⟩ := hn
        obtain ⟨after', h'⟩ := h.of_append hgiven
        exact firstNumber?_eq_some_iff.2 ⟨before, l, after', h'⟩
      refine Option.ext fun n ↦ ⟨hread n, fun hn ↦ ?_⟩
      rw [hparts, hn, Option.some_or]
  · obtain ⟨before, l, after, h⟩ := firstNumber?_eq_some_iff.1 hn
    exact ⟨before, l, after, h, h.givenNumber?_of_extent⟩

/-- An error without a line number gets that of the next one. -/
theorem LogReport.errors_ofText_next :
    (LogReport.ofText "! Missing number.\n! Undefined control sequence.\nl.42 \\foo\n").errors
      = [⟨some 42, "Missing number.", .error⟩,
        ⟨some 42, "Undefined control sequence.", .error⟩] := by
  decide

/-- **Which digits are read.**  The line number of an error is read from the first line behind it
that gives a number, as far as the window goes.  So it is the number of some line behind the error
exactly if the window holds all digits of that line, or they are zeros, or a further line gives just
what was left of the number. -/
theorem LogReport.errors_ofText_digits (log : String) :
    (LogReport.ofText log).errors = (errorPlaces false (logLines log)).map ErrorPlace.message
      ∧ ∀ p ∈ errorPlaces false (logLines log), ∀ n,
        (p.line? = some n ↔ ∃ before l after, ReadsNumber lineWindow p.behind before l after n)
        ∧ ∀ before l after, ReadsNumber lineWindow p.behind before l after n →
          ((∃ m ∈ p.behind, givenNumber? m = some n)
            ↔ (numberDigits l).length ≤ lineWindow - (extent before + 3)
              ∨ (∀ c ∈ numberDigits l, digitValue? c = some 0)
              ∨ ∃ m ∈ after, givenNumber? m = some n) := by
  refine ⟨errors_ofText_places log, fun p hp n ↦ ⟨?_, fun before l after h ↦ h.exists_given_iff⟩⟩
  rw [line?_of_mem_errorPlaces hp, firstNumber?_eq_some_iff]

/-- A log in which the window ends behind the second digit of a line number. -/
def cutLog : String :=
  "! Stop.\n" ++ (String.ofList (List.replicate 494 '.') ++ "\nl.12345 \\end\n")

/-- The line number of its error is what is left of that number. -/
theorem LogReport.errors_ofText_cutLog :
    (LogReport.ofText cutLog).errors = [⟨some 12, "Stop.", .error⟩]
      ∧ givenNumber? "l.12345 \\end".toList = some 12345 := by
  have hmark : "! Stop.\n".toList = ['!', ' ', 'S', 't', 'o', 'p', '.', '\n'] := by decide
  have hline : "\nl.12345 \\end\n".toList
      = ['\n', 'l', '.', '1', '2', '3', '4', '5', ' ', '\\', 'e', 'n', 'd', '\n'] := by decide
  rw [LogReport.ofText, cutLog, String.toList_append, String.toList_append, hmark, hline,
    String.toList_ofList]
  decide +kernel

end TexWeave
