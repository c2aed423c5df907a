import TexWeave.Proofs.Indentation
import TexWeave.Proofs.Placement
import TexWeave.Proofs.Statements

/-!
# Where definitions stand in their text

The tokens of a text that is a sentence are those of a scan, and the tree of the text has them in
order.  So a definition on the top level is reached by the scan, and its header is read from the
line it starts on.

* `exists_runs_of_readText` — the scan and the tokens behind the tree of a text.
* `exists_place` — the scan in front of a definition.
* `getElem?_splitAt` — the line of a place in a text.
* `getElem?_of_stands`, `getElem?_of_place` — the line of a scan, and that of a definition.
-/

set_option autoImplicit false

namespace TexWeave
namespace Text

/-! ## Lines of places -/

variable (sep : Char)

theorem splitAt_eq_takeWhile_cons (cs : List Char) :
    ∃ ls, splitAt sep cs = cs.takeWhile (· != sep) :: ls := by
  induction cs with
  | nil => exact ⟨[], rfl⟩
  | cons c r ih =>
    obtain ⟨ls, hls⟩ := ih
    rw [splitAt, hls]
    by_cases hc : c = sep
    · exact ⟨_, by rw [if_pos hc, List.takeWhile_cons_of_neg (by simpa using hc)]⟩
    · exact ⟨ls, by rw [if_neg hc, List.takeWhile_cons_of_pos (by simpa using hc)]⟩

theorem length_splitAt (cs : List Char) : (splitAt sep cs).length = cs.count sep + 1 := by
  induction cs with
  | nil => rfl
  | cons c r ih =>
    rw [splitAt]
    by_cases hc : c = sep
    · rw [if_pos hc, hc, List.length_cons, List.count_cons_self, ih]
    · rw [if_neg hc, List.count_cons_of_ne hc, ← ih]
      cases hr : splitAt sep r with
      | nil => exact absurd hr (splitAt_ne_nil sep r)
      | cons l ls => rfl

/-- **The line of a place**: what stands on it in front of the place and behind it. -/
theorem getElem?_splitAt (u r : List Char) : (splitAt sep (u ++ r))[u.count sep]?
    = some (u.rtakeWhile (· != sep) ++ r.takeWhile (· != sep)) := by
  induction u using List.reverseRecOn generalizing r with
  | nil =>
    obtain ⟨ls, hls⟩ := splitAt_eq_takeWhile_cons sep r
    rw [List.nil_append, hls]
    rfl
  | append_singleton u c ih =>
    rw [List.append_assoc, List.singleton_append]
    by_cases hc : c = sep
    · obtain ⟨ls, hls⟩ := splitAt_eq_takeWhile_cons sep r
      rw [hc, splitAt_append, List.rtakeWhile_concat_neg _ _ _ (by simp), List.count_append,
        List.count_singleton_self, ← length_splitAt, List.getElem?_append_right (Nat.le_refl _),
        Nat.sub_self, hls]
      rfl
    · rw [List.count_append, List.count_singleton, if_neg (by simpa using hc), Nat.add_zero, ih,
        List.rtakeWhile_concat_pos _ _ _ (by simpa using hc),
        List.takeWhile_cons_of_pos (by simpa using hc), List.append_assoc, List.singleton_append]

end Text

namespace Source

open Form Scanner Text

/-! ## The tree and the scan of a text -/

/-- A text as it is scanned: with a line feed at its end. -/
def closed (text : List Char) : List Char :=
  if text.getLast? == some '\n' || text.isEmpty then text else text ++ ['\n']

theorem closed_eq (text : List Char) : closed text = text ∨ closed text = text ++ ['\n'] := by
  rw [closed]
  split
  · exact .inl rfl
  · exact .inr rfl

theorem exists_runs_of_sentence {text : List Char} {ts : List Token}
    (h : (scan text).sentence? = some ts) :
    ∃ out, Runs { rest := closed text } out ∧ significant out = ts := by
  rw [Scanned.sentence?] at h
  split at h
  · next hcomplete =>
    cases h
    obtain ⟨out, hout, hruns⟩ := exists_runs_of_run (Bool.and_eq_true_iff.1 hcomplete).1
    refine ⟨out, hruns, ?_⟩
    exact congrArg significant hout.symm
  · cases h

theorem exists_sentence_of_readText {text : List Char} {t : Tree} (h : readText text = .ok t) :
    ∃ ts, (scan text).sentence? = some ts ∧ parse ts = some t := by
  rw [readText] at h
  split at h
  · cases h
  · split at h
    · next hread =>
      cases h
      exact Option.bind_eq_some_iff.1 hread
    · cases h

/-- **Behind the tree of a text** there is a scan whose tokens the grammar read. -/
theorem exists_runs_of_readText {text : List Char} {t : Tree} (h : readText text = .ok t) :
    ∃ ts out, parse ts = some t ∧ Runs { rest := closed text } out ∧ significant out = ts := by
  obtain ⟨ts, hts, hparse⟩ := exists_sentence_of_readText h
  obtain ⟨out, hruns, hout⟩ := exists_runs_of_sentence hts
  exact ⟨ts, out, hparse, hruns, hout⟩

/-- Lines have a definition if their text has a tree with only one. -/
theorem sliceLines_eq_ok_iff {ls : List String} {x : Definition} :
    sliceLines ls = .ok x ↔ ∃ t d, readText (joinLines ls).toList = .ok t
      ∧ (statementsOf t).filterMap undecorated? = [d] ∧ cutDefinition ls d = x := by
  rw [sliceLines]
  cases readText (joinLines ls).toList with
  | error f => cases f <;> simp
  | ok t =>
    dsimp only
    split
    · next d hd => simp [hd]
    · next hd => simpa using fun d hsingle ↦ (hd d hsingle).elim

/-! ## The place of a definition -/

theorem Form.EndsLine.afterLayout {ts : List Token} (h : EndsLine ts) : AfterLayout ts := by
  obtain ⟨v, t, w, rfl, ht, hw⟩ := h
  cases w using List.reverseRecOn with
  | nil => exact .inr ⟨v, t, rfl, by rw [Token.isLayout, ht]⟩
  | append_singleton w k =>
    refine .inr ⟨v ++ t :: w, k, by rw [List.append_assoc, List.cons_append], ?_⟩
    rw [Token.isLayout, hw k (List.mem_append_right w List.mem_cons_self)]

theorem afterLayout_of_isFront {ts : List Token} (h : IsFront ts) : AfterLayout ts := by
  rcases h.endsLine with rfl | hends
  · exact .inl rfl
  · exact hends.afterLayout

theorem isSolid_of_isFixed {k : Token} (h : IsFixed k) : IsSolid k := .inr h

/-- The opening words of a definition are no operators, and there is at least one. -/
theorem IsHeader.exists_first {words : List Token} {name stop : Token}
    (h : IsHeader words name stop) : ∃ first others, words = first :: others
      ∧ ∀ k ∈ words, IsSolid k ∧ k.text ∉ operators.flatten := by
  have htexts : ∀ ts ∈ openingWords, ts ≠ [] ∧ ∀ w ∈ ts, w ∉ operators.flatten := by decide
  obtain ⟨hne, hwords⟩ := htexts _ h.words_text
  obtain ⟨first, others, rfl⟩ := List.exists_cons_of_ne_nil
    (fun hnil : words = [] ↦ hne (by rw [hnil]; rfl))
  exact ⟨first, others, rfl, fun k hk ↦
    ⟨isSolid_of_isFixed (h.words_fixed k hk), hwords k.text (List.mem_map_of_mem hk)⟩⟩

/-- The scan in front of a definition: `s` is reached from `start` with the tokens in front, and
reads the first of the opening words; `others`, the name and the rest of the tokens come behind. -/
structure Place (start : Scanner) (d : Tree) (front : List Token) (s : Scanner) (first : Token)
    (others : List Token) (name stop : Token) : Prop where
  isFront : IsFront front
  reaches : Reaches start front s
  isHeader : IsHeader (first :: others) name stop
  firstLine_eq : d.firstLine = s.line
  firstLine_le : d.firstLine ≤ d.lastLine
  name_mem : name ∈ d.tokens
  declaredName_eq : declaredName d = Text.compat name.text
  reads : ∃ t out rest, Reads s first t ∧ Runs t out
    ∧ significant out = others ++ name :: stop :: rest

/-- The last line of a definition is no less than a line none of its tokens ends in front of. -/
theorem le_lastLine {d : Tree} {n : Nat} (h : ∀ k ∈ d.tokens, n ≤ k.endLine)
    (hsome : ∃ k ∈ d.tokens, k.isLayout = false) : n ≤ d.lastLine := by
  rw [Tree.lastLine]
  cases hlast : d.tokens.reverse.find? fun k ↦ !k.isLayout with
  | none =>
    obtain ⟨k, hk, hlayout⟩ := hsome
    have hnone := List.find?_eq_none.1 hlast k (List.mem_reverse.2 hk)
    rw [hlayout] at hnone
    exact absurd rfl hnone
  | some k =>
    exact h k (List.mem_reverse.1 (List.mem_of_find?_eq_some hlast))

/-- **Every definition on the top level has its place in the scan.** -/
theorem exists_place {start : Scanner} {out ts : List Token} {t d : Tree} (hruns : Runs start out)
    (hout : significant out = ts) (hparse : parse ts = some t)
    (hd : d ∈ (statementsOf t).filterMap undecorated?) :
    ∃ front s first others name stop, Place start d front s first others name stop := by
  obtain ⟨front, words, name, stop, rest, behind, hfront, hheader, hts, htokens, hname, -⟩ :=
    exists_header_of_parse hparse hd
  obtain ⟨first, others, rfl, hsolid⟩ := hheader.exists_first
  have hsplit : significant out
      = front ++ first :: (others ++ name :: stop :: (rest ++ behind)) := by
    rw [hout, hts]
    simp
  obtain ⟨s, u, out', hreaches, hreads, hruns', hafter⟩ :=
    exists_reaches hruns hsplit hfront.excess_eq (hsolid first List.mem_cons_self).1
  have hline : d.firstLine = s.line := by
    rw [Tree.firstLine, htokens]
    exact hreads.line_eq
  have hmem : name ∈ d.tokens := by
    rw [htokens]
    exact List.mem_append_right _ List.mem_cons_self
  refine ⟨front, s, first, others, name, stop, hfront, hreaches, hheader, hline, ?_, hmem, hname,
    u, out', rest ++ behind, hreads, hruns', hafter⟩
  refine hline ▸ le_lastLine (fun k hk ↦ ?_) ⟨first, ?_, ?_⟩
  · rw [htokens, List.cons_append, List.mem_cons] at hk
    rcases hk with rfl | hk
    · exact hreads.line_le.1
    · have hmem : k ∈ significant out' := by
        rw [hafter]
        simp only [List.mem_append, List.mem_cons] at hk ⊢
        tauto
      exact hreads.line_le.2.trans (hruns'.line_le k (List.mem_of_mem_filter hmem))
  · rw [htokens]
    exact List.mem_cons_self
  · exact not_isLayout_of_isSolid (hsolid first List.mem_cons_self).1

/-! ## The line of a definition -/

/-- What is left of the line. -/
def lineTail (r : List Char) : List Char := r.takeWhile (· != '\n')

theorem lineTail_append {w : List Char} (hw : '\n' ∉ w) (r : List Char) :
    lineTail (w ++ r) = w ++ lineTail r :=
  List.takeWhile_append_of_pos fun c hc ↦ by
    simpa using fun h : c = '\n' ↦ hw (h ▸ hc)

/-- A line feed at the end adds one line, which is empty. -/
theorem exists_splitAt_closed (text : List Char) :
    ∃ more, splitAt '\n' (closed text) = splitAt '\n' text ++ more ∧ ∀ l ∈ more, l = [] := by
  rcases closed_eq text with hclosed | hclosed
  · exact ⟨[], by rw [hclosed, List.append_nil], List.forall_mem_nil _⟩
  · exact ⟨[[]], by rw [hclosed, splitAt_append]; rfl, List.forall_mem_singleton.2 rfl⟩

/-- The line a scan stands on, if anything stands on it. -/
theorem getElem?_of_stands {ls : List String} {u : List Char} {before : List Token} {s : Scanner}
    (hls : ∀ l ∈ ls, IsLine l) (hne : ls ≠ [])
    (h : Stands (closed (joinLines ls).toList) u before s)
    (hline : lineHead u ++ lineTail s.rest ≠ []) :
    ls[s.line - 1]? = some (String.ofList (lineHead u ++ lineTail s.rest)) := by
  have hplace := getElem?_splitAt '\n' u s.rest
  obtain ⟨more, hclosed, hmore⟩ := exists_splitAt_closed (joinLines ls).toList
  have hsplit : splitAt '\n' (joinLines ls).toList = ls.map String.toList := by
    have hlines := congrArg (List.map String.toList) (splitLines_joinLines_of_isLine hne hls)
    simpa [splitLines, Function.comp_def] using hlines
  rw [← h.text_eq, hclosed, hsplit] at hplace
  rw [h.line_eq, Nat.add_sub_cancel_left]
  rcases Nat.lt_or_ge (u.count '\n') ls.length with hlt | hge
  · rw [List.getElem?_append_left (by rwa [List.length_map]), List.getElem?_map,
      Option.map_eq_some_iff] at hplace
    obtain ⟨l, hl, hcs⟩ := hplace
    rw [hl, ← String.ofList_toList (s := l), hcs]
    rfl
  · rw [List.getElem?_append_right (by rwa [List.length_map])] at hplace
    exact absurd (hmore _ (List.mem_of_getElem? hplace)) hline

section

variable {start s : Scanner} {d : Tree} {front others : List Token} {first name stop : Token}
  {text u : List Char}

/-- The word that opens a definition is no operator. -/
theorem IsHeader.first_text (h : IsHeader (first :: others) name stop) :
    first.text ∈ ["def", "class", "async"] ∧ first.text ∉ operators.flatten := by
  have hall : ∀ ts ∈ openingWords, ∀ w ∈ ts.head?,
    w ∈ ["def", "class", "async"] ∧ w ∉ operators.flatten := by decide
  exact hall _ h.words_text _ rfl

/-- Only blanks stand in front of a definition on its line. -/
theorem exists_line_of_place (h : Place start d front s first others name stop)
    (hu : Stands text u front s) : (∀ c ∈ lineHead u, isBlank c = true)
      ∧ ∃ r, lineTail s.rest = first.text.toList ++ r := by
  obtain ⟨t, out, rest, hreads, -⟩ := h.reads
  have hwords : ∀ w ∈ ["def", "class", "async"], '\n' ∉ w.toList ∧ w.toList ≠ [] := by decide
  obtain ⟨hnewline, hempty⟩ := hwords _ h.isHeader.first_text.1
  refine ⟨?_, lineTail t.rest, by rw [hreads.rest_eq, lineTail_append hnewline]⟩
  rcases (hu.layout (afterLayout_of_isFront h.isFront)).2 with hfresh | hend
  · exact hfresh
  · obtain ⟨c, r, hc⟩ := List.exists_cons_of_ne_nil hempty
    have hhead := hend c (r ++ t.rest) (by rw [hreads.rest_eq, hc]; rfl)
    exact absurd (hc ▸ hhead ▸ List.mem_cons_self) hnewline

/-- The line on which a definition begins. -/
theorem getElem?_of_place {ls : List String} (hls : ∀ l ∈ ls, IsLine l) (hne : ls ≠ [])
    (h : Place start d front s first others name stop)
    (hu : Stands (closed (joinLines ls).toList) u front s) : 0 < d.firstLine
      ∧ ls[d.firstLine - 1]? = some (String.ofList (lineHead u ++ lineTail s.rest)) := by
  have hline : lineHead u ++ lineTail s.rest ≠ [] := by
    obtain ⟨-, r, hr⟩ := exists_line_of_place h hu
    have hwords : ∀ w ∈ ["def", "class", "async"], w.toList ≠ [] := by decide
    rw [hr]
    exact List.append_ne_nil_of_right_ne_nil _
      (List.append_ne_nil_of_left_ne_nil (hwords _ h.isHeader.first_text.1) _)
  rw [h.firstLine_eq]
  exact ⟨by rw [hu.line_eq]; omega, getElem?_of_stands hls hne hu hline⟩

end

/-- **Every definition of a text has its place in it.** -/
theorem exists_place_of_readText {text : List Char} {t d : Tree} (hread : readText text = .ok t)
    (hd : d ∈ (statementsOf t).filterMap undecorated?) : ∃ u front s first others name stop,
      Place { rest := closed text } d front s first others name stop
        ∧ Stands (closed text) u front s := by
  obtain ⟨ts, out, hparse, hruns, hout⟩ := exists_runs_of_readText hread
  obtain ⟨front, s, first, others, name, stop, hplace⟩ := exists_place hruns hout hparse hd
  obtain ⟨u, hu⟩ := (stands_start _).reaches hplace.reaches
  exact ⟨u, front, s, first, others, name, stop, hplace, hu⟩

end Source
end TexWeave
