import Mathlib.Data.List.Basic
import TexWeave.Proofs.WarningNames

/-!
# References without a target

The engine warns about each key it cannot resolve, in a line of a fixed form.  Two things are made
of such a line, a name in the list of what is unresolved and a warning, by two walks that know
nothing of each other.  A key ends at the next apostrophe, which may stand on a later line, so what
is named depends on the text around a warning unless that text keeps to its lines.

* `mem_sortedDistinct`, `pairwise_sortedDistinct` — a list put in order.
* `KeyWarning` — the warning about a key, and `WholeKeys` for lines that hold no part of one.
* `mem_findAll_wholeKeys` — from line to line, the walk finds the keys of such lines and nothing
  else.
* `LogReport.unresolved_ofText_iff` — what is unresolved in a log of such lines.
* `LogReport.unresolved_ofText_warned` — in any log, there is a warning about all that is
  unresolved.
-/

set_option autoImplicit false

namespace TexWeave

open Text

/-! ## Putting a list in order -/

section

variable {s t : String} {l : List String}

theorem mem_insertSorted : s ∈ insertSorted t l ↔ s = t ∨ s ∈ l := by
  induction l with
  | nil => simp [insertSorted]
  | cons u l ih =>
    rw [insertSorted]
    split
    · simp
    · split
      · rename_i htu
        simp [htu]
      · simp only [List.mem_cons, ih]
        exact or_left_comm

theorem pairwise_insertSorted (h : l.Pairwise (· < ·)) :
    (insertSorted t l).Pairwise (· < ·) := by
  induction l with
  | nil => simp [insertSorted]
  | cons u l ih =>
    obtain ⟨hu, hl⟩ := List.pairwise_cons.1 h
    rw [insertSorted]
    split
    · rename_i htu
      refine List.pairwise_cons.2 ⟨fun v hv ↦ ?_, h⟩
      rcases List.mem_cons.1 hv with rfl | hv
      · exact htu
      · exact String.lt_trans htu (hu v hv)
    · rename_i htu
      split
      · exact h
      · rename_i hne
        refine List.pairwise_cons.2 ⟨fun v hv ↦ ?_, ih hl⟩
        rcases mem_insertSorted.1 hv with rfl | hv
        · exact String.not_le.1 fun hle ↦ hne (String.le_antisymm hle (String.not_lt.1 htu))
        · exact hu v hv

theorem mem_sortedDistinct : s ∈ sortedDistinct l ↔ s ∈ l := by
  induction l with
  | nil => rfl
  | cons t l ih =>
    have hcons : sortedDistinct (t :: l) = insertSorted t (sortedDistinct l) := rfl
    rw [hcons, mem_insertSorted, ih, List.mem_cons]

theorem pairwise_sortedDistinct (l : List String) : (sortedDistinct l).Pairwise (· < ·) := by
  induction l with
  | nil => exact .nil
  | cons t l ih => exact pairwise_insertSorted ih

end

/-! ## Keys in a text -/

section

variable {start label : String} {b : Option Char}

/-- What the pattern for keys finds, and where. -/
theorem keyPattern_eq_some_iff {cs : List Char} {name : String} {used : Nat} :
    keyPattern start label b cs = some (name, used)
      ↔ ∃ key behind, key ≠ [] ∧ '\'' ∉ key
        ∧ cs = start.toList ++ (key ++ ("' on page".toList ++ behind))
        ∧ name = label ++ String.ofList key ∧ used = start.length + key.length + 9 := by
  constructor
  · intro h
    rw [keyPattern] at h
    obtain ⟨r, hr, h⟩ := Option.bind_eq_some_iff.1 h
    dsimp only at h
    split at h
    · cases h
    · rename_i hne
      obtain ⟨behind, hbehind, hpair⟩ := Option.map_eq_some_iff.1 h
      obtain ⟨hname, hused⟩ := Prod.mk.inj hpair
      rw [drop_length_takeWhile, after?_eq_some_iff] at hbehind
      refine ⟨r.takeWhile (· != '\''), behind, ?_, ?_, ?_, hname.symm, hused.symm⟩
      · rwa [List.isEmpty_iff] at hne
      · intro hmem
        exact absurd (List.mem_takeWhile_imp hmem) (by decide)
      · rw [after?_eq_some_iff.1 hr, ← hbehind, List.takeWhile_append_dropWhile]
  · rintro ⟨key, behind, hne, hkey, rfl, rfl, rfl⟩
    have hbefore : ∀ c ∈ key, (c != '\'') = true := fun c hc ↦ by
      rw [bne_iff_ne]
      exact fun he ↦ hkey (he ▸ hc)
    have htaken : (key ++ ("' on page".toList ++ behind)).takeWhile (· != '\'') = key := by
      rw [List.takeWhile_append_of_pos hbefore]
      exact List.append_nil key
    have hclosed : after? "' on page" ("' on page".toList ++ behind) = some behind :=
      after?_eq_some_iff.2 rfl
    rw [keyPattern, after?_eq_some_iff.2 rfl, Option.bind_some]
    dsimp only
    rw [htaken, List.drop_left, hclosed, if_neg (by rwa [List.isEmpty_iff])]
    rfl

/-- Nothing is found on a line at a place where the warning does not open. -/
theorem keyPattern_append_eq_none {place rest : List Char} (hstart : '\n' ∉ start.toList)
    (hrest : ∀ c ∈ rest.head?, c = '\n') (h : ¬ start.toList <+: place) :
    keyPattern start label b (place ++ rest) = none := by
  rw [keyPattern, after?_append hstart hrest, after?_eq_none_iff.2 h]
  rfl

end

/-! ## Warnings about keys -/

/-- What a key may stand for. -/
inductive KeyKind
  | reference
  | citation
  deriving DecidableEq

namespace KeyKind

/-- How a warning calls it. -/
def word : KeyKind → String
  | .reference => "Reference"
  | .citation => "Citation"

/-- How it is marked in a list of names. -/
def label : KeyKind → String
  | .reference => "ref:"
  | .citation => "cite:"

/-- What stands before the quoted key in a warning. -/
def lead (k : KeyKind) : String := "LaTeX Warning: " ++ k.word ++ " "

/-- What a warning opens with: all up to the key. -/
def opener (k : KeyKind) : String := k.lead ++ "\x60"

/-- The keys of this kind in a text. -/
def pattern (k : KeyKind) : Pattern String := keyPattern k.opener k.label

theorem toList_opener (k : KeyKind) : k.opener.toList = k.lead.toList ++ ['\x60'] :=
  String.toList_append

theorem not_mem_opener (k : KeyKind) : '\n' ∉ k.opener.toList := by cases k <;> decide

theorem not_mem_lead (k : KeyKind) : '\x60' ∉ k.lead.toList := by cases k <;> decide

/-- No warning about one kind is the end of one about another. -/
theorem eq_of_lead_suffix {k k' : KeyKind} (h : k.lead.toList <:+ k'.lead.toList) : k = k' := by
  revert h
  cases k <;> cases k' <;> decide

/-- A name says what kind it is of. -/
theorem eq_of_name {k k' : KeyKind} {s t : String} (h : k.label ++ s = k'.label ++ t) :
    k = k' ∧ s = t := by
  have hchars := congrArg String.toList h
  rw [String.toList_append, String.toList_append] at hchars
  cases k <;> cases k' <;> simp_all [label]

end KeyKind

/-- A text that may stand between quotes on a line. -/
def Unquoted (s : String) : Prop := '\x60' ∉ s.toList ∧ '\'' ∉ s.toList ∧ '\n' ∉ s.toList

instance (s : String) : Decidable (Unquoted s) := inferInstanceAs (Decidable (_ ∧ _ ∧ _))

/-- The warning that a key has no target. -/
structure KeyWarning where
  kind : KeyKind
  key : String
  page : String
  line : String
  key_ne : key ≠ ""
  unquoted_key : Unquoted key
  unquoted_page : Unquoted page
  unquoted_line : Unquoted line

namespace KeyWarning

/-- What stands behind the key and the page it is on. -/
def tail (w : KeyWarning) : String :=
  " " ++ (w.page ++ (" undefined on input line " ++ (w.line ++ ".")))

/-- The line of a log that holds the warning. -/
def text (w : KeyWarning) : String := w.kind.opener ++ (w.key ++ ("' on page" ++ w.tail))

/-- The name under which the key is unresolved. -/
def name (w : KeyWarning) : String := w.kind.label ++ w.key

variable {w w' : KeyWarning} {k : KeyKind}

theorem toList_text (w : KeyWarning) : w.text.toList
    = w.kind.opener.toList ++ (w.key.toList ++ ("' on page".toList ++ w.tail.toList)) := by
  simp only [text, String.toList_append]

theorem not_mem_tail (w : KeyWarning) : '\x60' ∉ w.tail.toList := by
  simp [tail, w.unquoted_page.1, w.unquoted_line.1]

/-- In front of what a line holds behind its key, the walk finds the name of the key. -/
theorem pattern_text (w : KeyWarning) (b : Option Char) (rest : List Char) :
    w.kind.pattern b (w.text.toList ++ rest)
      = some (w.name, w.kind.opener.length + w.key.length + 9) := by
  refine keyPattern_eq_some_iff.2 ⟨w.key.toList, w.tail.toList ++ rest, ?_, w.unquoted_key.2.1,
    ?_, ?_, ?_⟩
  · simpa using w.key_ne
  · rw [toList_text]
    simp only [List.append_assoc]
  · rw [String.ofList_toList, name]
  · rw [String.length_toList]

/-- A line is about one key. -/
theorem name_eq_of_text (hkind : w'.kind = w.kind) (h : w'.text = w.text) : w'.name = w.name := by
  have hw := w.pattern_text none []
  have hw' := w'.pattern_text none []
  rw [hkind, h, hw] at hw'
  exact (Prod.mk.inj (Option.some.inj hw')).1.symm

/-- There is one backquote on a line, so a line opens one warning. -/
theorem kind_eq_of_infix (h : k.opener.toList <:+: w.text.toList) : k = w.kind := by
  obtain ⟨u, v, huv⟩ := h
  have hbehind : '\x60' ∉ w.key.toList ++ ("' on page".toList ++ w.tail.toList) := by
    simp only [List.mem_append, not_or]
    exact ⟨w.unquoted_key.1, by decide, w.not_mem_tail⟩
  have hparts : u ++ k.lead.toList ++ '\x60' :: v
      = w.kind.lead.toList
        ++ '\x60' :: (w.key.toList ++ ("' on page".toList ++ w.tail.toList)) := by
    rw [toList_text, KeyKind.toList_opener, KeyKind.toList_opener] at huv
    simpa only [List.append_assoc, List.singleton_append, List.cons_append, List.nil_append]
      using huv
  obtain ⟨hlead, -, -⟩ :=
    (List.append_cons_inj_of_notMem w.kind.not_mem_lead hbehind).1 hparts.symm
  exact KeyKind.eq_of_lead_suffix (hlead ▸ List.suffix_append u _)

theorem opener_prefix_text (w : KeyWarning) : w.kind.opener.toList <+: w.text.toList := by
  rw [toList_text]
  exact List.prefix_append _ _

end KeyWarning

/-- A line that is the warning about a key, or in which no such warning opens. -/
def WholeKeys (l : List Char) : Prop :=
  (∃ w : KeyWarning, l = w.text.toList) ∨ ∀ k : KeyKind, ¬ k.opener.toList <:+: l

/-! ## The walk over such lines -/

section

variable {k : KeyKind} {l rest : List Char}

/-- Where no warning opens, nothing is found. -/
theorem exists_findAll_unopened (hrest : ∀ c ∈ rest.head?, c = '\n')
    (hl : ¬ k.opener.toList <:+: l) (b : Option Char) :
    ∃ b', findAll k.pattern b 0 (l ++ rest) = findAll k.pattern b' 0 rest :=
  exists_findAll_of_none (fun _ _ hplace _ ↦ keyPattern_append_eq_none k.not_mem_opener hrest
    fun hopens ↦ hl (hopens.isInfix.trans hplace.isInfix)) b

/-- A line names the key it is about, and what stands behind it on the line is passed over. -/
theorem KeyWarning.exists_findAll_text (w : KeyWarning) (hrest : ∀ c ∈ rest.head?, c = '\n')
    (b : Option Char) : ∃ b', findAll w.kind.pattern b 0 (w.text.toList ++ rest)
      = w.name :: findAll w.kind.pattern b' 0 rest := by
  have hused : w.kind.opener.length + w.key.length + 9
      = (w.kind.opener.toList ++ (w.key.toList ++ "' on page".toList)).length := by
    simp only [List.length_append, String.length_toList, Nat.add_assoc]
    rfl
  have hfound := w.pattern_text b rest
  have hparts : w.text.toList ++ rest = w.kind.opener.toList
      ++ (w.key.toList ++ "' on page".toList) ++ (w.tail.toList ++ rest) := by
    simp only [w.toList_text, List.append_assoc]
  rw [hused, hparts] at hfound
  obtain ⟨b', h⟩ := exists_findAll_of_some hfound (by simp)
  have htail : ¬ w.kind.opener.toList <:+: w.tail.toList := fun h ↦
    w.not_mem_tail (h.subset (by simp [KeyKind.toList_opener]))
  obtain ⟨b'', h'⟩ := exists_findAll_unopened hrest htail b'
  exact ⟨b'', by rw [hparts, h, h']⟩

theorem findAll_newline (k : KeyKind) (b : Option Char) (cs : List Char) :
    findAll k.pattern b 0 ('\n' :: cs) = findAll k.pattern (some '\n') 0 cs := by
  have hnone : k.pattern b ('\n' :: cs) = none := by cases k <;> rfl
  rw [findAll, hnone]

/-- What the walk finds on a line is the key the line is about. -/
theorem exists_findAll_line (hl : WholeKeys l) (hrest : ∀ c ∈ rest.head?, c = '\n')
    (b : Option Char) :
    ∃ found b', findAll k.pattern b 0 (l ++ rest) = found ++ findAll k.pattern b' 0 rest
      ∧ ∀ s, s ∈ found ↔ ∃ w : KeyWarning, w.kind = k ∧ w.text.toList = l ∧ s = w.name := by
  by_cases hopens : k.opener.toList <:+: l
  · obtain ⟨w, rfl⟩ := hl.resolve_right fun hnone ↦ hnone k hopens
    obtain rfl := w.kind_eq_of_infix hopens
    obtain ⟨b', h⟩ := w.exists_findAll_text hrest b
    refine ⟨[w.name], b', h, fun s ↦ ?_⟩
    rw [List.mem_singleton]
    constructor
    · intro hs
      exact ⟨w, rfl, rfl, hs⟩
    · rintro ⟨w', hkind, htext, rfl⟩
      exact KeyWarning.name_eq_of_text hkind (String.toList_inj.1 htext)
  · obtain ⟨b', h⟩ := exists_findAll_unopened hrest hopens b
    refine ⟨[], b', h, fun s ↦ ⟨fun hs ↦ absurd hs List.not_mem_nil, ?_⟩⟩
    rintro ⟨w, rfl, rfl, rfl⟩
    exact absurd w.opener_prefix_text.isInfix hopens

/-- **From line to line, the walk finds the keys the lines are about.** -/
theorem mem_findAll_wholeKeys (ls : List (List Char)) (hl : WholeKeys l)
    (hls : ∀ m ∈ ls, WholeKeys m) (b : Option Char) (s : String) :
    s ∈ findAll k.pattern b 0 (l ++ ls.flatMap ('\n' :: ·))
      ↔ ∃ w : KeyWarning, w.kind = k ∧ w.text.toList ∈ l :: ls ∧ s = w.name := by
  induction ls generalizing l b with
  | nil =>
    obtain ⟨found, b', h, hfound⟩ := exists_findAll_line (k := k) hl (head?_flatMap_newline []) b
    rw [h, List.flatMap_nil, findAll, List.append_nil, hfound]
    simp only [List.mem_singleton]
  | cons m ls ih =>
    obtain ⟨hm, hls⟩ := List.forall_mem_cons.1 hls
    obtain ⟨found, b', h, hfound⟩ :=
      exists_findAll_line (k := k) hl (head?_flatMap_newline (m :: ls)) b
    rw [h, List.mem_append, hfound, List.flatMap_cons, List.cons_append, findAll_newline,
      ih hm hls]
    constructor
    · rintro (⟨w, hkind, htext, hs⟩ | ⟨w, hkind, htext, hs⟩)
      · exact ⟨w, hkind, htext ▸ List.mem_cons_self, hs⟩
      · exact ⟨w, hkind, List.mem_cons_of_mem l htext, hs⟩
    · rintro ⟨w, hkind, htext, hs⟩
      rcases List.mem_cons.1 htext with htext | htext
      · exact .inl ⟨w, hkind, htext, hs⟩
      · exact .inr ⟨w, hkind, htext, hs⟩

end

/-! ## What is unresolved in a log -/

/-- A name in the list comes from one of the two walks. -/
theorem mem_unresolved_iff {log s : String} : s ∈ (LogReport.ofText log).unresolved
    ↔ ∃ k : KeyKind, s ∈ findAll k.pattern none 0 (unifyNewlines log.toList) := by
  have hlist : (LogReport.ofText log).unresolved
      = sortedDistinct (findAll KeyKind.reference.pattern none 0 (unifyNewlines log.toList)
        ++ findAll KeyKind.citation.pattern none 0 (unifyNewlines log.toList)) := rfl
  rw [hlist, mem_sortedDistinct, List.mem_append]
  constructor
  · rintro (h | h)
    · exact ⟨.reference, h⟩
    · exact ⟨.citation, h⟩
  · rintro ⟨_ | _, h⟩
    · exact .inl h
    · exact .inr h

/-- **What is unresolved.**  In a log in which warnings about keys are whole lines, the names that
are listed are those of the keys in these lines, in the order of code points and each once. -/
theorem LogReport.unresolved_ofText_iff {log : String} (h : ∀ l ∈ logLines log, WholeKeys l) :
    (LogReport.ofText log).unresolved.Pairwise (· < ·)
      ∧ ∀ s, s ∈ (LogReport.ofText log).unresolved
        ↔ ∃ w : KeyWarning, w.text.toList ∈ logLines log ∧ s = w.name := by
  refine ⟨pairwise_sortedDistinct _, fun s ↦ ?_⟩
  obtain ⟨l, ls, hsplit, hlog⟩ := exists_splitAt_eq_cons '\n' (unifyNewlines log.toList)
  rw [logLines, hsplit] at h ⊢
  obtain ⟨hl, hls⟩ := List.forall_mem_cons.1 h
  rw [mem_unresolved_iff, hlog]
  simp only [mem_findAll_wholeKeys ls hl hls]
  constructor
  · rintro ⟨_, w, -, htext, hs⟩
    exact ⟨w, htext, hs⟩
  · rintro ⟨w, htext, hs⟩
    exact ⟨w.kind, w, rfl, htext, hs⟩

/-- A section that is missing. -/
def missingSection : KeyWarning :=
  ⟨.reference, "sec:b", "2", "9", by decide, by decide, by decide, by decide⟩

/-- A book that is missing. -/
def missingBook : KeyWarning :=
  ⟨.citation, "knuth", "1", "4", by decide, by decide, by decide, by decide⟩

/-- A log that asks for the section twice, and once more in other words. -/
def missingLog : String :=
  joinLines [missingSection.text, missingBook.text, missingSection.text, "Reference \x60sec:c'"]

theorem LogReport.unresolved_ofText_missingLog :
    (∀ l ∈ logLines missingLog, WholeKeys l)
      ∧ (LogReport.ofText missingLog).unresolved = ["cite:knuth", "ref:sec:b"]
      ∧ ∃ w : KeyWarning, w.text.toList ∈ logLines missingLog ∧ "ref:sec:b" = w.name := by
  have hlines : logLines missingLog = [missingSection.text.toList, missingBook.text.toList,
      missingSection.text.toList, "Reference \x60sec:c'".toList] := by decide +kernel
  have hwhole : ∀ l ∈ logLines missingLog, WholeKeys l := by
    have hother : ∀ k : KeyKind, ¬ k.opener.toList <:+: "Reference \x60sec:c'".toList := by
      intro k
      cases k <;> decide
    rw [hlines]
    simp only [List.forall_mem_cons]
    exact ⟨.inl ⟨_, rfl⟩, .inl ⟨_, rfl⟩, .inl ⟨_, rfl⟩, .inr hother,
      fun l hl ↦ absurd hl List.not_mem_nil⟩
  have hlist : (LogReport.ofText missingLog).unresolved = ["cite:knuth", "ref:sec:b"] := by
    decide +kernel
  refine ⟨hwhole, hlist, ((LogReport.unresolved_ofText_iff hwhole).2 "ref:sec:b").1 ?_⟩
  rw [hlist]
  decide

/-! ## What is unresolved has been warned about -/

/-- The start of a text is not trimmed if it begins and ends with something else than blanks. -/
theorem prefix_trim_append {w b : List Char} (hstart : trimStart w = w) (hend : trimEnd w = w)
    (hw : w ≠ []) : w <+: trim (w ++ b) := by
  have hhead : trimStart (w ++ b) = w ++ b := by
    rw [trimStart] at hstart ⊢
    rw [List.dropWhile_append, hstart, if_neg (by rwa [List.isEmpty_iff])]
  have hkept : trimEnd w <+: trimEnd (w ++ b) := dropEnd_prefix_append isBlank w b
  rwa [hend, ← hhead] at hkept

namespace KeyKind

/-- What the warning about a key says of it. -/
def sentence (k : KeyKind) (key : String) : String := k.word ++ (" \x60" ++ (key ++ "' on page"))

variable (k : KeyKind) (key : String)

theorem trimStart_sentence : trimStart (k.sentence key).toList = (k.sentence key).toList := by
  rw [sentence, String.toList_append]
  cases k <;> rfl

theorem trimEnd_sentence : trimEnd (k.sentence key).toList = (k.sentence key).toList := by
  have hparts : (k.sentence key).toList
      = (k.word ++ (" \x60" ++ key)).toList ++ "' on page".toList := by
    simp only [sentence, String.toList_append, List.append_assoc]
  have hpage : trimEnd "' on page".toList = "' on page".toList := by decide
  rw [hparts, trimEnd_append_of_ne_nil (by decide), hpage]

theorem head?_sentence : (k.sentence key).toList.head? ≠ some ':' := by
  rw [sentence, String.toList_append]
  cases k <;> simp [word]

theorem sentence_ne_nil : (k.sentence key).toList ≠ [] := by
  simp [sentence, String.toList_append]

variable {k} {key}

/-- A warning about a key is reported, whatever stands before and behind it in a text. -/
theorem exists_mem_findAll_sentence (hkey : '\n' ∉ key.toList) (front behind : List Char) :
    ∃ m ∈ findAll warningPattern none 0
        (front ++ ("LaTeX Warning: ".toList ++ ((k.sentence key).toList ++ behind))),
      (k.sentence key).toList <:+: m.toList := by
  have hprefix : (k.sentence key).toList
      <+: trim (' ' :: ((k.sentence key).toList ++ restOfLine behind)) :=
    prefix_trim_append (k.trimStart_sentence key) (k.trimEnd_sentence key) (k.sentence_ne_nil key)
  have hline : '\n' ∉ ' ' :: ((k.sentence key).toList ++ restOfLine behind) := by
    have hsentence : '\n' ∉ (k.sentence key).toList := by
      cases k <;> simp [sentence, word, hkey]
    have hrest : '\n' ∉ restOfLine behind := fun h ↦
      absurd (List.mem_takeWhile_imp h) (by decide)
    simp [hsentence, hrest]
  have htext : trim (' ' :: ((k.sentence key).toList ++ restOfLine behind)) ≠ [] := fun hnil ↦
    k.sentence_ne_nil key (List.prefix_nil.1 (hnil ▸ hprefix))
  have hcolon : (trim (' ' :: ((k.sentence key).toList ++ restOfLine behind))).head?
      ≠ some ':' := by
    obtain ⟨more, hmore⟩ := hprefix
    rw [← hmore, List.head?_append_of_ne_nil _ (k.sentence_ne_nil key)]
    exact k.head?_sentence key
  have hbehind : ∀ c ∈ (behind.dropWhile (· != '\n')).head?, c = '\n' := by
    intro c hc
    have hnot := List.head?_dropWhile_not (· != '\n') behind
    rw [Option.mem_def.1 hc] at hnot
    simpa using hnot
  have hlead : '\n' ∉ "LaTeX Warning".toList := by decide
  have hskip : 0 ≤ front.length := Nat.zero_le _
  obtain ⟨m, hm, hin⟩ :=
    exists_mem_findAll_warningPattern hline htext hcolon hbehind hlead rfl hskip none
  refine ⟨m, ?_, hprefix.isInfix.trans hin⟩
  have hparts : "LaTeX Warning: ".toList ++ ((k.sentence key).toList ++ behind)
      = "LaTeX Warning".toList ++ ':' :: (' ' :: ((k.sentence key).toList ++ restOfLine behind)
        ++ behind.dropWhile (· != '\n')) := by
    rw [List.cons_append, List.append_assoc, restOfLine, List.takeWhile_append_dropWhile]
    rfl
  rwa [hparts]

end KeyKind

/-- **All that is unresolved has been warned about**: in any log, a name in the list stands for a
key that a reported warning names. -/
theorem LogReport.unresolved_ofText_warned {log key : String} (k : KeyKind)
    (hkey : '\n' ∉ key.toList) (h : k.label ++ key ∈ (LogReport.ofText log).unresolved) :
    ∃ m ∈ (LogReport.ofText log).warnings, (k.sentence key).toList <:+: m.message.toList := by
  obtain ⟨k', hk'⟩ := mem_unresolved_iff.1 h
  obtain ⟨b, place, used, ⟨front, hfront⟩, hfound⟩ := exists_of_mem_findAll hk'
  obtain ⟨key', behind, -, -, hplace, hname, -⟩ := keyPattern_eq_some_iff.1 hfound
  obtain ⟨rfl, rfl⟩ := KeyKind.eq_of_name hname
  obtain ⟨text, hfound, hin⟩ := KeyKind.exists_mem_findAll_sentence (k := k) hkey front behind
  have hplace' : place
      = "LaTeX Warning: ".toList ++ ((k.sentence (String.ofList key')).toList ++ behind) := by
    rw [hplace, KeyKind.opener, KeyKind.lead, KeyKind.sentence]
    simp [String.toList_append]
  rw [← hplace', hfront] at hfound
  refine ⟨⟨none, text, .warning⟩, mem_warnings_iff.2 ⟨text, hfound, ?_, rfl⟩, hin⟩
  rintro rfl
  exact k.sentence_ne_nil _ (List.infix_nil.1 hin)

/-- Of two warnings on one line, the second one is part of the message of the first. -/
theorem LogReport.unresolved_ofText_warned_of_doubled :
    KeyKind.citation.label ++ "knuth" ∈ (LogReport.ofText
        "LaTeX Warning: a LaTeX Warning: Citation \x60knuth' on page 1 undefined\n").unresolved
      ∧ ∃ m ∈ (LogReport.ofText
          "LaTeX Warning: a LaTeX Warning: Citation \x60knuth' on page 1 undefined\n").warnings,
        (KeyKind.citation.sentence "knuth").toList <:+: m.message.toList := by
  have h : KeyKind.citation.label ++ "knuth" ∈ (LogReport.ofText
      "LaTeX Warning: a LaTeX Warning: Citation \x60knuth' on page 1 undefined\n").unresolved := by
    decide +kernel
  exact ⟨h, LogReport.unresolved_ofText_warned .citation (by decide) h⟩

end TexWeave
