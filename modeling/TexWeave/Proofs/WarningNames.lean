import Mathlib.Data.List.Infix
import TexWeave.Proofs.WarningLines

/-!
# Warnings of packages and classes

A package or class warns under its name, which the pattern for warnings takes for a single word.
The walk goes on behind each warning it finds, so a line can also be reached from a warning found
before it.  That does no harm: an announcement ends before the first colon, and a warning that goes
past the colon of a line holds the message of this line.

* `warningLine` — the line of a warning.
* `exists_mem_findAll_warningPattern` — behind an announcement that ends at a colon a message is
  found, whatever stands before.
* `IsHeard` — the names under which warnings are found.
* `LogReport.warnings_ofText_heard_iff` — a name is one of them exactly if no warning of it is lost.
-/

set_option autoImplicit false

namespace TexWeave

open Text

namespace Text

/-! ## Trimming parts of a text -/

section

variable {a b : List Char}

theorem trimEnd_append_of_ne_nil (h : trimEnd b ≠ []) : trimEnd (a ++ b) = a ++ trimEnd b := by
  rw [trimEnd, dropEnd_append, if_neg, ← trimEnd]
  rwa [← trimEnd, List.isEmpty_iff]

/-- The end of a text is trimmed to a part of what the text is trimmed to. -/
theorem infix_trim_append (a b : List Char) : trim b <:+: trim (a ++ b) := by
  by_cases hb : trim b = []
  · rw [hb]
    exact List.nil_infix
  have hends : trimEnd b = b.takeWhile isBlank ++ trim b := by
    rw [trim, ← trimEnd_append_of_ne_nil hb, trimStart, List.takeWhile_append_dropWhile]
  have hne : trimEnd b ≠ [] := by
    rw [hends]
    exact List.append_ne_nil_of_right_ne_nil _ hb
  have hsuffix : trim b <:+ (a.dropWhile isBlank) ++ trimEnd b := by
    rw [hends]
    exact (List.suffix_append _ _).trans (List.suffix_append _ _)
  have hwhole : trim (a ++ b) = trimEnd ((a ++ b).dropWhile isBlank) := rfl
  rw [hwhole, List.dropWhile_append]
  split
  · exact List.infix_rfl
  · rw [trimEnd_append_of_ne_nil hne]
    exact hsuffix.isInfix

end

end Text

/-- A word stands within the first part of a text if it does not hold the character behind it. -/
theorem isPrefix_of_isPrefix_append {w u rest : List Char} {c : Char} (h : w <+: u ++ c :: rest)
    (hc : c ∉ w) : w <+: u := by
  obtain ⟨t, ht⟩ := h
  rcases List.append_eq_append_iff.1 ht with ⟨more, rfl, -⟩ | ⟨more, rfl, hmore⟩
  · exact List.prefix_append _ _
  · cases more with
    | nil => rw [List.append_nil]
    | cons x more =>
      rw [(List.cons.inj hmore).1] at hc
      exact absurd (List.mem_append_right u List.mem_cons_self) hc

/-- The end of a text in two parts reaches into the first part or not. -/
theorem suffix_append_cases {place u v : List Char} (h : place <:+ u ++ v) :
    (∃ w, w ≠ [] ∧ w <:+ u ∧ place = w ++ v) ∨ place <:+ v := by
  obtain ⟨t, ht⟩ := h
  rcases List.append_eq_append_iff.1 ht with ⟨w, rfl, hw⟩ | ⟨w, -, hw⟩
  · by_cases hnil : w = []
    · rw [hw, hnil]
      exact .inr List.suffix_rfl
    · exact .inl ⟨w, hnil, List.suffix_append t w, hw⟩
  · exact .inr (hw ▸ List.suffix_append w place)

theorem newline_mem_dropWhile_line {u : List Char} (h : '\n' ∈ u) :
    '\n' ∈ u.dropWhile (· != '\n') := by
  rw [← List.takeWhile_append_dropWhile (p := (· != '\n')) (l := u)] at h
  refine (List.mem_append.1 h).resolve_left fun htaken ↦ ?_
  have hne := List.mem_takeWhile_imp htaken
  exact absurd hne (by decide)

/-! ## The lines of warnings -/

/-- The line of a warning: who warns, the name and the message. -/
def warningLine (kind name msg : String) : String :=
  kind ++ (" " ++ (name ++ (" Warning: " ++ msg)))

/-- The names under which packages and classes are heard: words, names that open with the word of
the announcement itself, and names that end in the name of somebody who announces warnings. -/
def IsHeard (name : String) : Prop :=
  name.toList.all isWordChar = true ∨ "Warning".toList <+: name.toList
    ∨ ∃ a ∈ announcers, a.toList <:+ name.toList

instance (name : String) : Decidable (IsHeard name) := inferInstanceAs (Decidable (_ ∨ _ ∨ _))

/-! ## What is found behind a colon -/

section

variable {x y msg rest : List Char}

/-- A message that does not start with a colon loses blanks only. -/
theorem dropWhile_isLead (htext : trim msg ≠ []) (hcolon : (trim msg).head? ≠ some ':') :
    msg.dropWhile isLead = trimStart msg := by
  obtain ⟨c, hc⟩ : ∃ c, (trimStart msg).head? = some c ∧ c ≠ ':' := by
    obtain ⟨t, ht⟩ : trim msg <+: trimStart msg := List.rdropWhile_prefix isBlank (trimStart msg)
    obtain ⟨c, r, hcons⟩ := List.exists_cons_of_ne_nil htext
    rw [hcons] at ht hcolon
    refine ⟨c, ?_, fun h ↦ hcolon (congrArg some h)⟩
    rw [← ht]
    rfl
  obtain ⟨hhead, hne⟩ := hc
  have hblank : isBlank c = false := by
    have hnot := List.head?_dropWhile_not isBlank msg
    rw [trimStart] at hhead
    rw [hhead] at hnot
    simpa using hnot
  obtain ⟨r, hr⟩ := List.head?_eq_some_iff.1 hhead
  have hlead : isLead c = false := by
    rw [isLead, hblank, Bool.or_false]
    exact beq_false_of_ne hne
  have hmsg : msg = msg.takeWhile isBlank ++ c :: r := by
    rw [← hr, trimStart, List.takeWhile_append_dropWhile]
  have hblanks : ∀ d ∈ msg.takeWhile isBlank, isLead d = true := fun d hd ↦ by
    have hd' := List.mem_takeWhile_imp hd
    rw [isLead, hd', Bool.or_true]
  rw [hr]
  conv_lhs => rw [hmsg]
  rw [List.dropWhile_append_of_pos hblanks, List.dropWhile_cons_of_neg (by rw [hlead]; decide)]

variable (hmsg : '\n' ∉ msg) (htext : trim msg ≠ []) (hcolon : (trim msg).head? ≠ some ':')
  (hrest : ∀ c ∈ rest.head?, c = '\n')

include hmsg htext hcolon hrest

/-- An announcement on the line of a colon has the message behind that colon. -/
theorem infix_lineMessage (hy : '\n' ∉ y.dropWhile isLead) :
    trim msg <:+: (lineMessage (y ++ ':' :: (msg ++ rest))).toList := by
  rw [lineMessage, String.toList_ofList, List.dropWhile_append]
  split
  · have hstart : '\n' ∉ trimStart msg := fun h ↦ hmsg ((List.dropWhile_sublist isBlank).mem h)
    have hne : ¬ (msg.dropWhile isLead).isEmpty = true := by
      rw [dropWhile_isLead htext hcolon, List.isEmpty_iff]
      intro hnil
      rw [trim, hnil] at htext
      exact htext rfl
    rw [List.dropWhile_cons_of_pos (by decide), List.dropWhile_append, if_neg hne,
      dropWhile_isLead htext hcolon, restOfLine_append hstart hrest, trimStart, trim_dropWhile]
  · have hline : '\n' ∉ y.dropWhile isLead ++ ':' :: msg := by
      rw [List.mem_append, List.mem_cons, not_or, not_or]
      exact ⟨hy, by decide, hmsg⟩
    have hparts : y.dropWhile isLead ++ ':' :: (msg ++ rest)
        = y.dropWhile isLead ++ ':' :: msg ++ rest := by
      rw [List.append_assoc, List.cons_append]
    rw [hparts, restOfLine_append hline hrest, ← List.singleton_append, ← List.append_assoc]
    exact infix_trim_append _ msg

/-- A warning that starts in front of a colon has the message behind it, or ends on an earlier
line. -/
theorem infix_or_of_warningPattern {b : Option Char} {m : String} {used : Nat}
    (h : warningPattern b (x ++ ':' :: (msg ++ rest)) = some (m, used)) :
    trim msg <:+: m.toList ∨ ∃ z, z <:+ x ∧ '\n' ∈ z ∧ used + z.length ≤ x.length := by
  obtain ⟨r, hr, rfl, rfl⟩ := warningPattern_eq_some h
  -- the announcement ends before the colon
  obtain ⟨y, hy, rfl⟩ : ∃ y, y <:+ x ∧ r = y ++ ':' :: (msg ++ rest) := by
    obtain ⟨front, hfront, hnot⟩ := exists_of_afterAnnouncement? hr
    rcases List.append_eq_append_iff.1 hfront with ⟨more, rfl, hmore⟩ | ⟨more, rfl, hmore⟩
    · cases more with
      | nil => exact ⟨[], List.nil_suffix, hmore.symm⟩
      | cons c more =>
        rw [← (List.cons.inj hmore).1] at hnot
        exact absurd (List.mem_append_right x List.mem_cons_self) hnot
    · exact ⟨more, List.suffix_append front more, hmore⟩
  by_cases hline : '\n' ∈ y.dropWhile isLead
  · have hfeed := newline_mem_dropWhile_line hline
    have hend : (y.dropWhile isLead).dropWhile (· != '\n') <:+ x :=
      (List.dropWhile_suffix _).trans ((List.dropWhile_suffix _).trans hy)
    refine .inr ⟨_, hend, hfeed, ?_⟩
    have hbody : (y ++ ':' :: (msg ++ rest)).dropWhile isLead
        = y.dropWhile isLead ++ ':' :: (msg ++ rest) := by
      rw [List.dropWhile_append, if_neg]
      rw [List.isEmpty_iff]
      exact List.ne_nil_of_mem hline
    have hbehind : (y.dropWhile isLead ++ ':' :: (msg ++ rest)).dropWhile (· != '\n')
        = (y.dropWhile isLead).dropWhile (· != '\n') ++ ':' :: (msg ++ rest) := by
      rw [List.dropWhile_append, if_neg]
      rw [List.isEmpty_iff]
      exact List.ne_nil_of_mem hfeed
    have hle := hend.length_le
    rw [hbody, hbehind, List.length_append, List.length_append]
    omega
  · exact .inl (infix_lineMessage hmsg htext hcolon hrest hline)

/-- **Behind an announcement that ends at a colon the message is found**, whatever stands before. -/
theorem exists_mem_findAll_warningPattern {u₁ u₂ : List Char} (hu₂ : '\n' ∉ u₂)
    (hfound : (afterAnnouncement? (u₂ ++ ':' :: (msg ++ rest))).isSome = true) {skip : Nat}
    (hskip : skip ≤ u₁.length) (b : Option Char) :
    ∃ m ∈ findAll warningPattern b skip (u₁ ++ (u₂ ++ ':' :: (msg ++ rest))),
      trim msg <:+: m.toList := by
  induction u₁ generalizing skip b with
  | nil =>
    rw [List.length_nil, Nat.le_zero] at hskip
    obtain ⟨r, hr⟩ := Option.isSome_iff_exists.1 hfound
    have hpattern : ∃ m used,
        warningPattern b (u₂ ++ ':' :: (msg ++ rest)) = some (m, used) := by
      rw [warningPattern, hr]
      exact ⟨_, _, rfl⟩
    obtain ⟨m, used, hm⟩ := hpattern
    refine ⟨m, ?_, ?_⟩
    · obtain ⟨c, cs, hcons⟩ := List.exists_cons_of_ne_nil
        (List.append_ne_nil_of_right_ne_nil u₂ (List.cons_ne_nil ':' (msg ++ rest)))
      rw [hcons] at hm
      rw [hskip, List.nil_append, hcons, findAll, hm]
      exact List.mem_cons_self
    · rcases infix_or_of_warningPattern hmsg htext hcolon hrest hm with hin | ⟨z, hz, hfeed, -⟩
      · exact hin
      · exact absurd (hz.subset hfeed) hu₂
  | cons c u₁ ih =>
    cases skip with
    | succ skip => exact ih (Nat.le_of_succ_le_succ hskip) (some c)
    | zero =>
      rw [List.cons_append, findAll]
      split
      · rename_i m used hm
        rw [← List.cons_append, ← List.append_assoc] at hm
        rcases infix_or_of_warningPattern hmsg htext hcolon hrest hm with
          hin | ⟨z, hz, hfeed, hused⟩
        · exact ⟨m, List.mem_cons_self, hin⟩
        · -- the line that ends there is one before the announcement
          have hlong : u₂.length < z.length := by
            refine Nat.lt_of_not_le fun hle ↦ hu₂ ?_
            exact (List.suffix_of_suffix_length_le hz (List.suffix_append _ u₂) hle).subset hfeed
          rw [List.length_append, List.length_cons] at hused
          have hbefore : used - 1 ≤ u₁.length := by omega
          obtain ⟨m', hm', hin⟩ := ih hbefore (some c)
          exact ⟨m', List.mem_cons_of_mem m hm', hin⟩
      · exact ih (Nat.zero_le _) (some c)

end

/-! ## Names in announcements -/

section

variable {kind name : String}

theorem toList_warningLine (kind name msg : String) :
    (warningLine kind name msg).toList
      = kind.toList ++ ' ' :: (name.toList ++ (" Warning".toList ++ ':' :: ' ' :: msg.toList)) := by
  have hword : " Warning: ".toList = " Warning".toList ++ [':', ' '] := by decide
  have hblank : " ".toList = [' '] := rfl
  rw [warningLine, String.toList_append, String.toList_append, String.toList_append,
    String.toList_append, hword, hblank, List.append_assoc]
  rfl

/-- Behind a package or a class, a name or the word of the announcement may follow. -/
theorem afterAnnouncement?_kind (hkind : kind = "Package" ∨ kind = "Class") (r : List Char) :
    afterAnnouncement? (kind.toList ++ ' ' :: r)
      = ((afterWord? (r.dropWhile isBlank)).bind (after? "Warning")).or
        (after? "Warning" (r.dropWhile isBlank)) := by
  rcases hkind with rfl | rfl <;> rfl

theorem afterBlanks?_of_not {c : Char} (hc : isBlank c = false) (r : List Char) :
    afterBlanks? (c :: r) = none := by
  rw [afterBlanks?, hc]
  rfl

/-- A word that is followed by a blank is passed over with it. -/
theorem afterWord?_append {w : List Char} (hne : w ≠ []) (hw : w.all isWordChar = true)
    (r : List Char) : afterWord? (w ++ ' ' :: r) = some (r.dropWhile isBlank) := by
  obtain ⟨c, w, rfl⟩ := List.exists_cons_of_ne_nil hne
  obtain ⟨hc, hw⟩ := List.forall_mem_cons.1 (List.all_eq_true.1 hw)
  rw [List.cons_append, afterWord?, if_pos hc, List.dropWhile_append_of_pos hw,
    List.dropWhile_cons_of_neg (by decide)]
  rfl

/-- A text without blanks that holds something else than word characters is no word. -/
theorem afterWord?_eq_none {w : List Char} (hblank : ∀ c ∈ w, isBlank c = false)
    (hw : ¬ w.all isWordChar = true) (r : List Char) : afterWord? (w ++ r) = none := by
  cases w with
  | nil => exact absurd rfl hw
  | cons c w =>
    rw [List.cons_append, afterWord?]
    split
    · rename_i hc
      have hrest : w.dropWhile isWordChar ≠ [] := by
        rw [Ne, List.dropWhile_eq_nil_iff]
        exact fun h ↦ hw (List.all_eq_true.2 (List.forall_mem_cons.2 ⟨hc, h⟩))
      obtain ⟨d, v, hd⟩ := List.exists_cons_of_ne_nil hrest
      have hmem : d ∈ c :: w := by
        refine List.mem_cons_of_mem c ((List.dropWhile_sublist isWordChar).mem ?_)
        rw [hd]
        exact List.mem_cons_self
      rw [List.dropWhile_append, if_neg (by rwa [List.isEmpty_iff]), hd, List.cons_append]
      exact afterBlanks?_of_not (hblank d hmem) _
    · rfl

theorem dropWhile_isBlank_append {w : List Char} (hne : w ≠ [])
    (hblank : ∀ c ∈ w, isBlank c = false) (r : List Char) :
    (w ++ r).dropWhile isBlank = w ++ r := by
  obtain ⟨c, w, rfl⟩ := List.exists_cons_of_ne_nil hne
  have hc : isBlank c = false := hblank c List.mem_cons_self
  rw [List.cons_append, List.dropWhile_cons_of_neg (by rw [hc]; decide)]

variable (hkind : kind = "Package" ∨ kind = "Class")
  (hname : ∀ c ∈ name.toList, isBlank c = false)

include hkind hname

/-- On the line of a warning under such a name, an announcement ends at the first colon. -/
theorem exists_announcement_of_isHeard (hne : name.toList ≠ []) (h : IsHeard name) :
    ∃ u₁ u₂, kind.toList ++ ' ' :: (name.toList ++ " Warning".toList) = u₁ ++ u₂
      ∧ ∀ t, (afterAnnouncement? (u₂ ++ ':' :: t)).isSome = true := by
  have hbehind := dropWhile_isBlank_append hne hname
  have hline (t : List Char) :
      kind.toList ++ ' ' :: (name.toList ++ " Warning".toList) ++ ':' :: t
        = kind.toList ++ ' ' :: (name.toList ++ ' ' :: ("Warning".toList ++ ':' :: t)) := by
    have hword : " Warning".toList = ' ' :: "Warning".toList := by decide
    rw [hword]
    simp only [List.append_assoc, List.cons_append]
  rcases h with hw | ⟨more, hmore⟩ | ⟨a, ha, front, hfront⟩
  · refine ⟨[], _, (List.nil_append _).symm, fun t ↦ ?_⟩
    have hwarning : after? "Warning" (("Warning".toList ++ ':' :: t).dropWhile isBlank)
        = some (':' :: t) := after?_eq_some_iff.2 rfl
    rw [hline, afterAnnouncement?_kind hkind, hbehind, afterWord?_append hne hw, Option.bind_some,
      hwarning]
    rfl
  · refine ⟨[], _, (List.nil_append _).symm, fun t ↦ ?_⟩
    have hwarning : after? "Warning" (name.toList ++ ' ' :: ("Warning".toList ++ ':' :: t))
        = some (more ++ ' ' :: ("Warning".toList ++ ':' :: t)) := by
      rw [after?_eq_some_iff, ← hmore, List.append_assoc]
    rw [hline, afterAnnouncement?_kind hkind, hbehind, hwarning, Option.isSome_or,
      Option.isSome_some, Bool.or_true]
  · refine ⟨kind.toList ++ ' ' :: front, a.toList ++ " Warning".toList, ?_, fun t ↦ ?_⟩
    · rw [← hfront]
      simp only [List.append_assoc, List.cons_append]
    · have hannouncers : a = "LaTeX" ∨ a = "Package" ∨ a = "Class" := by
        simpa [announcers] using ha
      rcases hannouncers with rfl | rfl | rfl <;> rfl

/-- And only such names have an announcement on the line of a warning without another one. -/
theorem isHeard_of_announcement {place r : List Char}
    (hplace : place <:+ (warningLine kind name "x").toList)
    (h : afterAnnouncement? place = some r) : IsHeard name := by
  have hnonempty : ∀ a ∈ announcers, a.toList ≠ [] := by decide
  have hbare : ∀ a ∈ announcers, ' ' ∉ a.toList := by decide
  have hends : ∀ w ∈ (' ' :: "Warning: x".toList).tails, ∀ a ∈ announcers, ¬ a.toList <+: w := by
    decide
  have hkinds : ∀ w ∈ kind.toList.tails, ∀ a ∈ announcers, a.toList <+: w → w = a.toList := by
    rcases hkind with rfl | rfl <;> decide
  have hline : (warningLine kind name "x").toList
      = kind.toList ++ ([' '] ++ (name.toList ++ ' ' :: "Warning: x".toList)) :=
    toList_warningLine kind name "x"
  obtain ⟨a, ha, r₁, r₂, hstart, hr₁, hbehind⟩ := afterAnnouncement?_eq_some h
  have hopens : a.toList <+: place := hstart ▸ List.prefix_append _ _
  rw [hline] at hplace
  -- the announcement may start at the kind, at the blank behind it, in the name or behind that
  rcases suffix_append_cases hplace with ⟨w, -, hw, rfl⟩ | hplace
  · have hw' : w = a.toList :=
      hkinds w ((List.mem_tails _ _).2 hw) a ha (isPrefix_of_isPrefix_append hopens (hbare a ha))
    rw [hw', List.append_cancel_left_eq] at hstart
    by_cases hword : name.toList.all isWordChar = true
    · exact .inl hword
    have hne : name.toList ≠ [] := fun hnil ↦ hword (by rw [hnil]; rfl)
    have hr₂ : r₂ = name.toList ++ ' ' :: "Warning: x".toList := by
      rw [← hstart] at hr₁
      exact (Option.some.inj hr₁).symm.trans (dropWhile_isBlank_append hne hname _)
    rw [hr₂] at hbehind
    rcases hbehind with hafter | hwarning
    · rw [afterWord?_eq_none hname hword] at hafter
      exact absurd hafter.symm (Option.some_ne_none _)
    · have hstarts := List.prefix_append "Warning".toList r
      rw [← hwarning] at hstarts
      exact .inr (.inl (isPrefix_of_isPrefix_append hstarts (by decide)))
  rcases suffix_append_cases hplace with ⟨w, hne, hw, rfl⟩ | hplace
  · have hblank : w = [' '] := by
      rcases List.suffix_cons_iff.1 hw with hw | hw
      · exact hw
      · exact absurd (List.suffix_nil.1 hw) hne
    rw [hblank] at hopens
    have hnil : a.toList <+: [] := isPrefix_of_isPrefix_append (u := []) hopens (hbare a ha)
    exact absurd (List.prefix_nil.1 hnil) (hnonempty a ha)
  rcases suffix_append_cases hplace with ⟨w, -, hw, rfl⟩ | hplace
  · obtain ⟨more, rfl⟩ := isPrefix_of_isPrefix_append hopens (hbare a ha)
    rw [List.append_assoc, List.append_cancel_left_eq] at hstart
    cases more with
    | nil =>
      rw [List.append_nil] at hw
      exact .inr (.inr ⟨a, ha, hw⟩)
    | cons c more =>
      have hc : isBlank c = false :=
        hname c (hw.subset (List.mem_append_right _ List.mem_cons_self))
      rw [← hstart, List.cons_append, afterBlanks?_of_not hc] at hr₁
      exact absurd hr₁.symm (Option.some_ne_none r₂)
  · exact absurd hopens (hends place ((List.mem_tails _ _).2 hplace) a ha)

end

/-! ## Lines of a log -/

/-- A line of a text, with what stands before and behind it. -/
theorem exists_of_mem_splitAt {cs l : List Char} (h : l ∈ splitAt '\n' cs) :
    ∃ u rest, cs = u ++ (l ++ rest) ∧ ∀ c ∈ rest.head?, c = '\n' := by
  obtain ⟨first, ls, hsplit, hcs⟩ := exists_splitAt_eq_cons '\n' cs
  rw [hsplit] at h
  rcases List.mem_cons.1 h with rfl | h
  · exact ⟨[], _, hcs, head?_flatMap_newline ls⟩
  · obtain ⟨before, after, rfl⟩ := List.append_of_mem h
    refine ⟨first ++ before.flatMap ('\n' :: ·) ++ ['\n'], _, ?_, head?_flatMap_newline after⟩
    rw [hcs, List.flatMap_append, List.flatMap_cons]
    simp only [List.append_assoc, List.cons_append, List.nil_append]

/-- A text without line ends is a log of one line. -/
theorem logLines_of_not_mem {log : String} (hreturn : '\r' ∉ log.toList)
    (hfeed : '\n' ∉ log.toList) : logLines log = [log.toList] := by
  rw [logLines, unifyNewlines_of_not_mem hreturn, splitAt_of_not_mem hfeed]

/-- The warnings of a log are the messages that are found, unless there is nothing in them. -/
theorem mem_warnings_iff {log : String} {m : Message} :
    m ∈ (LogReport.ofText log).warnings
      ↔ ∃ text ∈ findAll warningPattern none 0 (unifyNewlines log.toList),
        text ≠ "" ∧ ⟨none, text, .warning⟩ = m := by
  have hwarnings : (LogReport.ofText log).warnings
      = ((findAll warningPattern none 0 (unifyNewlines log.toList)).filter (!·.isEmpty)).map
        (⟨none, ·, .warning⟩) := rfl
  have hempty (text : String) : (!text.isEmpty) = true ↔ text ≠ "" := by
    rw [Bool.not_eq_true', ← Bool.not_eq_true, String.isEmpty_iff]
  simp only [hwarnings, List.mem_map, List.mem_filter, hempty, and_assoc]

section

variable {kind name : String}

/-- The line of a warning is one line if its parts are. -/
theorem not_mem_warningLine {c : Char} (hc : c = '\r' ∨ c = '\n')
    (hkind : kind = "Package" ∨ kind = "Class") (hname : ∀ c ∈ name.toList, isBlank c = false) :
    c ∉ (warningLine kind name "x").toList := by
  have hkind' : c ∉ kind.toList := by
    rcases hkind with rfl | rfl <;> rcases hc with rfl | rfl <;> decide
  have hname' : c ∉ name.toList := by
    intro hmem
    have hblank := hname c hmem
    rcases hc with rfl | rfl <;> exact absurd hblank (by decide)
  have hrest : c ∉ ' ' :: (" Warning".toList ++ ':' :: ' ' :: "x".toList) := by
    rcases hc with rfl | rfl <;> decide
  rw [toList_warningLine]
  rw [List.mem_cons, not_or] at hrest
  rw [List.mem_append, List.mem_cons, List.mem_append, not_or, not_or, not_or]
  exact ⟨hkind', hrest.1, hname', hrest.2⟩

/-- **The names of warnings.**  For the name of a package or class, no warning that stands on a line
of a log is lost, whatever the log and the message, exactly if the name is heard. -/
theorem LogReport.warnings_ofText_heard_iff (hkind : kind = "Package" ∨ kind = "Class")
    (hne : name ≠ "") (hname : ∀ c ∈ name.toList, isBlank c = false) :
    (∀ log msg : String, (warningLine kind name msg).toList ∈ logLines log →
        trim msg.toList ≠ [] → (trim msg.toList).head? ≠ some ':' →
          ∃ m ∈ (LogReport.ofText log).warnings, trim msg.toList <:+: m.message.toList)
      ↔ IsHeard name := by
  constructor
  · intro h
    have hlines := logLines_of_not_mem (not_mem_warningLine (.inl rfl) hkind hname)
      (not_mem_warningLine (.inr rfl) hkind hname)
    have hline : (warningLine kind name "x").toList ∈ logLines (warningLine kind name "x") := by
      rw [hlines]
      exact List.mem_singleton_self _
    obtain ⟨m, hm, -⟩ := h _ "x" hline (by decide) (by decide)
    obtain ⟨text, htext, -, -⟩ := mem_warnings_iff.1 hm
    obtain ⟨b, place, used, hplace, hfound⟩ := exists_of_mem_findAll htext
    obtain ⟨r, hr, -, -⟩ := warningPattern_eq_some hfound
    rw [unifyNewlines_of_not_mem (not_mem_warningLine (.inl rfl) hkind hname)] at hplace
    exact isHeard_of_announcement hkind hname hplace hr
  · intro heard log msg hline htext hcolon
    have hne' : name.toList ≠ [] := by simpa using hne
    obtain ⟨u₁, u₂, hparts, hannounced⟩ :=
      exists_announcement_of_isHeard hkind hname hne' heard
    have hchars : (warningLine kind name msg).toList = u₁ ++ (u₂ ++ ':' :: ' ' :: msg.toList) := by
      rw [toList_warningLine, ← List.append_assoc u₁, ← hparts]
      simp only [List.append_assoc, List.cons_append]
    have hfeed : '\n' ∉ u₁ ++ (u₂ ++ ':' :: ' ' :: msg.toList) :=
      hchars ▸ not_mem_of_mem_splitAt hline
    obtain ⟨u, rest, hlog, hrest⟩ := exists_of_mem_splitAt hline
    simp only [List.mem_append, List.mem_cons, not_or] at hfeed
    obtain ⟨-, hu₂, -, hblank, hmsg⟩ := hfeed
    have hmsg' : '\n' ∉ ' ' :: msg.toList := by
      rw [List.mem_cons, not_or]
      exact ⟨hblank, hmsg⟩
    have hskip : 0 ≤ (u ++ u₁).length := Nat.zero_le _
    obtain ⟨text, hfound, hin⟩ := exists_mem_findAll_warningPattern hmsg' htext hcolon hrest hu₂
      (hannounced _) hskip none
    have hsplit : unifyNewlines log.toList
        = u ++ u₁ ++ (u₂ ++ ':' :: (' ' :: msg.toList ++ rest)) := by
      rw [hlog, hchars]
      simp only [List.append_assoc, List.cons_append]
    rw [← hsplit] at hfound
    refine ⟨⟨none, text, .warning⟩, mem_warnings_iff.2 ⟨text, hfound, ?_, rfl⟩, hin⟩
    rintro rfl
    exact htext (List.infix_nil.1 hin)

end

/-- A package named by a word is heard, also if its warning stands behind another one. -/
theorem LogReport.warnings_ofText_hyperref :
    ∃ m ∈ (LogReport.ofText "LaTeX Warning:\nPackage hyperref Warning: Token removed.\n").warnings,
      trim "Token removed.".toList <:+: m.message.toList := by
  have hkind : "Package" = "Package" ∨ "Package" = "Class" := .inl rfl
  have hne : "hyperref" ≠ "" := by decide
  have hall : "hyperref".toList.all (!isBlank ·) = true := by decide
  have hname : ∀ c ∈ "hyperref".toList, isBlank c = false := by simpa using hall
  have heard : IsHeard "hyperref" := by decide
  have hline : (warningLine "Package" "hyperref" "Token removed.").toList
      ∈ logLines "LaTeX Warning:\nPackage hyperref Warning: Token removed.\n" := by decide
  exact (warnings_ofText_heard_iff hkind hne hname).2 heard _ _ hline (by decide) (by decide)

/-- A class with a hyphen in its name is not heard: its warnings get lost. -/
theorem LogReport.warnings_ofText_tufteHandout :
    (warningLine "Class" "tufte-handout" "No author given.").toList
        ∈ logLines "Class tufte-handout Warning: No author given.\n"
      ∧ (LogReport.ofText "Class tufte-handout Warning: No author given.\n").warnings = [] := by
  decide

end TexWeave
