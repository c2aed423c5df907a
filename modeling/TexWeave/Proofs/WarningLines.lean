import TexWeave.Proofs.LogErrors

/-!
# Warnings over several lines

A long warning is broken into lines, and the lines that continue it are indented.  The walk through
a log takes one line for the message of a warning: the first one behind the announcement that holds
more than colons and blanks.  This file compares that with the message of all the lines.

* `announcements` — the texts behind the announcements that the walk finds.
* `lineMessage`, `fullMessage` — the message that is reported, and the one with the lines that
  continue it.
* `LogReport.warnings_ofText_lines` — the warnings of a log, and when nothing of them is missing.
-/

set_option autoImplicit false

namespace TexWeave

open Text

namespace Text

/-! ## Lines put together as characters -/

/-- Lines with a character between two neighbours. -/
def joined (sep : Char) : List (List Char) → List Char
  | [] => []
  | l :: ls => l ++ ls.flatMap (sep :: ·)

theorem joined_splitAt (sep : Char) (cs : List Char) : joined sep (splitAt sep cs) = cs := by
  obtain ⟨l, ls, hsplit, hcs⟩ := exists_splitAt_eq_cons sep cs
  rw [hsplit, joined, ← hcs]

/-- In lines of which the first ones are dropped, the separators are dropped with them. -/
theorem dropWhile_joined {p : Char → Bool} {sep : Char} (hsep : p sep = true)
    {before : List (List Char)} {l : List Char} (hbefore : ∀ m ∈ before, m.all p = true)
    (hl : ¬ l.all p = true) (after : List (List Char)) :
    (joined sep (before ++ l :: after)).dropWhile p
      = l.dropWhile p ++ after.flatMap (sep :: ·) := by
  have hline (rest : List Char) : (l ++ rest).dropWhile p = l.dropWhile p ++ rest := by
    rw [List.dropWhile_append, if_neg]
    rwa [List.isEmpty_iff, List.dropWhile_eq_nil_iff, ← List.all_eq_true]
  have hflat (ms : List (List Char)) (hms : ∀ m ∈ ms, m.all p = true) :
      ((ms ++ l :: after).flatMap (sep :: ·)).dropWhile p
        = l.dropWhile p ++ after.flatMap (sep :: ·) := by
    have hdrop : ∀ c ∈ ms.flatMap (sep :: ·) ++ [sep], p c = true := by
      intro c hc
      rcases List.mem_append.1 hc with hc | hc
      · obtain ⟨m, hm, hc⟩ := List.mem_flatMap.1 hc
        rcases List.mem_cons.1 hc with rfl | hc
        · exact hsep
        · exact List.all_eq_true.1 (hms m hm) c hc
      · rw [List.mem_singleton.1 hc, hsep]
    rw [List.flatMap_append, List.flatMap_cons, List.cons_append, ← List.singleton_append,
      ← List.append_assoc, List.dropWhile_append_of_pos hdrop, hline]
  cases before with
  | nil => exact hline _
  | cons m ms =>
    obtain ⟨hm, hms⟩ := List.forall_mem_cons.1 hbefore
    rw [List.cons_append, joined, List.dropWhile_append_of_pos (List.all_eq_true.1 hm),
      hflat ms hms]

/-- Lines that are dropped as a whole. -/
theorem dropWhile_joined_of_all {p : Char → Bool} {sep : Char} (hsep : p sep = true)
    {ls : List (List Char)} (hls : ∀ m ∈ ls, m.all p = true) :
    (joined sep ls).dropWhile p = [] := by
  rw [List.dropWhile_eq_nil_iff]
  cases ls with
  | nil => exact fun c hc ↦ absurd hc List.not_mem_nil
  | cons l ls =>
    obtain ⟨hl, hls⟩ := List.forall_mem_cons.1 hls
    intro c hc
    rcases List.mem_append.1 hc with hc | hc
    · exact List.all_eq_true.1 hl c hc
    · obtain ⟨m, hm, hc⟩ := List.mem_flatMap.1 hc
      rcases List.mem_cons.1 hc with rfl | hc
      · exact hsep
      · exact List.all_eq_true.1 (hls m hm) c hc

/-- The lines behind the first of the end of a text are lines of the text. -/
theorem tail_splitAt_suffix (sep : Char) (front cs : List Char) :
    (splitAt sep cs).tail <:+ (splitAt sep (front ++ cs)).tail := by
  induction front with
  | nil => exact List.suffix_rfl
  | cons c r ih =>
    rw [List.cons_append, splitAt]
    split
    · exact ih.trans (List.tail_suffix _)
    · split
      · rename_i hr
        exact absurd hr (splitAt_ne_nil sep (r ++ cs))
      · rename_i l ls hr
        rw [hr] at ih
        exact ih

/-! ## What trimming keeps -/

/-- Trimming takes away blanks only. -/
theorem countP_trim (cs : List Char) :
    (trim cs).countP (!isBlank ·) = cs.countP (!isBlank ·) := by
  have hdrop (ds : List Char) :
      (ds.dropWhile isBlank).countP (!isBlank ·) = ds.countP (!isBlank ·) := by
    have htaken : (ds.takeWhile isBlank).countP (!isBlank ·) = 0 := by
      rw [List.countP_eq_zero]
      intro c hc
      have hblank := List.mem_takeWhile_imp hc
      simp [hblank]
    rw [← Nat.zero_add ((ds.dropWhile isBlank).countP _), ← htaken, ← List.countP_append,
      List.takeWhile_append_dropWhile]
  rw [trim, trimEnd, dropEnd, List.countP_reverse, hdrop, List.countP_reverse, trimStart, hdrop]

theorem trim_append_ne {a b : List Char} (hb : ¬ b.all isBlank = true) :
    trim (a ++ b) ≠ trim a := by
  intro h
  have hcount := congrArg (List.countP (!isBlank ·)) h
  rw [countP_trim, countP_trim, List.countP_append, Nat.add_eq_left, List.countP_eq_zero] at hcount
  refine hb (List.all_eq_true.2 fun c hc ↦ ?_)
  simpa using hcount c hc

end Text

/-! ## Announcements -/

/-- Colons and blanks, which stand between an announcement and its message. -/
def isLead (c : Char) : Bool := c == ':' || isBlank c

/-- An announcement, with the text behind it; it uses as many characters as the warning does. -/
def announcementPattern : Pattern (List Char) := fun _ cs ↦
  (afterAnnouncement? cs).map fun r ↦
    (r, cs.length - ((r.dropWhile isLead).length - (restOfLine (r.dropWhile isLead)).length))

/-- The texts behind the announcements of warnings that are found in a text. -/
def announcements (cs : List Char) : List (List Char) := findAll announcementPattern none 0 cs

/-- The message that is reported of the text behind an announcement. -/
def lineMessage (r : List Char) : String :=
  String.ofList (trim (restOfLine (r.dropWhile isLead)))

theorem warningPattern_eq (b : Option Char) (cs : List Char) :
    warningPattern b cs = (announcementPattern b cs).map fun m ↦ (lineMessage m.1, m.2) := by
  rw [warningPattern, announcementPattern, Option.map_map]
  rfl

theorem findAll_warningPattern (cs : List Char) :
    findAll warningPattern none 0 cs = (announcements cs).map lineMessage :=
  findAll_map lineMessage warningPattern_eq none 0 cs

/-- A warning is used up to the end of the line its message stands on. -/
theorem warningPattern_eq_some {b : Option Char} {cs : List Char} {m : String} {used : Nat}
    (h : warningPattern b cs = some (m, used)) :
    ∃ r, afterAnnouncement? cs = some r ∧ m = lineMessage r
      ∧ used = cs.length - ((r.dropWhile isLead).dropWhile (· != '\n')).length := by
  rw [warningPattern_eq, announcementPattern, Option.map_map] at h
  obtain ⟨r, hr, hpair⟩ := Option.map_eq_some_iff.1 h
  obtain ⟨hm, hused⟩ := Prod.mk.inj hpair
  have hlength := length_restOfLine_add (r.dropWhile isLead)
  refine ⟨r, hr, hm.symm, ?_⟩
  rw [← hused]
  dsimp only
  rw [← hlength, Nat.add_sub_cancel_left]

section

variable {cs r : List Char}

theorem afterBlanks?_eq_some (h : afterBlanks? cs = some r) :
    ∃ blanks, cs = blanks ++ r ∧ ∀ c ∈ blanks, isBlank c = true := by
  cases cs with
  | nil => cases h
  | cons c cs =>
    rw [afterBlanks?] at h
    split at h
    · rename_i hc
      refine ⟨c :: cs.takeWhile isBlank, ?_, ?_⟩
      · rw [List.cons_append, ← Option.some.inj h, List.takeWhile_append_dropWhile]
      · exact List.forall_mem_cons.2 ⟨hc, fun x hx ↦ List.mem_takeWhile_imp hx⟩
    · cases h

theorem afterWord?_eq_some (h : afterWord? cs = some r) :
    ∃ word blanks, cs = word ++ (blanks ++ r) ∧ (∀ c ∈ word, isWordChar c = true)
      ∧ ∀ c ∈ blanks, isBlank c = true := by
  cases cs with
  | nil => cases h
  | cons c cs =>
    rw [afterWord?] at h
    split at h
    · rename_i hc
      obtain ⟨blanks, hcs, hblanks⟩ := afterBlanks?_eq_some h
      refine ⟨c :: cs.takeWhile isWordChar, blanks, ?_, ?_, hblanks⟩
      · rw [List.cons_append, ← hcs, List.takeWhile_append_dropWhile]
      · exact List.forall_mem_cons.2 ⟨hc, fun x hx ↦ List.mem_takeWhile_imp hx⟩
    · cases h

/-- What an announcement consists of. -/
theorem afterAnnouncement?_eq_some (h : afterAnnouncement? cs = some r) :
    ∃ a ∈ announcers, ∃ r₁ r₂, cs = a.toList ++ r₁ ∧ afterBlanks? r₁ = some r₂
      ∧ (afterWord? r₂ = some ("Warning".toList ++ r) ∨ r₂ = "Warning".toList ++ r) := by
  rw [afterAnnouncement?] at h
  obtain ⟨r₁, hr₁, h⟩ := Option.bind_eq_some_iff.1 h
  obtain ⟨r₂, hr₂, h⟩ := Option.bind_eq_some_iff.1 h
  obtain ⟨a, ha, hstart⟩ := List.exists_of_findSome?_eq_some hr₁
  refine ⟨a, ha, r₁, r₂, after?_eq_some_iff.1 hstart, hr₂, ?_⟩
  rcases Option.or_eq_some_iff.1 h with h | ⟨-, h⟩
  · obtain ⟨r₃, hr₃, hword⟩ := Option.bind_eq_some_iff.1 h
    exact .inl (after?_eq_some_iff.1 hword ▸ hr₃)
  · exact .inr (after?_eq_some_iff.1 h)

/-- There is no colon in an announcement: the first one stands behind it. -/
theorem exists_of_afterAnnouncement? (h : afterAnnouncement? cs = some r) :
    ∃ front, cs = front ++ r ∧ ':' ∉ front := by
  have hblank {blanks : List Char} (h : ∀ c ∈ blanks, isBlank c = true) : ':' ∉ blanks :=
    fun hc ↦ absurd (h ':' hc) (by decide)
  have hword {word : List Char} (h : ∀ c ∈ word, isWordChar c = true) : ':' ∉ word :=
    fun hc ↦ absurd (h ':' hc) (by decide)
  have hannouncers : ∀ a ∈ announcers, ':' ∉ a.toList := by decide
  have hwarning : ':' ∉ "Warning".toList := by decide
  obtain ⟨a, ha, r₁, r₂, rfl, hr₁, hbehind⟩ := afterAnnouncement?_eq_some h
  obtain ⟨blanks, rfl, hblanks⟩ := afterBlanks?_eq_some hr₁
  rcases hbehind with hr₂ | rfl
  · obtain ⟨word, blanks', rfl, hw, hblanks'⟩ := afterWord?_eq_some hr₂
    refine ⟨a.toList ++ (blanks ++ (word ++ (blanks' ++ "Warning".toList))), ?_, ?_⟩
    · simp only [List.append_assoc]
    · simp only [List.mem_append, not_or]
      exact ⟨hannouncers a ha, hblank hblanks, hword hw, hblank hblanks', hwarning⟩
  · refine ⟨a.toList ++ (blanks ++ "Warning".toList), ?_, ?_⟩
    · simp only [List.append_assoc]
    · simp only [List.mem_append, not_or]
      exact ⟨hannouncers a ha, hblank hblanks, hwarning⟩

theorem suffix_of_mem_announcements (h : r ∈ announcements cs) : r <:+ cs := by
  obtain ⟨b, place, used, hplace, hfound⟩ := exists_of_mem_findAll h
  obtain ⟨r', hr', hpair⟩ := Option.map_eq_some_iff.1 hfound
  obtain ⟨front, hfront, -⟩ := exists_of_afterAnnouncement? hr'
  rw [(Prod.mk.inj hpair).1] at hfront
  exact (hfront ▸ List.suffix_append front r).trans hplace

end

/-! ## The lines of a warning -/

/-- A line that continues the one before it: it opens with a blank, and there is text behind. -/
def continues (l : List Char) : Bool := l.head?.any isBlank && !l.all isBlank

/-- The lines of a warning, given the text behind its announcement: the rest of the first line, and
the lines behind it that continue it. -/
def warningLines (r : List Char) : List (List Char) :=
  match splitAt '\n' r with
  | [] => []
  | l :: ls => l :: ls.takeWhile continues

/-- The message of a warning with all its lines, a blank between two of them. -/
def fullMessage (r : List Char) : String :=
  String.ofList (trim ((joined ' ' (warningLines r)).dropWhile isLead))

section

variable {r l : List Char} {before after : List (List Char)}

/-- The reported message is the first line that has one. -/
theorem lineMessage_eq (hr : splitAt '\n' r = before ++ l :: after)
    (hbefore : ∀ m ∈ before, m.all isLead = true) (hl : ¬ l.all isLead = true) :
    lineMessage r = String.ofList (trim (l.dropWhile isLead)) := by
  have hline : '\n' ∉ l := by
    have hmem : l ∈ splitAt '\n' r := by
      rw [hr]
      exact List.mem_append_right before List.mem_cons_self
    exact not_mem_of_mem_splitAt hmem
  have hinside : '\n' ∉ l.dropWhile isLead := fun h ↦
    hline ((List.dropWhile_sublist isLead).mem h)
  rw [lineMessage, ← joined_splitAt '\n' r, hr, dropWhile_joined (by decide) hbefore hl,
    restOfLine_append hinside (head?_flatMap_newline after)]

theorem trim_ne_nil_of_lead (hl : ¬ l.all isLead = true) : trim (l.dropWhile isLead) ≠ [] := by
  rw [Ne, trim_eq_nil_iff]
  intro hblank
  have hlead : ∀ c ∈ l.dropWhile isLead, isLead c = true := fun c hc ↦ by
    rw [isLead, List.all_eq_true.1 hblank c hc, Bool.or_true]
  have hnil := List.dropWhile_eq_nil_iff.2 hlead
  rw [List.dropWhile_idempotent, List.dropWhile_eq_nil_iff, ← List.all_eq_true] at hnil
  exact hl hnil

/-- The lines of a warning are the first ones behind the announcement. -/
theorem warningLines_isPrefix (r : List Char) : warningLines r <+: splitAt '\n' r := by
  rw [warningLines]
  split
  · exact List.nil_prefix
  · rename_i l ls hr
    rw [hr]
    exact (List.prefix_cons_inj l).2 (List.takeWhile_prefix continues)

theorem continues_of_mem_warningLines {m : List Char}
    (h : warningLines r = before ++ l :: after) (hm : m ∈ after) : continues m = true := by
  rw [warningLines] at h
  split at h
  · exact absurd h.symm (List.append_ne_nil_of_right_ne_nil _ (List.cons_ne_nil _ _))
  · rename_i first ls hr
    have htaken : m ∈ ls.takeWhile continues := by
      cases before with
      | nil =>
        rw [(List.cons.inj h).2]
        exact hm
      | cons x before =>
        rw [(List.cons.inj h).2]
        exact List.mem_append_right before (List.mem_cons_of_mem l hm)
    exact List.mem_takeWhile_imp htaken

theorem not_all_isBlank_of_continues {m : List Char} (h : continues m = true) :
    ¬ m.all isBlank = true := by
  rw [continues, Bool.and_eq_true, Bool.not_eq_true'] at h
  rw [h.2]
  exact Bool.false_ne_true

/-- The reported message is the whole one exactly if the line it stands on is the last line of the
warning. -/
theorem lineMessage_eq_fullMessage_iff (hr : splitAt '\n' r = before ++ l :: after)
    (hbefore : ∀ m ∈ before, m.all isLead = true) (hl : ¬ l.all isLead = true) :
    lineMessage r = fullMessage r ↔ warningLines r = before ++ [l] := by
  have htext := trim_ne_nil_of_lead hl
  rw [lineMessage_eq hr hbefore hl, fullMessage, String.ofList_inj]
  obtain ⟨t, ht⟩ := warningLines_isPrefix r
  -- the lines of the warning end before the message, or they reach it
  have hreach : (∀ m ∈ warningLines r, m.all isLead = true)
      ∨ ∃ more, warningLines r = before ++ l :: more := by
    rcases List.append_eq_append_iff.1 (ht.trans hr) with ⟨more, hmore, -⟩ | ⟨more, hmore, hl'⟩
    · refine .inl fun m hm ↦ hbefore m ?_
      rw [hmore]
      exact List.mem_append_left more hm
    · cases more with
      | nil =>
        rw [List.append_nil] at hmore
        exact .inl (hmore ▸ hbefore)
      | cons x more =>
        obtain ⟨rfl, -⟩ := List.cons.inj hl'
        exact .inr ⟨more, hmore⟩
  rcases hreach with hshort | ⟨more, hmore⟩
  · rw [dropWhile_joined_of_all (by decide) hshort]
    refine ⟨fun h ↦ absurd h htext, fun h ↦ absurd (hshort l ?_) hl⟩
    rw [h]
    exact List.mem_append_right before List.mem_cons_self
  · rw [hmore, dropWhile_joined (by decide) hbefore hl, List.append_cancel_left_eq]
    cases more with
    | nil =>
      rw [List.flatMap_nil, List.append_nil]
      exact ⟨fun _ ↦ rfl, fun _ ↦ rfl⟩
    | cons m more =>
      have hm := not_all_isBlank_of_continues
        (continues_of_mem_warningLines hmore List.mem_cons_self)
      have hblank : ¬ ((m :: more).flatMap (' ' :: ·)).all isBlank = true := by
        rw [List.all_eq_true] at hm ⊢
        refine fun hall ↦ hm fun c hc ↦ hall c ?_
        exact List.mem_flatMap.2 ⟨m, List.mem_cons_self, List.mem_cons_of_mem ' ' hc⟩
      exact ⟨fun h ↦ absurd h.symm (trim_append_ne hblank),
        fun h ↦ absurd (List.cons.inj h).2 (List.cons_ne_nil m more)⟩

/-- In lines that hold nothing but colons and blanks there is no message. -/
theorem lineMessage_eq_fullMessage_of_all (hr : ∀ m ∈ splitAt '\n' r, m.all isLead = true) :
    lineMessage r = fullMessage r := by
  have hfull : ∀ m ∈ warningLines r, m.all isLead = true := fun m hm ↦
    hr m ((warningLines_isPrefix r).subset hm)
  rw [fullMessage, dropWhile_joined_of_all (by decide) hfull, lineMessage,
    ← joined_splitAt '\n' r, dropWhile_joined_of_all (by decide) hr]
  rfl

/-- The reported message lacks nothing exactly if it stands on the last line of the warning, if it
stands anywhere. -/
theorem lineMessage_eq_fullMessage (r : List Char) :
    lineMessage r = fullMessage r ↔ ∀ before l after, splitAt '\n' r = before ++ l :: after →
      (∀ m ∈ before, m.all isLead = true) → ¬ l.all isLead = true →
        warningLines r = before ++ [l] := by
  constructor
  · intro h before l after hr hbefore hl
    exact (lineMessage_eq_fullMessage_iff hr hbefore hl).1 h
  · intro h
    by_cases hall : ∀ m ∈ splitAt '\n' r, m.all isLead = true
    · exact lineMessage_eq_fullMessage_of_all hall
    · have hsome : ((splitAt '\n' r).find? fun m ↦ !m.all isLead).isSome = true := by
        simpa using hall
      obtain ⟨l, hl⟩ := Option.isSome_iff_exists.1 hsome
      obtain ⟨hlead, before, after, hr, hbefore⟩ := List.find?_eq_some_iff_append.1 hl
      have hlead : ¬ l.all isLead = true := by simpa using hlead
      have hbefore : ∀ m ∈ before, m.all isLead = true := fun m hm ↦ by simpa using hbefore m hm
      exact (lineMessage_eq_fullMessage_iff hr hbefore hlead).2 (h before l after hr hbefore hlead)

end

/-- **What is reported of a warning.**  The message is the first line behind the announcement that
holds more than colons and blanks.  So a warning is reported as a whole, with all the lines that
continue it and nothing behind them, exactly if this line is the last one of the warning. -/
theorem LogReport.warnings_ofText_lines (log : String) :
    (LogReport.ofText log).warnings
        = (((announcements (unifyNewlines log.toList)).map lineMessage).filter (!·.isEmpty)).map
          (⟨none, ·, .warning⟩)
      ∧ ∀ r ∈ announcements (unifyNewlines log.toList),
        (splitAt '\n' r).tail <:+ logLines log
        ∧ (lineMessage r = fullMessage r ↔ ∀ before l after, splitAt '\n' r = before ++ l :: after →
          (∀ m ∈ before, m.all isLead = true) → ¬ l.all isLead = true →
            warningLines r = before ++ [l]) := by
  refine ⟨?_, fun r hr ↦ ⟨?_, lineMessage_eq_fullMessage r⟩⟩
  · rw [← findAll_warningPattern]
    rfl
  · obtain ⟨front, hfront⟩ := suffix_of_mem_announcements hr
    rw [logLines, ← hfront]
    exact (tail_splitAt_suffix '\n' front r).trans (List.tail_suffix _)

/-- Of a warning that goes on in an indented line, the first line is reported. -/
theorem LogReport.warnings_ofText_indented :
    (LogReport.ofText "LaTeX Warning: Label\n  multiply defined.\n").warnings
        = [⟨none, "Label", .warning⟩]
      ∧ announcements "LaTeX Warning: Label\n  multiply defined.\n".toList
        = [": Label\n  multiply defined.\n".toList]
      ∧ fullMessage ": Label\n  multiply defined.\n".toList = "Label   multiply defined." := by
  decide

end TexWeave
