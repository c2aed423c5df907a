import TexWeave.Proofs.LogWalk
import TexWeave.Proofs.Paths

/-!
# Errors in a log

The pattern for errors lets blanks stand between an exclamation mark and the text of the error, and
a line feed is a blank.  So a line with nothing behind its mark takes the next line that is not
blank for its text, even if that is an error of its own.  This file describes the errors by the
lines of the log alone, and says for which logs each error has the text of its own line.

* `errorTexts` — the texts of the errors, from line to line; a mark without a text is carried along.
* `errorPlaces` — the same with the lines behind each error; `foundErrors_lines` is the walk through
  a text against its lines, by induction on them.
* `LogReport.errors_ofText_lines` — the errors of a log are these texts, and they are the texts of
  the lines that open with a mark exactly if only blank lines stand behind a bare mark.
-/

set_option autoImplicit false

namespace TexWeave

open Text

namespace Text

/-! ## Blanks -/

theorem trim_eq_nil_iff {cs : List Char} : trim cs = [] ↔ cs.all isBlank = true := by
  rw [trim, trimEnd, dropEnd_eq_rdropWhile, List.rdropWhile_eq_nil_iff, List.all_eq_true]
  constructor
  · intro h
    have hnil : (cs.dropWhile isBlank).dropWhile isBlank = [] := List.dropWhile_eq_nil_iff.2 h
    rw [List.dropWhile_idempotent] at hnil
    exact List.dropWhile_eq_nil_iff.1 hnil
  · intro h
    rw [trimStart, List.dropWhile_eq_nil_iff.2 h]
    exact fun c hc ↦ absurd hc List.not_mem_nil

theorem trim_dropWhile (cs : List Char) : trim (cs.dropWhile isBlank) = trim cs := by
  rw [trim, trim, trimStart, trimStart, List.dropWhile_idempotent]

end Text

/-! ## Errors by lines -/

/-- The lines of a log. -/
def logLines (log : String) : List (List Char) := splitAt '\n' (unifyNewlines log.toList)

/-- What stands behind the exclamation mark that a line opens with. -/
def behindMark? : List Char → Option (List Char)
  | '!' :: r => some r
  | _ => none

/-- A mark without a text. -/
def IsBareMark (l : List Char) : Prop := ∃ r, behindMark? l = some r ∧ r.all isBlank = true

/-- The text an error line has of its own. -/
def markedText? (l : List Char) : Option String :=
  (behindMark? l).map fun r ↦ String.ofList (trim r)

/-- The texts of the errors in lines.  If a mark is `waiting` for its text before them, the first
line that is not blank is that text, whatever it opens with. -/
def errorTexts : Bool → List (List Char) → List String
  | waiting, [] => if waiting then [""] else []
  | waiting, l :: ls =>
    match if waiting then some l else behindMark? l with
    | none => errorTexts false ls
    | some r =>
      if r.all isBlank then errorTexts true ls else String.ofList (trim r) :: errorTexts false ls

/-- An error in the lines of a log: its text, and the lines behind the line of that text. -/
structure ErrorPlace where
  text : String
  behind : List (List Char)

/-- The message of an error; its line number is looked for in the text behind it. -/
def ErrorPlace.message (p : ErrorPlace) : Message :=
  ⟨lineNumber? (p.behind.flatMap ('\n' :: ·)), p.text, .error⟩

/-- The errors in lines, each with what stands behind it; marks wait for their text as they do in
`errorTexts`. -/
def errorPlaces : Bool → List (List Char) → List ErrorPlace
  | waiting, [] => if waiting then [⟨"", []⟩] else []
  | waiting, l :: ls =>
    match if waiting then some l else behindMark? l with
    | none => errorPlaces false ls
    | some r =>
      if r.all isBlank then errorPlaces true ls
      else ⟨String.ofList (trim r), ls⟩ :: errorPlaces false ls

theorem errorTexts_eq_map (waiting : Bool) (ls : List (List Char)) :
    errorTexts waiting ls = (errorPlaces waiting ls).map (·.text) := by
  induction ls generalizing waiting with
  | nil => cases waiting <;> rfl
  | cons l ls ih =>
    rw [errorTexts, errorPlaces]
    split
    · exact ih false
    · split
      · exact ih true
      · rw [ih false, List.map_cons]

section

variable {l r : List Char} {ls : List (List Char)}

theorem behindMark?_eq_some (h : behindMark? l = some r) : l = '!' :: r := by
  unfold behindMark? at h
  split at h
  · rw [Option.some.inj h]
  · cases h

theorem behindMark?_eq_none (h : behindMark? l = none) : l.head? ≠ some '!' := by
  rintro hhead
  obtain ⟨r, rfl⟩ := List.head?_eq_some_iff.1 hhead
  cases h

/-- A blank line has no mark. -/
theorem behindMark?_of_blank (h : l.all isBlank = true) : behindMark? l = none := by
  cases hl : behindMark? l with
  | none => rfl
  | some r =>
    rw [behindMark?_eq_some hl] at h
    cases h

theorem errorTexts_waiting_cons (l : List Char) (ls : List (List Char)) :
    errorTexts true (l :: ls)
      = if l.all isBlank then errorTexts true ls
        else String.ofList (trim l) :: errorTexts false ls := rfl

theorem errorTexts_cons_of_none (h : behindMark? l = none) :
    errorTexts false (l :: ls) = errorTexts false ls := by
  simp [errorTexts, h]

/-- A mark waits for its text from the rest of its line on. -/
theorem errorTexts_cons_of_some (h : behindMark? l = some r) :
    errorTexts false (l :: ls) = errorTexts true (r :: ls) := by
  simp [errorTexts, h]

theorem errorPlaces_waiting_cons (l : List Char) (ls : List (List Char)) :
    errorPlaces true (l :: ls)
      = if l.all isBlank then errorPlaces true ls
        else ⟨String.ofList (trim l), ls⟩ :: errorPlaces false ls := rfl

theorem errorPlaces_cons_of_none (h : behindMark? l = none) :
    errorPlaces false (l :: ls) = errorPlaces false ls := by
  simp [errorPlaces, h]

theorem errorPlaces_cons_of_some (h : behindMark? l = some r) :
    errorPlaces false (l :: ls) = errorPlaces true (r :: ls) := by
  simp [errorPlaces, h]

end

/-! ## The walk through a log -/

theorem opensLine_errorPattern : OpensLine errorPattern := by
  intro b cs hb
  cases cs with
  | nil => rfl
  | cons c r =>
    rw [errorPattern, hb, Bool.false_and]
    rfl

/-- The errors that are found in a text from some character on. -/
def foundErrors (before : Option Char) (cs : List Char) : List Message :=
  findAll errorPattern before 0 cs

theorem foundErrors_cons_of_ne {b : Option Char} {c : Char} (r : List Char)
    (h : atLineStart b = true → c ≠ '!') : foundErrors b (c :: r) = foundErrors (some c) r := by
  have hno : ¬ (atLineStart b && c == '!') = true := by
    rw [Bool.and_eq_true, beq_iff_eq]
    exact fun hboth ↦ h hboth.1 hboth.2
  rw [foundErrors, findAll, errorPattern, if_neg hno]
  rfl

/-- In a line without a mark nothing is found. -/
theorem exists_foundErrors_append {b : Option Char} {l : List Char} (cs : List Char)
    (hline : '\n' ∉ l) (h : l.head? ≠ some '!') :
    ∃ b', foundErrors b (l ++ cs) = foundErrors b' cs := by
  cases l with
  | nil => exact ⟨b, rfl⟩
  | cons c r =>
    have hc : atLineStart (some c) = false := beq_false_of_ne (List.ne_of_not_mem_cons hline).symm
    rw [List.cons_append, foundErrors_cons_of_ne (r ++ cs) fun _ hmark ↦ h (congrArg some hmark)]
    exact opensLine_errorPattern.exists_findAll_append cs hc (List.not_mem_of_not_mem_cons hline)
      (Nat.zero_le _)

/-- From the end of a line on, it does not matter what stands before. -/
theorem foundErrors_dropWhile (b : Option Char) (cs : List Char) :
    foundErrors b (cs.dropWhile (· != '\n')) = foundErrors none (cs.dropWhile (· != '\n')) := by
  cases hcs : cs.dropWhile (· != '\n') with
  | nil => rfl
  | cons c r =>
    have hc : c ≠ '!' := by
      have hhead := List.head?_dropWhile_not (· != '\n') cs
      rw [hcs] at hhead
      rintro rfl
      cases hhead
    rw [foundErrors_cons_of_ne r fun _ ↦ hc, foundErrors_cons_of_ne r fun _ ↦ hc]

theorem drop_blanks_and_line (r : List Char) :
    r.drop ((r.takeWhile isBlank).length + (restOfLine (r.dropWhile isBlank)).length)
      = (r.dropWhile isBlank).dropWhile (· != '\n') := by
  rw [← List.drop_drop, drop_length_takeWhile, restOfLine, drop_length_takeWhile]

/-- An error uses up its mark, the blanks behind it and the line reached then; its line number is
looked for behind that line. -/
theorem errorPattern_mark {b : Option Char} (hb : atLineStart b = true) (r : List Char) :
    errorPattern b ('!' :: r)
      = some (⟨lineNumber? ((r.dropWhile isBlank).dropWhile (· != '\n')),
            String.ofList (trim (restOfLine (r.dropWhile isBlank))), .error⟩,
          (r.takeWhile isBlank).length + (restOfLine (r.dropWhile isBlank)).length + 1) := by
  have hmark : (atLineStart b && '!' == '!') = true := by rw [hb]; rfl
  rw [errorPattern, if_pos hmark]
  dsimp only
  rw [drop_length_takeWhile, Nat.add_assoc, Nat.add_comm 1, List.drop_succ_cons,
    drop_blanks_and_line]

theorem foundErrors_mark {b : Option Char} (hb : atLineStart b = true) (r : List Char) :
    foundErrors b ('!' :: r)
      = ⟨lineNumber? ((r.dropWhile isBlank).dropWhile (· != '\n')),
          String.ofList (trim (restOfLine (r.dropWhile isBlank))), .error⟩
        :: foundErrors none ((r.dropWhile isBlank).dropWhile (· != '\n')) := by
  obtain ⟨b', hrest⟩ := exists_findAll_append errorPattern (some '!')
    (r.takeWhile isBlank ++ restOfLine (r.dropWhile isBlank))
    ((r.dropWhile isBlank).dropWhile (· != '\n'))
  rw [List.append_assoc, restOfLine, List.takeWhile_append_dropWhile,
    List.takeWhile_append_dropWhile, List.length_append] at hrest
  rw [← foundErrors_dropWhile b', foundErrors, findAll, errorPattern_mark hb, foundErrors, ← hrest]
  rfl

/-- A blank line behind a mark is passed over with its line feed. -/
theorem foundErrors_mark_blank {b : Option Char} (hb : atLineStart b = true) {l : List Char}
    (hl : l.all isBlank = true) (cs : List Char) :
    foundErrors b ('!' :: (l ++ '\n' :: cs)) = foundErrors b ('!' :: cs) := by
  have hdrop : (l ++ '\n' :: cs).dropWhile isBlank = cs.dropWhile isBlank := by
    rw [List.dropWhile_append_of_pos (List.all_eq_true.1 hl)]
    rfl
  rw [foundErrors_mark hb, foundErrors_mark hb, hdrop]

/-- A line that is not blank is the text of the mark before it. -/
theorem foundErrors_mark_text {b : Option Char} (hb : atLineStart b = true) {l : List Char}
    (hline : '\n' ∉ l) (hl : ¬ l.all isBlank = true) (ls : List (List Char)) :
    foundErrors b ('!' :: (l ++ ls.flatMap ('\n' :: ·)))
      = ErrorPlace.message ⟨String.ofList (trim l), ls⟩
        :: foundErrors none (ls.flatMap ('\n' :: ·)) := by
  have hdrop : (l ++ ls.flatMap ('\n' :: ·)).dropWhile isBlank
      = l.dropWhile isBlank ++ ls.flatMap ('\n' :: ·) := by
    rw [List.dropWhile_append, if_neg]
    rwa [List.isEmpty_iff, List.dropWhile_eq_nil_iff, ← List.all_eq_true]
  have hinside : '\n' ∉ l.dropWhile isBlank := fun h ↦
    hline ((List.dropWhile_sublist isBlank).mem h)
  have hbehind := head?_flatMap_newline ls
  rw [foundErrors_mark hb, hdrop, restOfLine_append hinside hbehind,
    dropWhile_line_append hinside hbehind, trim_dropWhile]
  rfl

/-- A line is an error or nothing. -/
theorem foundErrors_line {b : Option Char} {l cs : List Char} {ls : List (List Char)}
    (hline : '\n' ∉ l)
    (hbehind : ∀ b, foundErrors b cs = (errorPlaces false ls).map ErrorPlace.message)
    (hmark : ∀ r, '\n' ∉ r →
      foundErrors b ('!' :: (r ++ cs)) = (errorPlaces true (r :: ls)).map ErrorPlace.message) :
    foundErrors b (l ++ cs) = (errorPlaces false (l :: ls)).map ErrorPlace.message := by
  cases hl : behindMark? l with
  | none =>
    obtain ⟨b', h⟩ := exists_foundErrors_append (b := b) cs hline (behindMark?_eq_none hl)
    rw [h, hbehind, errorPlaces_cons_of_none hl]
  | some r =>
    have hr : '\n' ∉ r := by
      rw [behindMark?_eq_some hl] at hline
      exact List.not_mem_of_not_mem_cons hline
    rw [errorPlaces_cons_of_some hl, behindMark?_eq_some hl]
    exact hmark r hr

/-- What is found behind a line, and what a mark before a line finds. -/
theorem foundErrors_lines (ls : List (List Char)) (hlines : ∀ l ∈ ls, '\n' ∉ l) :
    (∀ b, foundErrors b (ls.flatMap ('\n' :: ·)) = (errorPlaces false ls).map ErrorPlace.message)
      ∧ ∀ b, atLineStart b = true → ∀ l, '\n' ∉ l →
        foundErrors b ('!' :: (l ++ ls.flatMap ('\n' :: ·)))
          = (errorPlaces true (l :: ls)).map ErrorPlace.message := by
  induction ls with
  | nil =>
    refine ⟨fun _ ↦ rfl, fun b hb l hline ↦ ?_⟩
    rw [errorPlaces_waiting_cons]
    split
    · rename_i hl
      have hdrop : l.dropWhile isBlank = [] := List.dropWhile_eq_nil_iff.2 (List.all_eq_true.1 hl)
      rw [List.flatMap_nil, List.append_nil, foundErrors_mark hb, hdrop]
      rfl
    · rename_i hl
      rw [foundErrors_mark_text hb hline hl]
      rfl
  | cons m ms ih =>
    obtain ⟨ihbehind, ihmark⟩ := ih fun l hl ↦ hlines l (List.mem_cons_of_mem m hl)
    have hm : '\n' ∉ m := hlines m List.mem_cons_self
    have hbehind : ∀ b, foundErrors b ((m :: ms).flatMap ('\n' :: ·))
        = (errorPlaces false (m :: ms)).map ErrorPlace.message := by
      intro b
      rw [List.flatMap_cons, List.cons_append, foundErrors_cons_of_ne _ fun _ ↦ by decide]
      exact foundErrors_line hm ihbehind (ihmark _ rfl)
    refine ⟨hbehind, fun b hb l hline ↦ ?_⟩
    rw [errorPlaces_waiting_cons]
    split
    · rename_i hl
      rw [List.flatMap_cons, List.cons_append, foundErrors_mark_blank hb hl]
      exact ihmark b hb m hm
    · rename_i hl
      rw [foundErrors_mark_text hb hline hl, hbehind, List.map_cons]

/-- The walk through a log finds the errors that stand in its lines. -/
theorem LogReport.errors_ofText_places (log : String) :
    (LogReport.ofText log).errors = (errorPlaces false (logLines log)).map ErrorPlace.message := by
  obtain ⟨l, ls, hsplit, hlog⟩ := exists_splitAt_eq_cons '\n' (unifyNewlines log.toList)
  have hlines : ∀ m ∈ l :: ls, '\n' ∉ m := fun m hm ↦ not_mem_of_mem_splitAt (hsplit ▸ hm)
  obtain ⟨hbehind, hmark⟩ := foundErrors_lines ls fun m hm ↦ hlines m (List.mem_cons_of_mem l hm)
  have hall := foundErrors_line (b := none) (hlines l List.mem_cons_self) hbehind (hmark _ rfl)
  rw [logLines, hsplit, ← hall, ← hlog]
  rfl

/-- So their texts are what the lines say. -/
theorem LogReport.errors_ofText (log : String) :
    (LogReport.ofText log).errors.map (·.message) = errorTexts false (logLines log) := by
  rw [errors_ofText_places, List.map_map, errorTexts_eq_map]
  rfl

/-! ## Errors with the text of their own line -/

section

variable {l r : List Char} {ls : List (List Char)}

theorem not_isBareMark_of_blank (h : l.all isBlank = true) : ¬ IsBareMark l := by
  rintro ⟨r, hr, -⟩
  rw [behindMark?_of_blank h] at hr
  cases hr

theorem markedText?_of_some (h : behindMark? l = some r) :
    markedText? l = some (String.ofList (trim r)) := by
  rw [markedText?, h, Option.map_some]

theorem markedText?_of_none (h : behindMark? l = none) : markedText? l = none := by
  rw [markedText?, h, Option.map_none]

/-- A waiting mark has no text of its own, so it gets none only if blank lines follow. -/
theorem errorTexts_true_eq_iff : errorTexts true ls = "" :: ls.filterMap markedText?
    ↔ ∀ l ∈ ls, l.all isBlank = true := by
  induction ls with
  | nil => simp [errorTexts]
  | cons l ls ih =>
    rw [errorTexts_waiting_cons, List.forall_mem_cons]
    split
    · rename_i hl
      rw [List.filterMap_cons_none (markedText?_of_none (behindMark?_of_blank hl)), ih]
      exact ⟨fun hls ↦ ⟨hl, hls⟩, And.right⟩
    · rename_i hl
      refine ⟨fun h ↦ ?_, fun h ↦ absurd h.1 hl⟩
      have htext : trim l = [] := by simpa using (List.cons.inj h).1
      exact absurd (trim_eq_nil_iff.1 htext) hl

theorem errorTexts_false_eq_iff : errorTexts false ls = ls.filterMap markedText?
    ↔ ls.Pairwise fun l m ↦ IsBareMark l → m.all isBlank = true := by
  induction ls with
  | nil => simp [errorTexts]
  | cons l ls ih =>
    rw [List.pairwise_cons]
    cases hl : behindMark? l with
    | none =>
      have hbare : ¬ IsBareMark l := fun ⟨r, hr, _⟩ ↦ by cases hl.symm.trans hr
      rw [errorTexts_cons_of_none hl, List.filterMap_cons_none (markedText?_of_none hl), ih]
      exact ⟨fun h ↦ ⟨fun m _ hb ↦ absurd hb hbare, h⟩, And.right⟩
    | some r =>
      rw [errorTexts_cons_of_some hl, List.filterMap_cons_some (markedText?_of_some hl),
        errorTexts_waiting_cons]
      split
      · rename_i hr
        have hbare : IsBareMark l := ⟨r, hl, hr⟩
        rw [trim_eq_nil_iff.2 hr, String.ofList_nil, errorTexts_true_eq_iff]
        refine ⟨fun h ↦ ⟨fun m hm _ ↦ h m hm, ?_⟩, fun h m hm ↦ h.1 m hm hbare⟩
        exact List.pairwise_of_forall_mem_list fun m hm _ _ hb ↦
          absurd hb (not_isBareMark_of_blank (h m hm))
      · rename_i hr
        have hbare : ¬ IsBareMark l := by
          rintro ⟨r', hr', hblank⟩
          cases hl.symm.trans hr'
          exact hr hblank
        rw [List.cons_inj_right, ih]
        exact ⟨fun h ↦ ⟨fun m _ hb ↦ absurd hb hbare, h⟩, And.right⟩

end

/-- **The texts of the errors in a log.**  They follow the lines that open with an exclamation mark,
except that a bare mark takes the next line that is not blank.  So each such line is an error with
its own text exactly if nothing but blank lines stands behind a bare mark. -/
theorem LogReport.errors_ofText_lines (log : String) :
    (LogReport.ofText log).errors.map (·.message) = errorTexts false (logLines log)
      ∧ ((LogReport.ofText log).errors.map (·.message) = (logLines log).filterMap markedText?
        ↔ (logLines log).Pairwise fun l m ↦ IsBareMark l → m.all isBlank = true) := by
  rw [errors_ofText]
  exact ⟨rfl, errorTexts_false_eq_iff⟩

/-- An error behind a bare mark is lost: its line becomes the text of the mark. -/
theorem LogReport.errors_ofText_stop :
    (LogReport.ofText "!\n! Emergency stop.\n").errors.map (·.message) = ["! Emergency stop."]
      ∧ (LogReport.ofText "!\n! Emergency stop.\n").errors.map (·.message)
        ≠ (logLines "!\n! Emergency stop.\n").filterMap markedText? := by
  decide

end TexWeave
