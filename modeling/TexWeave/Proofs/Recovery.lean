import TexWeave.Dump
import TexWeave.Proofs.Execute
import TexWeave.Proofs.Indentation
import TexWeave.Session

/-!
# Sources that cannot be had

Whoever describes a definition or a block asks for its source, and the source may be missing, may
not be a sentence of its language, or may hold something else.  A definition is cut out of a source
with each of these failures told to the author, except for one: a null character is another failure
than a broken sentence.  A block is cut out of a file with neither of the two told.

* `IsReported` — the failures that are told.
* `sliceDefinition_eq_null_iff` — the definition is cut out of the same characters, null or not.
* `blockSource_of_unread` — a file that cannot be read fails as reading does.
* `sources_reported_iff` — for which sources and files all failures are told.
* `blockSource_of_open_bracket` — a file that is not a sentence, which is not told.
-/

set_option autoImplicit false

namespace TexWeave

/-- The failures the author is told of as those of a source. -/
def IsReported (f : Failure) : Prop := f.reported? = some "AnnotationError"

theorem isReported_unsourced (cause : Unsourced) : IsReported (.unsourced cause) := rfl

theorem not_isReported_null : ¬ IsReported .nullCharacter := by
  rintro ⟨⟩

theorem not_isReported_broken : ¬ IsReported .brokenSource := by
  rintro ⟨⟩

namespace Text

/-! ## Characters that cutting and indentation leave alone -/

section

variable {c : Char}

theorem mem_unifyNewlines_iff (hfeed : c ≠ '\n') (hreturn : c ≠ '\r') (cs : List Char) :
    c ∈ unifyNewlines cs ↔ c ∈ cs := by
  fun_induction unifyNewlines cs with
  | case1 => rfl
  | case2 r ih => simp [ih, hfeed, hreturn]
  | case3 r _ ih => simp [ih, hfeed, hreturn]
  | case4 d r _ _ ih => simp [ih]

theorem mem_splitAt_iff {sep : Char} (h : c ≠ sep) (cs : List Char) :
    (∃ l ∈ splitAt sep cs, c ∈ l) ↔ c ∈ cs := by
  have hlines : c ∈ (splitAt sep cs).flatMap (· ++ [sep]) ↔ c ∈ cs := by
    rw [flatMap_splitAt, List.mem_append, List.mem_singleton]
    exact or_iff_left h
  rw [← hlines, List.mem_flatMap]
  simp only [List.mem_append, List.mem_singleton, h, or_false]

/-- A line without an indentation keeps what is not blank. -/
theorem mem_dropPrefix_iff {p : List Char} (hp : c ∉ p) (s : String) :
    c ∈ (dropPrefix p s).toList ↔ c ∈ s.toList := by
  rw [dropPrefix]
  split
  · next h =>
    obtain ⟨rest, hrest⟩ := List.isPrefixOf_iff_prefix.1 h
    rw [String.toList_ofList, ← hrest, List.drop_left, List.mem_append]
    exact (or_iff_right hp).symm
  · rfl

theorem not_mem_commonIndent (hc : isBlank c = false) (ls : List String) :
    c ∉ commonIndent ls := by
  intro hmem
  rw [commonIndent] at hmem
  cases hfirst : ls.find? fun l ↦ !isBlankLine l with
  | none => simp [hfirst] at hmem
  | some l =>
    rw [hfirst] at hmem
    exact absurd (List.mem_takeWhile_imp hmem) (by rw [hc]; exact Bool.false_ne_true)

/-- **What is not blank stays** when a source is cut into lines and loses its indentation. -/
theorem mem_stripIndent_iff (hc : isBlank c = false) (s : String) :
    c ∈ (joinLines (stripIndent (lines s))).toList ↔ c ∈ s.toList := by
  have hfeed : c ≠ '\n' := by
    rintro rfl
    exact absurd hc (by decide)
  have hreturn : c ≠ '\r' := by
    rintro rfl
    exact absurd hc (by decide)
  have hstripped : c ∈ (joinLines (stripIndent (lines s))).toList
      ↔ ∃ l ∈ stripIndent (lines s), c ∈ l.toList :=
    ⟨fun h ↦ (mem_joinWith h).resolve_left fun h ↦ hfeed (by simpa using h),
      fun ⟨l, hl, h⟩ ↦ (infix_joinLines hl).subset h⟩
  rw [hstripped, ← mem_unifyNewlines_iff hfeed hreturn, ← mem_splitAt_iff hfeed]
  simp only [stripIndent, lines, List.mem_map, exists_exists_and_eq_and,
    mem_dropPrefix_iff (not_mem_commonIndent hc _), String.toList_ofList]

end

end Text

open Text

namespace Source

/-! ## Reading -/

theorem readText_eq_null_iff (text : List Char) :
    readText text = .error .nullCharacter ↔ '\x00' ∈ text := by
  rw [readText, ← List.contains_iff_mem]
  split
  · next h => exact ⟨fun _ ↦ h, fun _ ↦ rfl⟩
  · next h =>
    refine ⟨fun hnull ↦ ?_, fun hnull ↦ absurd hnull h⟩
    split at hnull <;> cases hnull

theorem readText_of_unparsed {text : List Char} (hnull : '\x00' ∉ text)
    (h : ((scan text).sentence?.bind parse).isNone = true) :
    readText text = .error .brokenSource := by
  rw [readText, if_neg (by simpa using hnull), Option.isNone_iff_eq_none.1 h]

/-- Reading fails at a null character, and else at what is not a sentence. -/
theorem readText_failsWith (text : List Char) :
    FailsWith (fun f ↦ f = .nullCharacter ∨ f = .brokenSource) (readText text) := by
  rw [readText]
  split
  · exact .error (.inl rfl)
  · split
    · exact .ok _
    · exact .error (.inr rfl)

/-! ## Definitions -/

theorem sliceLines_eq_null_iff (ls : List String) :
    sliceLines ls = .error .nullCharacter ↔ '\x00' ∈ (joinLines ls).toList := by
  rw [← readText_eq_null_iff, sliceLines]
  split
  · next h => simp [h]
  · next f _ h => simp [h]
  · next t h =>
    rw [h]
    split <;> simp

theorem sliceDefinition_eq_null_iff (source : String) :
    sliceDefinition source = .error .nullCharacter ↔ '\x00' ∈ source.toList := by
  rw [sliceDefinition, sliceLines_eq_null_iff]
  exact mem_stripIndent_iff (by decide) source

/-- A definition is cut out, or the author is told why not, or there is a null character. -/
theorem sliceDefinition_failsWith (source : String) :
    FailsWith (fun f ↦ IsReported f ∨ f = .nullCharacter) (sliceDefinition source) := by
  rw [sliceDefinition, sliceLines]
  split
  · exact .error (.inl (isReported_unsourced _))
  · next f hbroken h =>
    rcases readText_failsWith _ f h with rfl | rfl
    · exact .error (.inr rfl)
    · exact absurd rfl hbroken
  · split
    · exact .ok _
    · exact .error (.inl (isReported_unsourced _))

theorem sliceDefinition_reported_iff (source : String) :
    FailsWith IsReported (sliceDefinition source) ↔ '\x00' ∉ source.toList := by
  rw [← sliceDefinition_eq_null_iff]
  constructor
  · exact fun h hnull ↦ not_isReported_null (h _ hnull)
  · exact fun h f hf ↦ (sliceDefinition_failsWith source f hf).resolve_right
      fun hnull ↦ h (hnull ▸ hf)

/-! ## Blocks -/

section

variable {fileName : String} {file : Option String} {line : Int} {text : List Char}

theorem blockSource_of_absent (h : fileText? file = none) :
    blockSource fileName file line = .error (.unsourced (.absent fileName)) := by
  rw [blockSource, h]

/-- A file that cannot be read fails as reading does. -/
theorem blockSource_of_unread {f : Failure} (htext : fileText? file = some text)
    (h : readText text = .error f) : blockSource fileName file line = .error f := by
  rw [blockSource, htext]
  exact bind_eq_error.2 (.inl h)

/-- In a file that can be read there is a block, or the author is told that there is none. -/
theorem blockSource_of_read {t : Tree} (htext : fileText? file = some text)
    (h : readText text = .ok t) : FailsWith IsReported (blockSource fileName file line) := by
  rw [blockSource, htext]
  dsimp only
  rw [h]
  dsimp only [bind, Except.bind]
  split
  · exact .error (isReported_unsourced _)
  · exact .ok _

theorem blockSource_reported_iff : FailsWith IsReported (blockSource fileName file line)
    ↔ ∀ text, fileText? file = some text → ∃ t, readText text = .ok t := by
  constructor
  · intro hfails text htext
    cases h : readText text with
    | ok t => exact ⟨t, rfl⟩
    | error f =>
      have hreported : IsReported f := hfails f (blockSource_of_unread htext h)
      rcases readText_failsWith text f h with rfl | rfl
      · exact absurd hreported not_isReported_null
      · exact absurd hreported not_isReported_broken
  · intro hreads
    cases htext : fileText? file with
    | none =>
      rw [blockSource_of_absent htext]
      exact .error (isReported_unsourced _)
    | some text =>
      obtain ⟨t, ht⟩ := hreads text htext
      exact blockSource_of_read htext ht

end

end Source

open Source

/-! ## Entries -/

section

variable (description source : String) (name : Option String)

/-- What a definition is described with: a text, and a name or none. -/
theorem CodeEntry.make_of_ok {found : Definition} (h : sliceDefinition source = .ok found) :
    ∃ e, CodeEntry.make (.str description) (.str source) (.ofText? name) = .ok e := by
  cases name with
  | none =>
    rw [CodeEntry.make, h]
    exact ⟨_, rfl⟩
  | some n =>
    have hvalue : Value.ofText? (some n) = .str n := rfl
    rw [hvalue, CodeEntry.make, h]
    dsimp only [bind, Except.bind]
    by_cases hn : (Value.str n).holds = true
    · rw [if_pos hn]
      exact ⟨_, rfl⟩
    · rw [if_neg hn]
      exact ⟨_, rfl⟩

theorem CodeEntry.make_of_error {f : Failure} (h : sliceDefinition source = .error f) :
    CodeEntry.make (.str description) (.str source) (.ofText? name) = .error f := by
  rw [CodeEntry.make, h]
  rfl

/-- An entry fails as its definition does. -/
theorem CodeEntry.make_reported_iff :
    FailsWith IsReported (CodeEntry.make (.str description) (.str source) (.ofText? name))
      ↔ '\x00' ∉ source.toList := by
  rw [← sliceDefinition_reported_iff]
  cases h : sliceDefinition source with
  | error f =>
    rw [CodeEntry.make_of_error description source name h]
    exact ⟨fun hf ↦ .error (hf f rfl), fun hf ↦ .error (hf f rfl)⟩
  | ok found =>
    obtain ⟨e, he⟩ := CodeEntry.make_of_ok description source name h
    rw [he]
    exact ⟨fun _ ↦ .ok found, fun _ ↦ .ok e⟩

end

theorem execute_addCode (d : DocumentId) (description source name : Value) (s : Studio) :
    (execute (Authoring.addCode d description source name) s).1
      = CodeEntry.make description source name := by
  rw [Authoring.addCode]
  cases CodeEntry.make description source name <;> rfl

/-- **Which failures the author is told of.**  Whatever is wrong with the source of a definition,
the author is told so, exactly if the source is free of null characters; the same goes for the entry
made of it and for adding that to a document.  Whatever is wrong with a file a block is looked for
in, the author is told so exactly if the file has no text or can be read; otherwise the failure of
reading comes through. -/
theorem sources_reported_iff (source description : String) (name : Option String) (d : DocumentId)
    (s : Studio) (fileName : String) (file : Option String) (line : Int) :
    let made := CodeEntry.make (.str description) (.str source) (.ofText? name)
    let added :=
      (execute (Authoring.addCode d (.str description) (.str source) (.ofText? name)) s).1
    let body := blockSource fileName file line
    (FailsWith IsReported (sliceDefinition source) ↔ '\x00' ∉ source.toList)
      ∧ (FailsWith IsReported made ↔ '\x00' ∉ source.toList)
      ∧ (FailsWith IsReported added ↔ '\x00' ∉ source.toList)
      ∧ ('\x00' ∈ source.toList → sliceDefinition source = .error .nullCharacter)
      ∧ (FailsWith IsReported body ↔
        ∀ text, fileText? file = some text → ∃ t, readText text = .ok t)
      ∧ ∀ text f, fileText? file = some text → readText text = .error f →
        body = .error f ∧ f.reported? = none := by
  intro made added body
  have hmade := CodeEntry.make_reported_iff description source name
  refine ⟨sliceDefinition_reported_iff source, hmade, ?_, (sliceDefinition_eq_null_iff source).2,
    blockSource_reported_iff, fun text f htext hf ↦ ⟨blockSource_of_unread htext hf, ?_⟩⟩
  · show FailsWith IsReported (execute _ s).1 ↔ _
    rw [execute_addCode]
    exact hmade
  · rcases readText_failsWith text f hf with rfl | rfl <;> rfl

/-- A file that is not a sentence, and one with a null character: neither is told as a failure of a
source, though the first is when a definition is cut out of it. -/
theorem blockSource_of_open_bracket :
    blockSource "block.py" (some "with (:\n") 1 = .error .brokenSource
      ∧ Failure.brokenSource.reported? = none
      ∧ sliceDefinition "with (:\n" = .error (.unsourced .unreadable)
      ∧ blockSource "block.py" (some "\x00") 1 = .error .nullCharacter
      ∧ sliceDefinition "\x00" = .error .nullCharacter := by
  have hbroken : readText "with (:\n".toList = .error .brokenSource :=
    readText_of_unparsed (by decide) (by decide +kernel)
  have hnull : readText ['\x00', '\n'] = .error .nullCharacter := rfl
  refine ⟨blockSource_of_unread rfl hbroken, rfl, ?_, blockSource_of_unread rfl hnull,
    (sliceDefinition_eq_null_iff _).2 (by decide)⟩
  have hlines : joinLines (stripIndent (lines "with (:\n")) = "with (:\n" := by decide
  rw [sliceDefinition, sliceLines, hlines, hbroken]

end TexWeave
