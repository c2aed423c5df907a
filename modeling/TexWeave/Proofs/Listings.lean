import TexWeave.Proofs.Marks

/-!
# Listings read back

Whoever has the text of a document has the sources it shows: they stand between the lines that open
and close a listing, character for character.

* `ListingReader` — a reader that goes through a text line by line.
* `readListings` — what it has found at the end.
* `readListings_render` — it finds the sources, in order.
-/

set_option autoImplicit false

namespace TexWeave

open Text

/-! ## The reader -/

/-- A reader of listings: the lines of the listing it is inside of, if it is inside of one, and the
listings it has found. -/
structure ListingReader where
  inside : Option (List String) := none
  found : List String := []
  deriving DecidableEq, Repr

namespace ListingReader

/-- Reads one line.  Inside of a listing only the line that closes it means anything, so a source
may hold the line that opens one. -/
def read (p : Policy) (r : ListingReader) (line : String) : ListingReader :=
  match r.inside with
  | none => if line = p.listingBegin then { r with inside := some [] } else r
  | some ls =>
    if line = p.listingEnd then { inside := none, found := r.found ++ [joinLines ls] }
    else { r with inside := some (ls ++ [line]) }

/-- Reads lines in order. -/
def readAll (p : Policy) (r : ListingReader) (lines : List String) : ListingReader :=
  lines.foldl (read p) r

end ListingReader

/-- The reader at the end of a text. -/
def readListings (p : Policy) (text : String) : ListingReader :=
  ListingReader.readAll p {} (splitLines text)

namespace ListingReader

variable {p : Policy} {mode : Mode} {r : ListingReader} {found : List String}

theorem readAll_append (p : Policy) (r : ListingReader) (a b : List String) :
    readAll p r (a ++ b) = readAll p (readAll p r a) b := List.foldl_append

/-! ## Outside of listings -/

/-- Lines that open no listing are passed over. -/
theorem readAll_of_forall_ne {ls : List String} (h : ∀ l ∈ ls, l ≠ p.listingBegin) :
    readAll p ⟨none, found⟩ ls = ⟨none, found⟩ := by
  induction ls with
  | nil => rfl
  | cons l ls ih =>
    have hl : read p ⟨none, found⟩ l = ⟨none, found⟩ := if_neg (h l List.mem_cons_self)
    rw [readAll, List.foldl_cons, hl]
    exact ih fun l' hl' ↦ h l' (List.mem_cons_of_mem l hl')

theorem readAll_of_plain {ls : List String} (h : Plain mode ls) :
    readAll mode.policy ⟨none, found⟩ (ls.flatMap splitLines) = ⟨none, found⟩ := by
  refine readAll_of_forall_ne fun l hl ↦ ?_
  obtain ⟨s, hs, hl⟩ := List.mem_flatMap.1 hl
  exact (h s hs).ne_listingBegin hl

/-- A reader that is outside of listings after an empty line was so before: an empty line closes
none. -/
theorem eq_of_read_empty (h : read mode.policy r "" = ⟨none, found⟩) : r = ⟨none, found⟩ := by
  have hbegin : "" ≠ mode.policy.listingBegin := by cases mode <;> decide
  have hend : "" ≠ mode.policy.listingEnd := by cases mode <;> decide
  obtain ⟨_ | ls, f⟩ := r
  · exact (if_neg hbegin).symm.trans h
  · have hstill : read mode.policy ⟨some ls, f⟩ "" = ⟨some (ls ++ [""]), f⟩ := if_neg hend
    rw [hstill] at h
    exact absurd (congrArg inside h) (Option.some_ne_none _)

theorem eq_of_readAll_replicate {k : Nat}
    (h : readAll mode.policy r (List.replicate k "") = ⟨none, found⟩) : r = ⟨none, found⟩ := by
  induction k generalizing r with
  | zero => exact h
  | succ k ih => exact eq_of_read_empty (ih h)

/-- So line feeds at the end of a text can be dropped. -/
theorem readAll_dropNewlines {s : String}
    (h : readAll mode.policy r (splitLines s) = ⟨none, found⟩) :
    readAll mode.policy r (splitLines (dropNewlines s)) = ⟨none, found⟩ := by
  obtain ⟨k, hk⟩ := exists_splitLines_dropNewlines s
  rw [hk, readAll_append] at h
  exact eq_of_readAll_replicate h

/-! ## Inside of a listing -/

theorem readAll_of_not_mem {acc ls : List String} (h : p.listingEnd ∉ ls) :
    readAll p ⟨some acc, found⟩ ls = ⟨some (acc ++ ls), found⟩ := by
  induction ls generalizing acc with
  | nil => rw [List.append_nil]; rfl
  | cons l ls ih =>
    have hne : l ≠ p.listingEnd := fun he ↦ h (he ▸ List.mem_cons_self)
    have hl : read p ⟨some acc, found⟩ l = ⟨some (acc ++ [l]), found⟩ := if_neg hne
    rw [readAll, List.foldl_cons, hl]
    exact (ih fun hls ↦ h (List.mem_cons_of_mem l hls)).trans (by rw [List.append_assoc]; rfl)

/-- **A listing is read back as the source it shows.** -/
theorem readAll_listing {source : String} (h : mode.policy.listingEnd ∉ splitLines source) :
    readAll mode.policy ⟨none, found⟩ ((listing mode source).flatMap splitLines)
      = ⟨none, found ++ [source]⟩ := by
  have hbegin : splitLines mode.policy.listingBegin = [mode.policy.listingBegin] := by
    cases mode <;> decide
  have hend : splitLines mode.policy.listingEnd = [mode.policy.listingEnd] := by
    cases mode <;> decide
  have hlines : (listing mode source).flatMap splitLines
      = [mode.policy.listingBegin] ++ splitLines source ++ [mode.policy.listingEnd] := by
    simp [listing, hbegin, hend]
  have hopen : readAll mode.policy ⟨none, found⟩ [mode.policy.listingBegin] = ⟨some [], found⟩ :=
    if_pos rfl
  have hclose : readAll mode.policy ⟨some (splitLines source), found⟩ [mode.policy.listingEnd]
      = ⟨none, found ++ [joinLines (splitLines source)]⟩ := if_pos rfl
  rw [hlines, readAll_append, readAll_append, hopen, readAll_of_not_mem h, List.nil_append, hclose,
    joinLines_splitLines]

/-! ## Blocks -/

/-- One block gives the source of its entry. -/
theorem readAll_block {axes : Axes} {step : Nat × SectionStep} {bl : List String}
    (hbl : blockLines mode axes step = .ok bl) (h : Plain mode (step.2.entry.texts axes))
    (hopens : ∀ t ∈ step.2.opens, t ∈ step.2.entry.texts axes)
    (hsource : ∀ s ∈ step.2.entry.source?, mode.policy.listingEnd ∉ splitLines s) :
    readAll mode.policy ⟨none, found⟩ (bl.flatMap splitLines)
      = ⟨none, found ++ step.2.entry.source?.toList⟩ := by
  obtain ⟨plain, hplain, rfl⟩ := exists_plain_of_blockLines hbl h hopens
  have hlast : Plain mode [""] := .single (.empty mode)
  rw [List.flatMap_append, List.flatMap_append, readAll_append, readAll_append,
    readAll_of_plain hplain]
  cases hs : step.2.entry.source? with
  | none => exact (readAll_of_plain hlast).trans (by rw [Option.toList_none, List.append_nil])
  | some s =>
    rw [Option.map_some, Option.getD_some, readAll_listing (hsource s hs)]
    exact readAll_of_plain hlast

/-- All blocks give the sources of their entries, in order. -/
theorem readAll_blocks {axes : Axes} {steps : List (Nat × SectionStep)} {bs : List (List String)}
    (hbs : steps.mapM (blockLines mode axes) = .ok bs)
    (h : ∀ step ∈ steps, Plain mode (step.2.entry.texts axes))
    (hopens : ∀ step ∈ steps, ∀ t ∈ step.2.opens, t ∈ step.2.entry.texts axes)
    (hsource : ∀ step ∈ steps, ∀ s ∈ step.2.entry.source?,
      mode.policy.listingEnd ∉ splitLines s) :
    readAll mode.policy ⟨none, found⟩ (bs.flatten.flatMap splitLines)
      = ⟨none, found ++ (steps.map (·.2.entry)).filterMap Entry.source?⟩ := by
  induction steps generalizing bs found with
  | nil =>
    rw [pure_eq_ok.1 hbs, List.map_nil, List.filterMap_nil, List.append_nil]
    rfl
  | cons step steps ih =>
    obtain ⟨bl, rest, hbl, hrest, rfl⟩ := mapM_cons_eq_ok.1 hbs
    rw [List.flatten_cons, List.flatMap_append, readAll_append,
      readAll_block hbl (h _ List.mem_cons_self) (hopens _ List.mem_cons_self)
        (hsource _ List.mem_cons_self),
      ih hrest (fun s hs ↦ h s (List.mem_cons_of_mem _ hs))
        (fun s hs ↦ hopens s (List.mem_cons_of_mem _ hs))
        (fun s hs ↦ hsource s (List.mem_cons_of_mem _ hs)), List.append_assoc]
    congr 2
    rw [List.map_cons]
    cases hs : step.2.entry.source? with
    | none => rw [List.filterMap_cons_none hs]; rfl
    | some s => rw [List.filterMap_cons_some hs]; rfl

/-! ## Body and text -/

theorem readAll_splitLines_joinLines (ls : List String) :
    readAll mode.policy ⟨none, found⟩ (splitLines (joinLines ls))
      = readAll mode.policy ⟨none, found⟩ (ls.flatMap splitLines) := by
  by_cases h : ls = []
  · rw [h]
    exact readAll_of_plain (.single (.empty mode))
  · rw [splitLines_joinLines h]

theorem readAll_body {axes : Axes} {d : Document} {body : String} (hbody : d.body axes = .ok body)
    (hsources : ∀ s ∈ d.sources, d.mode.policy.listingEnd ∉ splitLines s)
    (htexts : Plain d.mode (d.texts axes)) :
    readAll d.mode.policy ⟨none, []⟩ (splitLines body) = ⟨none, d.sources⟩ := by
  obtain ⟨bs, hbs, rfl⟩ := Document.body_eq_ok_of_blocks.1 hbody
  have hentry : ∀ step ∈ d.plan, step.2.entry ∈ d.entries := fun step hstep ↦
    d.map_entry_plan ▸ List.mem_map_of_mem hstep
  have hblocks : readAll d.mode.policy ⟨none, []⟩ (bs.flatten.flatMap splitLines)
      = ⟨none, d.sources⟩ := by
    rw [readAll_blocks hbs (fun step hstep ↦ plain_texts_of_mem htexts (hentry step hstep)) ?_ ?_,
      d.map_entry_plan, List.nil_append, Document.sources]
    · intro step hstep t ht
      obtain ⟨title, htitle⟩ := Document.opens_of_mem_plan hstep
      exact opening_mem_texts (htitle.symm.trans ht)
    · intro step hstep s hs
      exact hsources s (List.mem_filterMap.2 ⟨step.2.entry, hentry step hstep, hs⟩)
  exact readAll_dropNewlines ((readAll_splitLines_joinLines bs.flatten).trans hblocks)

/-- A body without a character is left out of the text, and there is nothing to read in it. -/
theorem readAll_optional_body {body : String} {sources : List String}
    (h : readAll mode.policy ⟨none, []⟩ (splitLines body) = ⟨none, sources⟩) :
    readAll mode.policy ⟨none, []⟩
        ((if body.isEmpty then [] else [body, ""]).flatMap splitLines) = ⟨none, sources⟩ := by
  split
  · rename_i hbody
    rw [String.isEmpty_iff] at hbody
    rw [← h, hbody]
    exact (readAll_of_plain (Plain.single (.empty mode))).symm
  · rw [List.flatMap_cons, readAll_append, h]
    exact readAll_of_plain (.single (.empty mode))

end ListingReader

/-- The parts of a text in front of its body. -/
theorem textParts_eq_append (d : Document) (preamble body : String) :
    ∃ front, d.textParts preamble body
      = preamble :: front ++ (if body.isEmpty then [] else [body, ""])
        ++ [endEnvironment "document"]
      ∧ Plain d.mode front := by
  refine ⟨["", beginEnvironment "document"]
    ++ (if d.title.isEmpty then [] else ["\\maketitle"])
    ++ (if d.contents then ["\\tableofcontents"] else []) ++ [""], rfl, ?_⟩
  refine .append (.append (.append ?_ (.ite (.nil _) (.single ?_))) (.ite (.single ?_) (.nil _)))
    (.single (.empty _))
  · cases d.mode <;> decide
  · cases d.mode <;> decide
  · cases d.mode <;> decide

theorem unmarked_preamble {axes : Axes} {d : Document} {preamble : String}
    (h : Plain d.mode (d.texts axes)) (hpreamble : d.preamble = .ok preamble) :
    Unmarked d.mode preamble := by
  obtain ⟨names, hnames, rfl⟩ := Document.preamble_eq_ok.1 hpreamble
  have hlines : Unmarked d.mode (joinLines (d.preambleLines names)) :=
    .joinWith (by cases d.mode <;> decide) (plain_preambleLines h hnames)
  exact hlines.of_prefix (dropNewlines_isPrefix _)

open ListingReader in
/-- **The sources of a document can be read off its text.**  If no source holds the line that closes
a listing, and no other text an author supplies holds the mark, then a reader of the text ends
outside of listings and has found exactly the sources, in order. -/
theorem readListings_render {axes : Axes} {d : Document} {text : String}
    (hrender : d.render axes = .ok text)
    (hsources : ∀ s ∈ d.sources, d.mode.policy.listingEnd ∉ splitLines s)
    (htexts : ∀ t ∈ d.texts axes, Unmarked d.mode t) :
    readListings d.mode.policy text = { inside := none, found := d.sources } := by
  obtain ⟨preamble, body, hpreamble, hbody, rfl⟩ := Document.render_eq_ok.1 hrender
  obtain ⟨front, hparts, hfront⟩ := textParts_eq_append d preamble body
  have hends : Plain d.mode [endEnvironment "document", ""] := by cases d.mode <;> decide
  have hlines : splitLines (joinLines (d.textParts preamble body) ++ "\n")
      = (preamble :: front).flatMap splitLines
        ++ (if body.isEmpty then [] else [body, ""]).flatMap splitLines
        ++ [endEnvironment "document", ""].flatMap splitLines := by
    rw [← String.append_empty (s := "\n"), splitLines_append,
      splitLines_joinLines (by simp [hparts]), hparts, List.flatMap_append, List.flatMap_append]
    simp
  rw [readListings, hlines, readAll_append, readAll_append,
    readAll_of_plain (.cons (unmarked_preamble htexts hpreamble) hfront),
    readAll_optional_body (readAll_body hbody hsources htexts), readAll_of_plain hends]

/-- A handout about listings: one source holds the line that opens a listing, one is empty. -/
def listingHandout : Document where
  title := "Listings"
  email := "a@b.c"
  mode := .tufte
  entries := [
    .code ⟨"How to open a listing.", "\\begin\x7bpygments\x7d\x7bpython\x7d\nx = 1\n", "Opening",
      "opening"⟩,
    .figure { plot := .raw "\\draw (0,0);" (some ["tikz"]), caption := "A point" },
    .text ⟨"Nothing at all.", some "Empty", some ""⟩]

theorem readListings_render_of_handout :
    ∃ text, listingHandout.render #[] = .ok text
      ∧ readListings Mode.tufte.policy text
        = ⟨none, ["\\begin\x7bpygments\x7d\x7bpython\x7d\nx = 1\n", ""]⟩ := by
  obtain ⟨text, h⟩ : ∃ text, listingHandout.render #[] = .ok text := ⟨_, rfl⟩
  exact ⟨text, h, readListings_render h (by decide) (by decide)⟩

end TexWeave
