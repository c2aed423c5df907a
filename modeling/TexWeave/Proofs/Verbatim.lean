import Mathlib.Data.List.Forall2
import TexWeave.Proofs.Blocks

/-!
# Nothing an author writes is changed

What an author supplies stands in the text of a document as it is: in one piece, character for
character, in the order of the entries, and once for each.  Around it the library puts words of its
own, of which there are few.

* `Shows` — a text is made of words and, in a given order, of texts.
* `ownWords` — the words the library puts around the texts of one entry.
* `SectionStep.given` — the texts an author supplies with an entry.
* `Document.render_shows` — the whole text: every entry shows its texts, and what is lost is line
  feeds at the end of the body.
-/

set_option autoImplicit false

namespace TexWeave

open Text

/-! ## Texts among words -/

/-- `s` is made of words, any number of them in any order, and of the texts `ts`, each once and in
the order given. -/
inductive Shows (words : List String) : List String → String → Prop
  | nil : Shows words [] ""
  | word {w s : String} {ts : List String} (hw : w ∈ words) (h : Shows words ts s) :
      Shows words ts (w ++ s)
  | text (t : String) {s : String} {ts : List String} (h : Shows words ts s) :
      Shows words (t :: ts) (t ++ s)

namespace Shows

variable {words ts us : List String} {s t : String}

theorem append (h : Shows words ts s) (h' : Shows words us t) :
    Shows words (ts ++ us) (s ++ t) := by
  induction h with
  | nil => rwa [String.empty_append]
  | word hw _ ih =>
    rw [String.append_assoc]
    exact .word hw ih
  | text u _ ih =>
    rw [String.append_assoc]
    exact .text u ih

theorem ofWord {w : String} (hw : w ∈ words) : Shows words [] w := by
  have h : Shows words [] (w ++ "") := word hw nil
  rwa [String.append_empty] at h

theorem ofText (t : String) : Shows words [t] t := by
  have h : Shows words [t] (t ++ "") := text t nil
  rwa [String.append_empty] at h

/-- An empty text can be shown anywhere. -/
theorem ofEmpty (h : Shows words ts s) : Shows words ("" :: ts) s := by
  have h' := text "" h
  rwa [String.empty_append] at h'

theorem command {name : String} (ho : "\\" ++ name ++ "\x7b" ∈ words) (hc : "\x7d" ∈ words)
    (h : Shows words ts s) : Shows words ts (command name s) := by
  have hparts : TexWeave.command name s = "\\" ++ name ++ "\x7b" ++ (s ++ "\x7d") := by
    simp only [TexWeave.command, braced, String.append_assoc]
  have hall := word ho (h.append (ofWord hc))
  rwa [List.append_nil, ← hparts] at hall

end Shows

/-- The same of lines, each with its end. -/
def ShowsLines (words ts ls : List String) : Prop := Shows words ts (endLines ls)

namespace ShowsLines

variable {words ts us ls ms : List String} {s : String}

theorem nil (words : List String) : ShowsLines words [] [] := Shows.nil

theorem cons (hn : "\n" ∈ words) (h : Shows words ts s) (h' : ShowsLines words us ls) :
    ShowsLines words (ts ++ us) (s :: ls) := by
  rw [ShowsLines, endLines_cons]
  exact h.append (.word hn h')

/-- A line that shows one text. -/
theorem cons_text {t : String} (hn : "\n" ∈ words) (h : Shows words [t] s)
    (h' : ShowsLines words us ls) : ShowsLines words (t :: us) (s :: ls) :=
  cons hn h h'

/-- A line of words alone. -/
theorem cons_word (hn : "\n" ∈ words) (h : Shows words [] s) (h' : ShowsLines words us ls) :
    ShowsLines words us (s :: ls) :=
  cons hn h h'

theorem single (hn : "\n" ∈ words) (h : Shows words ts s) : ShowsLines words ts [s] := by
  have hline := cons hn h (nil words)
  rwa [List.append_nil] at hline

theorem append (h : ShowsLines words ts ls) (h' : ShowsLines words us ms) :
    ShowsLines words (ts ++ us) (ls ++ ms) := by
  rw [ShowsLines, endLines_append]
  exact Shows.append h h'

/-- A line may be left out if all it shows is an empty text. -/
theorem ite_isEmpty (hn : "\n" ∈ words) (t : String) :
    ShowsLines words [t] (if t.isEmpty then [] else [t]) := by
  split
  · rename_i ht
    rw [String.isEmpty_iff.1 ht]
    exact Shows.ofEmpty (nil words)
  · exact single hn (.ofText t)

end ShowsLines

/-! ## What an author supplies, and what the library adds -/

/-- The texts an author supplies with an entry, in the order in which they are shown.  A caption
goes in front of its plot only if there is one. -/
def Entry.given (axes : Axes) : Entry → Except Failure (List String)
  | .text e => .ok (e.text :: e.source.toList)
  | .code e => .ok [e.description, e.source]
  | .figure e => do
    let plot ← e.plot.markup axes
    let caption := e.caption :: e.label.toList
    return if e.caption.isEmpty || e.captionPosition == .after then plot :: caption
      else caption ++ [plot]

/-- The same with the title of the section the entry opens. -/
def SectionStep.given (axes : Axes) (s : SectionStep) : Except Failure (List String) := do
  return s.opens.toList ++ (← s.entry.given axes)

/-- The words the library puts around texts of any kind. -/
def fixedWords : List String :=
  ["\n", "\x7d", "\\section\x7b", "\\label\x7b", "sec:", "fig:", "\\caption\x7b",
    "\\captionof\x7bfigure\x7d\x7b", "\\centering", "[", "]", "[htbp]"]
    ++ ["center", "marginfigure", "figure", "figure*"].flatMap fun name ↦
      [beginEnvironment name, endEnvironment name]

/-- The words around the texts of an entry.  Code is labelled by its name and a figure by its
number; the position of a figure is an option of its environment. -/
def ownWords (mode : Mode) (number : Nat) (e : Entry) : List String :=
  (match e with
    | .text _ => []
    | .code e => [e.name]
    | .figure e => toString number :: e.position.toList)
  ++ [mode.policy.listingBegin, mode.policy.listingEnd] ++ fixedWords

section Words

variable {mode : Mode} {n : Nat}

theorem mem_ownWords {w : String} (h : w ∈ fixedWords) (mode : Mode) (n : Nat) (e : Entry) :
    w ∈ ownWords mode n e :=
  List.mem_append_right _ h

theorem shows_command {name s : String} {ts : List String} {e : Entry}
    (h : "\\" ++ name ++ "\x7b" ∈ fixedWords) (hs : Shows (ownWords mode n e) ts s) :
    Shows (ownWords mode n e) ts (command name s) :=
  hs.command (mem_ownWords h mode n e) (mem_ownWords (by decide) mode n e)

theorem newline_mem_ownWords (mode : Mode) (n : Nat) (e : Entry) : "\n" ∈ ownWords mode n e :=
  mem_ownWords (by decide) mode n e

theorem showsLines_listing (mode : Mode) (n : Nat) (e : Entry) (source : String) :
    ShowsLines (ownWords mode n e) [source] (listing mode source) := by
  have hn := newline_mem_ownWords mode n e
  have hbegin : mode.policy.listingBegin ∈ ownWords mode n e := by simp [ownWords]
  have hend : mode.policy.listingEnd ∈ ownWords mode n e := by simp [ownWords]
  exact .cons_word hn (.ofWord hbegin)
    (.cons_text hn (.ofText source) (.single hn (.ofWord hend)))

theorem showsLines_headingLines (mode : Mode) (n : Nat) (s : SectionStep) :
    ShowsLines (ownWords mode n s.entry) s.opens.toList (headingLines s) := by
  have hn := newline_mem_ownWords mode n s.entry
  rw [headingLines]
  split
  · rename_i hopens
    cases h : s.opens with
    | none => exact .nil _
    | some t =>
      rw [h, nonempty?, Option.filter_eq_none_iff] at hopens
      have ht : t = "" := by simpa using hopens t rfl
      rw [ht]
      exact Shows.ofEmpty Shows.nil
  · rename_i t hopens
    have ht : s.opens = some t := (Option.filter_eq_some_iff.1 hopens).1
    rw [ht]
    refine .cons_text hn (shows_command (by decide) (.ofText t)) ?_
    split
    · rename_i e he
      have hname : e.name ∈ ownWords mode n s.entry := by simp [he, ownWords]
      exact .single hn (shows_command (by decide)
        (.word (mem_ownWords (by decide) mode n s.entry) (.ofWord hname)))
    · exact .nil _

section Figure

variable (mode : Mode) (n : Nat) (kind : FigureType) (e : FigureEntry)

theorem shows_figureLabel :
    Shows (ownWords mode n (.figure e)) e.label.toList (figureLabel e n) := by
  have hnumber : Shows (ownWords mode n (.figure e)) [] ("fig:" ++ toString n) :=
    .word (mem_ownWords (by decide) mode n _) (.ofWord (by simp [ownWords]))
  rw [figureLabel, nonempty?]
  cases e.label with
  | none => exact hnumber
  | some t =>
    by_cases ht : t = ""
    · rw [ht]
      exact hnumber.ofEmpty
    · have hkept : (some t).filter (fun t ↦ !t.isEmpty) = some t := by simp [ht]
      rw [hkept]
      exact .ofText t

theorem showsLines_captionLines :
    ShowsLines (ownWords mode n (.figure e)) (e.caption :: e.label.toList)
      (captionLines kind e n) := by
  have hn := newline_mem_ownWords mode n (.figure e)
  have hlabel : ShowsLines (ownWords mode n (.figure e)) e.label.toList
      [command "label" (figureLabel e n)] :=
    .single hn (shows_command (by decide) (shows_figureLabel mode n e))
  rw [captionLines]
  split
  · rename_i hcaption
    rw [String.isEmpty_iff.1 hcaption]
    exact Shows.ofEmpty hlabel
  · split
    · have hparts : "\\captionof" ++ braced "figure" ++ braced e.caption
          = "\\captionof\x7bfigure\x7d\x7b" ++ (e.caption ++ "\x7d") := by
        simp only [braced, ← String.append_assoc]
        rfl
      rw [hparts]
      exact .cons_text hn (.word (mem_ownWords (by decide) mode n _)
        (.text e.caption (.ofWord (mem_ownWords (by decide) mode n _)))) hlabel
    · exact .cons_text hn (shows_command (by decide) (.ofText e.caption)) hlabel

theorem shows_figureBegin : Shows (ownWords mode n (.figure e)) [] (figureBegin kind e) := by
  rw [figureBegin]
  split
  · exact .ofWord (mem_ownWords (by decide) mode n _)
  · rename_i hkind
    have hname : beginEnvironment kind.name ∈ fixedWords := by
      cases kind with
      | inline => exact absurd rfl hkind
      | margin | float | wide => decide
    refine .word (mem_ownWords hname mode n _) ?_
    rw [placementOption]
    split
    · rename_i p hp
      have hposition : p ∈ ownWords mode n (.figure e) := by
        simp [ownWords, (Option.filter_eq_some_iff.1 hp).1]
      rw [String.append_assoc]
      exact .word (mem_ownWords (by decide) mode n _)
        (.word hposition (.ofWord (mem_ownWords (by decide) mode n _)))
    · split
      · exact .nil
      · exact .ofWord (mem_ownWords (by decide) mode n _)

theorem showsLines_figureLines (plot : String) :
    ShowsLines (ownWords mode n (.figure e))
      (if e.caption.isEmpty || e.captionPosition == .after then plot :: e.caption :: e.label.toList
        else (e.caption :: e.label.toList) ++ [plot]) (figureLines kind e n plot) := by
  have hn := newline_mem_ownWords mode n (.figure e)
  have hcaption := showsLines_captionLines mode n kind e
  have hplot : ShowsLines (ownWords mode n (.figure e)) [plot] [plot] := .single hn (.ofText plot)
  have hfront : ShowsLines (ownWords mode n (.figure e)) []
      (figureBegin kind e :: if kind = .float ∨ kind = .wide then ["\\centering"] else []) := by
    refine .cons_word hn (shows_figureBegin mode n kind e) ?_
    split
    · exact .single hn (.ofWord (mem_ownWords (by decide) mode n _))
    · exact .nil _
  have hend : ShowsLines (ownWords mode n (.figure e)) [] [figureEnd kind] :=
    .single hn (.ofWord (mem_ownWords (by cases kind <;> decide) mode n _))
  rw [figureLines]
  split
  · have hall := (hfront.append (hplot.append hcaption)).append hend
    rwa [List.append_nil] at hall
  · have hall := (hfront.append (hcaption.append hplot)).append hend
    rwa [List.append_nil] at hall

end Figure

/-- **What an entry becomes** shows its texts, each once and unchanged, among the library's own
words. -/
theorem showsLines_blockLines {axes : Axes} {step : Nat × SectionStep} {bl : List String}
    (h : blockLines mode axes step = .ok bl) :
    ∃ ts, step.2.given axes = .ok ts
      ∧ ShowsLines (ownWords mode step.1 step.2.entry) ts bl := by
  obtain ⟨n, s⟩ := step
  obtain ⟨content, hcontent, rfl⟩ := blockLines_eq_ok.1 h
  have hn := newline_mem_ownWords mode n s.entry
  have hempty : ShowsLines (ownWords mode n s.entry) [] [""] := .single hn .nil
  suffices hts : ∃ ts, s.entry.given axes = .ok ts
      ∧ ShowsLines (ownWords mode n s.entry) ts content by
    obtain ⟨ts, hgiven, hshows⟩ := hts
    refine ⟨s.opens.toList ++ ts, bind_eq_ok.2 ⟨ts, hgiven, rfl⟩, ?_⟩
    have hall := ((showsLines_headingLines mode n s).append hshows).append hempty
    rwa [List.append_nil] at hall
  obtain ⟨entry, opens⟩ := s
  cases entry with
  | text e =>
    refine ⟨_, rfl, ?_⟩
    rw [← Except.ok.inj hcontent]
    refine .cons_text hn (.ofText e.text) ?_
    cases e.source with
    | none => exact .nil _
    | some source => exact showsLines_listing mode n _ source
  | code e =>
    refine ⟨_, rfl, ?_⟩
    rw [← Except.ok.inj hcontent]
    exact (ShowsLines.ite_isEmpty hn e.description).append (showsLines_listing mode n _ e.source)
  | figure e =>
    obtain ⟨kind, -, plot, hplot, rfl⟩ := contentLines_figure_eq_ok.1 hcontent
    refine ⟨_, bind_eq_ok.2 ⟨plot, hplot, rfl⟩, ?_⟩
    exact showsLines_figureLines mode n kind e plot

/-- The same of all entries. -/
theorem forall₂_of_blocks {axes : Axes} {steps : List (Nat × SectionStep)}
    {bs : List (List String)} (h : steps.mapM (blockLines mode axes) = .ok bs) :
    List.Forall₂ (fun step s ↦ ∃ ts, step.2.given axes = .ok ts
      ∧ Shows (ownWords mode step.1 step.2.entry) ts s) steps (bs.map endLines) := by
  rw [List.forall₂_map_right_iff]
  exact (forall₂_blockLines h).imp fun _ _ ↦ showsLines_blockLines

end Words

/-! ## The whole text -/

/-- Line feeds. -/
def newlines (k : Nat) : String := String.ofList (List.replicate k '\n')

/-- A body is what its entries show, without the line feeds at the end. -/
theorem exists_shown_of_body {axes : Axes} {d : Document} {body : String}
    (h : d.body axes = .ok body) :
    ∃ shown k, List.Forall₂ (fun step s ↦ ∃ ts, step.2.given axes = .ok ts
        ∧ Shows (ownWords d.mode step.1 step.2.entry) ts s) d.plan shown
      ∧ String.join shown = body ++ newlines k
      ∧ ¬ ['\n'] <:+ body.toList := by
  obtain ⟨bs, hbs, hbody⟩ := Document.body_eq_ok_of_blocks.1 h
  have hkept : body = dropNewlines (endLines bs.flatten) := by
    rw [hbody, dropNewlines_joinLines]
  obtain ⟨k, hk⟩ := exists_eq_dropNewlines_append (endLines bs.flatten)
  refine ⟨bs.map endLines, k, forall₂_of_blocks hbs, ?_, ?_⟩
  · rw [← endLines_flatten, ← String.toList_inj, hk, String.toList_append, newlines,
      String.toList_ofList, hkept]
  · rw [hkept]
    exact not_newline_isSuffix_dropNewlines _

namespace Document

/-- The text in front of the body. -/
def frontText (d : Document) (preamble : String) : String :=
  preamble ++ "\n\n\\begin\x7bdocument\x7d\n" ++ (if d.title.isEmpty then "" else "\\maketitle\n")
    ++ (if d.contents then "\\tableofcontents\n" else "") ++ "\n"

theorem joinLines_textParts (d : Document) (preamble body : String) :
    joinLines (d.textParts preamble body) ++ "\n" = d.frontText preamble ++ body
      ++ (if body.isEmpty then "" else "\n\n") ++ "\\end\x7bdocument\x7d\n" := by
  have hfront : endLines ([preamble, "", beginEnvironment "document"]
      ++ (if d.title.isEmpty then [] else ["\\maketitle"])
      ++ (if d.contents then ["\\tableofcontents"] else []) ++ [""]) = d.frontText preamble := by
    rw [frontText]
    by_cases ht : d.title.isEmpty <;> by_cases hc : d.contents <;>
      simp [ht, hc, ← String.toList_inj, String.toList_append, beginEnvironment, command, braced]
  have hbody : endLines (if body.isEmpty then [] else [body, ""])
      = body ++ if body.isEmpty then "" else "\n\n" := by
    split
    · rename_i h
      rw [String.isEmpty_iff.1 h]
      rfl
    · rw [endLines_cons]
      exact congrArg (body ++ ·) rfl
  have hend : endLines [endEnvironment "document"] = "\\end\x7bdocument\x7d\n" := rfl
  rw [← endLines_eq (by simp [textParts]), textParts, endLines_append, endLines_append, hfront,
    hbody, hend]
  simp only [String.append_assoc]

/-- **The texts of an author stand in the text of a document as they are.**  The body is put
together from one piece for each entry, in the order of the entries, and a piece shows the texts of
its entry, each once and in order, with nothing but the library's own words between them.  Only line
feeds are dropped, those at the very end of the last pieces. -/
theorem render_shows {axes : Axes} {d : Document} {text : String}
    (h : d.render axes = .ok text) :
    ∃ preamble shown body k, d.preamble = .ok preamble
      ∧ d.plan.map (·.2.entry) = d.entries
      ∧ List.Forall₂ (fun step s ↦ ∃ ts, step.2.given axes = .ok ts
          ∧ Shows (ownWords d.mode step.1 step.2.entry) ts s) d.plan shown
      ∧ String.join shown = body ++ newlines k
      ∧ ¬ ['\n'] <:+ body.toList
      ∧ text = d.frontText preamble ++ body ++ (if body.isEmpty then "" else "\n\n")
        ++ "\\end\x7bdocument\x7d\n" := by
  obtain ⟨preamble, body, hpreamble, hbody, rfl⟩ := render_eq_ok.1 h
  obtain ⟨shown, k, hshown, hjoin, hlast⟩ := exists_shown_of_body hbody
  exact ⟨preamble, shown, body, k, hpreamble, d.map_entry_plan, hshown, hjoin, hlast,
    joinLines_textParts d preamble body⟩

/-- A note whose last texts are blank, after a figure with its caption in front. -/
def blankNote : Document where
  autoSections := false
  entries := [
    .code ⟨"A value.", "x = 1", "Values", "x"⟩,
    .figure {
      plot := .raw "\\draw (0,0);" none
      caption := "A \\emph\x7bline\x7d"
      captionPosition := .before
      label := some "fig:line" },
    .text ⟨"The end\n", some "End", none⟩,
    .text ⟨"\n\n", none, none⟩]

theorem render_shows_of_blankNote :
    ∃ text, blankNote.render #[] = .ok text
      ∧ ∃ front shown body k, List.Forall₂ (fun step s ↦ ∃ ts, step.2.given #[] = .ok ts
          ∧ Shows (ownWords .standard step.1 step.2.entry) ts s) blankNote.plan shown
        ∧ String.join shown = body ++ newlines k
        ∧ text = front ++ body ++ (if body.isEmpty then "" else "\n\n")
          ++ "\\end\x7bdocument\x7d\n" := by
  obtain ⟨text, h⟩ : ∃ text, blankNote.render #[] = .ok text := ⟨_, rfl⟩
  obtain ⟨preamble, shown, body, k, _, _, hshown, hjoin, _, htext⟩ := render_shows h
  exact ⟨text, h, _, shown, body, k, hshown, hjoin, htext⟩

end Document

end TexWeave
