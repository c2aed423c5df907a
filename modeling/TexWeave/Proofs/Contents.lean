import TexWeave.Proofs.Verbatim

/-!
# Headings and contents apart

A block is a heading, the lines of its entry, and an empty line.  Headings are settled by titles and
never by the mode; the lines of an entry are settled by the mode and by the number of figures, and
never by headings.  So a document that changes in one of the two keeps the other, and its body can
be compared with the one of before block by block.  Only the line feeds at the end of a body belong
to no block.  They are as many as before if the blocks end alike.

* `Document.entryLines`, `Document.blocks_eq_ok` — the lines of all entries, and the blocks they
  make with the headings.
* `EndsAlike` — two texts with an end in common, line feeds aside.
* `Document.exists_bodies` — two bodies block by block.
-/

set_option autoImplicit false

namespace TexWeave

open Text

/-! ## The lines of entries -/

/-- Entries with the number of figures up to and with each, when `n` came before. -/
def numberEntries (n : Nat) : List Entry → List (Nat × Entry)
  | [] => []
  | e :: r =>
    let number := if e.figure?.isSome then n + 1 else n
    (number, e) :: numberEntries number r

/-- Figures are numbered without regard to sections. -/
theorem map_numberFrom (n : Nat) (steps : List SectionStep) :
    (numberFrom n steps).map (fun step ↦ (step.1, step.2.entry))
      = numberEntries n (steps.map (·.entry)) := by
  induction steps generalizing n with
  | nil => rfl
  | cons s r ih => exact congrArg (List.cons _) (ih _)

section

variable {mode : Mode} {axes : Axes}

/-- Blocks are headings put in front of the lines of entries. -/
theorem mapM_blockLines_eq_ok {steps : List (Nat × SectionStep)} {bs : List (List String)} :
    steps.mapM (blockLines mode axes) = .ok bs ↔
      ∃ cs, (steps.map fun step ↦ (step.1, step.2.entry)).mapM
          (fun e ↦ contentLines mode axes e.1 e.2) = .ok cs
        ∧ bs = (steps.zip cs).map fun p ↦ headingLines p.1.2 ++ p.2 ++ [""] := by
  induction steps generalizing bs with
  | nil =>
    constructor
    · intro h
      exact ⟨[], rfl, pure_eq_ok.1 h⟩
    · rintro ⟨cs, _, rfl⟩
      rfl
  | cons step steps ih =>
    rw [List.map_cons, mapM_cons_eq_ok]
    constructor
    · rintro ⟨bl, rest, hbl, hrest, rfl⟩
      obtain ⟨ls, hls, rfl⟩ := blockLines_eq_ok.1 hbl
      obtain ⟨cs, hcs, rfl⟩ := ih.1 hrest
      exact ⟨ls :: cs, mapM_cons_eq_ok.2 ⟨ls, cs, hls, hcs, rfl⟩, rfl⟩
    · rintro ⟨_, hall, rfl⟩
      obtain ⟨ls, cs, hls, hcs, rfl⟩ := mapM_cons_eq_ok.1 hall
      exact ⟨_, _, blockLines_eq_ok.2 ⟨ls, hls, rfl⟩, ih.2 ⟨cs, hcs, rfl⟩, rfl⟩

end

namespace Document

variable {axes : Axes} {d : Document}

/-- The entries of a plan with their numbers. -/
theorem numbered_plan (d : Document) :
    d.plan.map (fun step ↦ (step.1, step.2.entry)) = numberEntries 0 d.entries := by
  rw [plan, map_numberFrom, planSections, map_entry_planFrom]

/-- The lines of all entries, without their headings. -/
def entryLines (axes : Axes) (d : Document) : Except Failure (List (List String)) :=
  (numberEntries 0 d.entries).mapM fun e ↦ contentLines d.mode axes e.1 e.2

/-- **A block is a heading and the lines of its entry.** -/
theorem blocks_eq_ok {bs : List (List String)} : d.blocks axes = .ok bs ↔
    ∃ cs, d.entryLines axes = .ok cs
      ∧ bs = (d.plan.zip cs).map fun p ↦ headingLines p.1.2 ++ p.2 ++ [""] := by
  rw [blocks, mapM_blockLines_eq_ok, numbered_plan]
  rfl

/-- Every planned entry has its lines. -/
theorem entryLines_eq_ok {cs : List (List String)} : d.entryLines axes = .ok cs ↔
    List.Forall₂ (fun step ls ↦ contentLines d.mode axes step.1 step.2.entry = .ok ls)
      d.plan cs := by
  rw [entryLines, mapM_eq_ok, ← numbered_plan, List.forall₂_map_left_iff]

/-- A document that can be rendered has lines for all its entries. -/
theorem exists_entryLines_of_render {text : String} (h : d.render axes = .ok text) :
    ∃ cs, d.entryLines axes = .ok cs := by
  obtain ⟨_, _, _, hbody, _⟩ := render_eq_ok.1 h
  obtain ⟨_, hblocks, _⟩ := body_eq_ok_of_blocks.1 hbody
  obtain ⟨cs, hcs, _⟩ := blocks_eq_ok.1 hblocks
  exact ⟨cs, hcs⟩

/-- The blocks of a document whose entries have the lines given, as parts of something more. -/
theorem blocks_of_forall₂ {ι : Type} {ps : List ι} {f : ι → List String}
    (h : List.Forall₂ (fun step p ↦ contentLines d.mode axes step.1 step.2.entry = .ok (f p))
      d.plan ps) :
    d.blocks axes = .ok ((d.plan.zip ps).map fun q ↦ headingLines q.1.2 ++ f q.2 ++ [""]) := by
  refine blocks_eq_ok.2 ⟨ps.map f, entryLines_eq_ok.2 (List.forall₂_map_right_iff.2 h), ?_⟩
  rw [List.zip_map_right, List.map_map]
  rfl

end Document

/-! ## Texts that end alike -/

theorem listing_standard (source : String) : listing .standard source
    = [beginEnvironment "lstlisting", source, endEnvironment "lstlisting"] := rfl

theorem listing_tufte (source : String) : listing .tufte source
    = [beginEnvironment "pygments" ++ braced "python", source, endEnvironment "pygments"] := rfl

/-- Two texts are the same, or have an end in common that is more than line feeds. -/
inductive EndsAlike : String → String → Prop
  | same (t : String) : EndsAlike t t
  | shared (s s' : String) {t : String} {c : Char} (hc : c ∈ t.toList) (hne : c ≠ '\n') :
      EndsAlike (s ++ t) (s' ++ t)

namespace EndsAlike

variable {s s' t t' : String}

theorem append (h : EndsAlike s s') (h' : EndsAlike t t') : EndsAlike (s ++ t) (s' ++ t') := by
  cases h' with
  | same =>
    cases h with
    | same => exact .same _
    | shared a a' hc hne =>
      rw [String.append_assoc, String.append_assoc]
      exact .shared a a' (by rw [String.toList_append]; exact List.mem_append_left _ hc) hne
  | shared a a' hc hne =>
    rw [← String.append_assoc, ← String.append_assoc]
    exact .shared _ _ hc hne

theorem join {ι : Type} {ps : List ι} {f g : ι → String} (h : ∀ p ∈ ps, EndsAlike (f p) (g p)) :
    EndsAlike (String.join (ps.map f)) (String.join (ps.map g)) := by
  induction ps with
  | nil => exact .same _
  | cons p ps ih =>
    obtain ⟨hp, hps⟩ := List.forall_mem_cons.1 h
    rw [List.map_cons, List.map_cons, String.join_cons, String.join_cons]
    exact hp.append (ih hps)

/-- Blocks that close an environment end alike, whatever the environment. -/
theorem closed (a a' : List String) (n n' : String) :
    EndsAlike (endLines (a ++ [endEnvironment n] ++ [""]))
      (endLines (a' ++ [endEnvironment n'] ++ [""])) := by
  have hblock (a : List String) (n : String) :
      endLines (a ++ [endEnvironment n] ++ [""])
        = endLines a ++ "\\end\x7b" ++ n ++ "\x7d\n\n" := by
    simp [endLines_append, ← String.toList_inj, String.toList_append, endEnvironment, command,
      braced]
  rw [hblock, hblock]
  exact .shared (c := '\x7d') _ _ (by decide) (by decide)

/-- Blocks that close a listing end alike, whatever the mode. -/
theorem listing (a a' : List String) (mode mode' : Mode) (source : String) :
    EndsAlike (endLines (a ++ TexWeave.listing mode source ++ [""]))
      (endLines (a' ++ TexWeave.listing mode' source ++ [""])) := by
  have hlisting (mode : Mode) :
      ∃ front name, TexWeave.listing mode source = front ++ [endEnvironment name] := by
    cases mode with
    | standard => exact ⟨[_, source], _, listing_standard source⟩
    | tufte => exact ⟨[_, source], _, listing_tufte source⟩
  obtain ⟨front, name, h⟩ := hlisting mode
  obtain ⟨front', name', h'⟩ := hlisting mode'
  rw [h, h', ← List.append_assoc, ← List.append_assoc]
  exact .closed _ _ name name'

/-- **Texts that end alike lose the same line feeds.** -/
theorem exists_newlines (h : EndsAlike t t') :
    ∃ k, t = dropNewlines t ++ newlines k ∧ t' = dropNewlines t' ++ newlines k := by
  have hkept (u : String) : ∃ k, u = dropNewlines u ++ newlines k := by
    obtain ⟨k, hk⟩ := exists_eq_dropNewlines_append u
    refine ⟨k, ?_⟩
    rw [← String.toList_inj, String.toList_append, newlines, String.toList_ofList, hk]
  cases h with
  | same =>
    obtain ⟨k, hk⟩ := hkept t
    exact ⟨k, hk, hk⟩
  | @shared s s' u c hc hne =>
    obtain ⟨k, hk⟩ := hkept u
    have hshared (a : String) : a ++ u = dropNewlines (a ++ u) ++ newlines k := by
      rw [dropNewlines_append_of_mem hc hne, String.append_assoc, ← hk]
    exact ⟨k, hshared s, hshared s'⟩

end EndsAlike

/-- **Two bodies block by block.**  When the blocks of two documents end alike, each body is its
blocks without the line feeds at the end, and these are as many for one as for the other. -/
theorem Document.exists_bodies {axes : Axes} {d d' : Document} {ι : Type} {ps : List ι}
    {f g : ι → List String} (h : d.blocks axes = .ok (ps.map f))
    (h' : d'.blocks axes = .ok (ps.map g))
    (halike : ∀ p ∈ ps, EndsAlike (endLines (f p)) (endLines (g p))) :
    ∃ body body' k, d.body axes = .ok body ∧ d'.body axes = .ok body'
      ∧ String.join (ps.map fun p ↦ endLines (f p)) = body ++ newlines k
      ∧ String.join (ps.map fun p ↦ endLines (g p)) = body' ++ newlines k
      ∧ ¬ ['\n'] <:+ body.toList ∧ ¬ ['\n'] <:+ body'.toList := by
  have hbody (f : ι → List String) : dropNewlines (joinLines (ps.map f).flatten)
      = dropNewlines (String.join (ps.map fun p ↦ endLines (f p))) := by
    rw [dropNewlines_joinLines, endLines_flatten, List.map_map]
    rfl
  obtain ⟨k, hk, hk'⟩ := (EndsAlike.join halike).exists_newlines
  exact ⟨_, _, k, body_eq_ok_of_blocks.2 ⟨_, h, (hbody f).symm⟩,
    body_eq_ok_of_blocks.2 ⟨_, h', (hbody g).symm⟩, hk, hk',
    not_newline_isSuffix_dropNewlines _, not_newline_isSuffix_dropNewlines _⟩

end TexWeave
