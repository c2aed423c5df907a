import TexWeave.Proofs.Decorators
import TexWeave.Proofs.Operations
import TexWeave.Proofs.StatementTexts

/-!
# The definition that is described

What an author describes is an object, and its source is looked up again: a function is known by the
line of its code, a class by its qualified name.  Where that leads back to the first line of the
statement that made the object, the text of this statement is listed, whatever other definitions of
the name the module has.  Of several classes with one qualified name the first is listed for all.

* `StandsFirst` — when the lookup leads back to the first line of a statement.
* `perform_describe_decorate` — the entry for the object a statement makes.
-/

set_option autoImplicit false

namespace TexWeave
namespace Source

open Text Form Scanner Tree

namespace Module

/-! ## Where it is looked for -/

/-- The lookup for what a statement makes in a frame leads back to the statement's first line. -/
structure StandsFirst (text : List Char) (t : Tree) (f : Frame) (s d : Tree) : Prop where
  /-- A class is the first of its qualified name. -/
  first : d.isNode .className = true →
    classLine (f.path ++ declaredName d) "" t = some s.firstLine
  /-- The first line of a function looks like one; that of a decorator always does. -/
  opens : d.isNode .className = false → decoratorLines s = [] →
    opensFunction ((splitAt '\n' text).dropLast.getD (s.firstLine - 1) []) = true
  /-- The expression of the first decorator stands on no later line that does. -/
  nearest : d.isNode .className = false → ∀ n < codeLine s d, s.firstLine ≤ n →
    opensFunction ((splitAt '\n' text).dropLast.getD n []) = false

instance (text : List Char) (t : Tree) (f : Frame) (s d : Tree) :
    Decidable (StandsFirst text t f s d) :=
  decidable_of_iff ((d.isNode .className = true →
      classLine (f.path ++ declaredName d) "" t = some s.firstLine)
    ∧ (d.isNode .className = false → decoratorLines s = [] →
      opensFunction ((splitAt '\n' text).dropLast.getD (s.firstLine - 1) []) = true)
    ∧ (d.isNode .className = false → ∀ n < codeLine s d, s.firstLine ≤ n →
      opensFunction ((splitAt '\n' text).dropLast.getD n []) = false))
    ⟨fun ⟨hfirst, hopens, hnearest⟩ ↦ ⟨hfirst, hopens, hnearest⟩,
      fun h ↦ ⟨h.first, h.opens, h.nearest⟩⟩

theorem nearestStart_eq {ls : List (List Char)} {m n : Nat} (hle : m ≤ n)
    (hm : opensFunction (ls.getD m []) = true)
    (hbetween : ∀ k ≤ n, m < k → opensFunction (ls.getD k []) = false) :
    nearestStart ls n = m := by
  induction n with
  | zero => exact (Nat.le_zero.1 hle).symm
  | succ n ih =>
    rcases hle.lt_or_eq with hlt | rfl
    · have hskip := hbetween (n + 1) (Nat.le_refl _) hlt
      have hlater := ih (Nat.le_of_lt_succ hlt) fun k hk ↦ hbetween k (Nat.le_succ_of_le hk)
      rw [nearestStart]
      split
      · next l hl =>
        rw [List.getD_eq_getElem?_getD, hl, Option.getD_some] at hskip
        rw [if_neg (by rw [hskip]; decide), hlater]
      · exact hlater
    · rw [List.getD_eq_getElem?_getD] at hm
      rw [nearestStart]
      split
      · next l hl =>
        rw [hl, Option.getD_some] at hm
        rw [if_pos hm]
      · next hnone =>
        rw [hnone] at hm
        exact absurd hm (by decide)

section

variable {text X p r : List Char} {x : Char} {d s t : Tree} {q e b : Scanner}
  {ts closing behind u : List Token} {form : Syn}

/-- The line by which a definition is known is that of a word of its statement. -/
theorem codeLine_cases (hform : form ∈ definingForms) (h : Yields grammar form u [s])
    (hd : undecorated? s = some d) :
    decoratorLines s = [] ∧ d = s
      ∨ ∃ k w, s.tokens = k :: w ∧ k.text = "@"
        ∧ ∃ j ∈ s.tokens, j.isLayout = false ∧ j.line = codeLine s d := by
  rcases List.mem_cons.1 hform with rfl | hform
  · right
    obtain ⟨cs, hs, hparts⟩ := h.of_node
    obtain rfl := List.singleton_inj.1 hs
    obtain ⟨v, w, b, c, rfl, rfl, hdecorators, -⟩ := hparts.parts
    obtain ⟨v, v', a, b, rfl, rfl, hfirst, -⟩ := hdecorators.parts
    obtain ⟨_, rfl, t, g, t', rfl, -, ⟨p, j, q, he, -, hj, hjline⟩, -⟩ :=
      isDecorator_of_yields hfirst
    have htext : t.text = "@" := by
      obtain ⟨_, hc, hline⟩ := hfirst.of_node
      obtain ⟨k, w', rfl, -, htext⟩ := exists_first_of_word hline
      have htokens := tokensOf_of_yields keeps_grammar hfirst
        ⟨tokens_node _, trivial, trivial, trivial, trivial⟩
      rw [tokensOf_singleton, tokens_node, tokensOf, tokens] at htokens
      rw [(List.cons.inj htokens).1, htext]
    refine ⟨t, p ++ j :: (q ++ t' :: (tokensOf b ++ tokensOf c)), ?_, htext, j, ?_, hj, ?_⟩
    · simp [tokens, tokensOf, tokensOf_append, he]
    · simp [tokens, tokensOf, tokensOf_append, he]
    · rw [codeLine, List.append_assoc, List.singleton_append, decoratorLines_cons, hjline]
      rfl
  · left
    obtain ⟨-, kind, f', rfl, hnode⟩ := node_of_mem_definitionForms hform
    obtain ⟨cs, hs, -⟩ := h.of_node
    obtain rfl := List.singleton_inj.1 hs
    have hsame := Option.some.inj ((hnode cs).symm.trans hd)
    refine ⟨?_, hsame.symm⟩
    cases kind <;> first | rfl | cases hnode []

theorem opensFunction_of_sign (hp : ∀ c ∈ p, isBlank c = true) (r : List Char) :
    opensFunction (p ++ '@' :: r) = true := by
  have htrim : (trimStart (p ++ '@' :: r ++ ['\n'])).head? = some '@' := by
    rw [trimStart, List.append_assoc, List.dropWhile_append_of_pos hp]
    rfl
  rw [opensFunction, htrim]
  exact Bool.or_true _

/-- A statement under decorators begins with their sign. -/
theorem opensFunction_of_decorated (h : NestedStretch text s q ts e X closing behind)
    (hb : OpensLine text b) (hline : b.line = s.firstLine) {k : Token} {w : List Token}
    (hs : s.tokens = k :: w) (hk : k.text = "@") :
    opensFunction ((splitAt '\n' text).dropLast.getD (s.firstLine - 1) []) = true := by
  obtain ⟨p, x, r, hp, hx, hrest⟩ := h.exists_indented hb hline
  obtain ⟨j, w', r', hj, -, hq⟩ := h.opening
  obtain rfl : x = '@' := by
    have hqx := (h.opens hb hline hp hrest).1
    rw [hs] at hj
    rw [hqx, ← (List.cons.inj hj).1, hk] at hq
    exact (List.cons.inj hq).1
  -- the line is not the last one, behind the last line feed
  have hfeed : s.firstLine - 1 < text.count '\n' := by
    obtain ⟨front, v, hfront, -⟩ := h.start
    obtain ⟨V, hV⟩ := (stands_start text).reaches (hfront.trans h.reaches)
    have hle := h.reaches.line_le
    rw [hV.line_eq] at hle
    rw [hV.text_eq, h.rest_eq, List.count_append, List.count_cons_self, h.firstLine_eq]
    omega
  rw [List.getD_eq_getElem?_getD, List.getElem?_dropLast, if_pos (by rwa [length_splitAt]),
    getElem?_firstLine hb hline hp hrest, Option.getD_some]
  exact opensFunction_of_sign (fun c hc ↦ isBlank_of_isRoom (hp.room c hc)) _

/-- **The source of what a statement makes**: the lines from its first one on. -/
theorem source_eq {f : Frame} {y : Thing} (hfile : IsFile text) (hread : readText text = .ok t)
    (hs : s ∈ t.definitions) (hd : undecorated? s = some d)
    (hopens : ∃ b ∈ lineStarts text, b.line = s.firstLine) (hfirst : StandsFirst text t f s d)
    (hy : unwrapped y = madeBy f s d) :
    (⟨text, t, y⟩ : Found).source = .ok (linesFrom text (s.firstLine - 1)) := by
  rw [Found.source, hy, madeBy]
  by_cases hclass : d.isNode .className = true
  · rw [if_pos hclass]
    dsimp only
    rw [hfirst.first hclass]
  · have hplain : d.isNode .className = false := by simpa using hclass
    obtain ⟨q, ts, e, X, closing, form, behind, h, hform, hparses, -⟩ :=
      exists_nestedStretch hread hs
    obtain ⟨v, -, hyields⟩ := exists_yields_of_parses terminates_grammar hparses
      (isGrounded_of_mem_definingForms hform)
    rw [hfile.closed_eq] at h
    obtain ⟨b, hb, hline⟩ := hopens
    have hcases : s.firstLine ≤ codeLine s d
        ∧ opensFunction ((splitAt '\n' text).dropLast.getD (s.firstLine - 1) []) = true := by
      rcases codeLine_cases hform hyields hd with
        ⟨hnone, rfl⟩ | ⟨k, w, hk, htext, j, hj, hlayout, hjline⟩
      · exact ⟨by rw [codeLine, hnone]; rfl, hfirst.opens hplain hnone⟩
      · exact ⟨hjline ▸ h.firstLine_le hj hlayout,
          opensFunction_of_decorated h (mem_lineStarts.1 hb) hline hk htext⟩
    rw [if_neg hclass]
    dsimp only
    rw [nearestStart_eq (Nat.sub_le_sub_right hcases.1 1) hcases.2 fun k hk hlt ↦
      hfirst.nearest hplain k (by omega) (by omega)]

end

/-- A module is read as a file is. -/
theorem isFile_textOf (text : String) : IsFile (textOf text) := by
  have hclose {cs : List Char} (hcs : '\r' ∉ cs) : IsFile ((if cs.isEmpty then none
      else some (if cs.getLast? == some '\n' then cs else cs ++ ['\n'])).getD []) := by
    split
    · exact ⟨wholeLines_nil, List.not_mem_nil⟩
    · rw [Option.getD_some]
      split
      · next hlast =>
        refine ⟨fun c hc ↦ ?_, hcs⟩
        rw [beq_iff_eq.1 hlast] at hc
        exact (Option.some.inj hc).symm
      · exact ⟨wholeLines_nil.behind cs, by simp [hcs]⟩
  exact hclose (not_mem_unifyNewlines _)

end Module

end Source

open Text Source Source.Module

/-! ## What is listed -/

/-- The entry for a definition that is named as it declares. -/
theorem CodeEntry.make_null {source : String} {found : Definition} (description : String)
    (h : sliceDefinition source = .ok found) :
    CodeEntry.make (.str description) (.str source) .null
      = .ok ⟨description, found.text, deriveTitle found.name, found.name⟩ := by
  rw [CodeEntry.make, h]
  rfl

theorem entry?_describe {found : Found} {source : String} (h : found.source = .ok source)
    (blocks : List Authoring.OpenBlock) (target : Target) (description : Value) :
    Operation.entry? blocks (.describe target description found)
      = some (Entry.code <$> CodeEntry.make description (.str source) .null) := by
  rw [Operation.entry?, h]
  simp only [bind, Except.bind, Addition.built]

/-- The entry that lists the definition of a statement. -/
def CodeEntry.ofStatement (text : List Char) (description : String) (s d : Tree) : CodeEntry :=
  let ls := splitLines (String.ofList text)
  ⟨description, statementText ls s d, deriveTitle (statementName ls s d), statementName ls s d⟩

section

variable {text : String} {t s d : Tree} {n : Nat} {f : Frame} {gs : List Thing} {target : Target}
  {studio : Studio} {place : DocumentId}

/-- What is looked up from the first line of a statement on is listed as the statement. -/
theorem perform_describe_of_source {found : Found} (hread : readText (textOf text) = .ok t)
    (hs : s ∈ t.definitions) (hd : undecorated? s = some d) (haligned : IsAligned (textOf text) s)
    (hsource : found.source = .ok (linesFrom (textOf text) (s.firstLine - 1)))
    (hplace : target.place? studio.currentOf = some place) (blocks : List Authoring.OpenBlock)
    (description : String) :
    let entry : Entry := .code (.ofStatement (textOf text) description s d)
    ∃ w, execute (perform blocks (.describe target (.str description) found)) studio
      = (.ok (.entry entry), { studio with
        documents := studio.documents.modify place (·.append entry), world := w }) := by
  have hslice := sliceDefinition_linesFrom (isFile_textOf text) hread hs hd haligned
  refine exists_execute_of_built rfl hplace ?_
  rw [entry?_describe hsource, CodeEntry.make_null description hslice]
  rfl

/-- **What a statement makes is listed as this statement**, if the lookup leads back to it. -/
theorem perform_describe_decorate (hread : readText (textOf text) = .ok t)
    (hs : s ∈ t.definitions) (hd : undecorated? s = some d) (hgs : ∀ g ∈ gs, IsTransparent n f g)
    (hfirst : StandsFirst (textOf text) t f s d) (haligned : IsAligned (textOf text) s)
    (hplace : target.place? studio.currentOf = some place) (blocks : List Authoring.OpenBlock)
    (description : String) :
    let found : Found := ⟨textOf text, t, decorate n f gs (madeBy f s d)⟩
    let entry : Entry := .code (.ofStatement (textOf text) description s d)
    ∃ w, execute (perform blocks (.describe target (.str description) found)) studio
      = (.ok (.entry entry), { studio with
        documents := studio.documents.modify place (·.append entry), world := w }) :=
  perform_describe_of_source hread hs hd haligned
    (source_eq (isFile_textOf text) hread hs hd haligned.opens hfirst (unwrapped_decorate hgs s d))
    hplace blocks description

/-- A function under a decorator that is defined once more. -/
theorem perform_describe_of_decorated :
    let text := "if 1:\n  @keep\n  def f(x): # b\n\n    return x\ndef f(): pass\n"
    ∃ t s d, readText (textOf text) = .ok t ∧ s ∈ t.definitions ∧ undecorated? s = some d
      ∧ (execute (perform [] (.describe { given := some 0 } (.str "Same.")
          ⟨textOf text, t, decorate 5 {} [keep] (madeBy {} s d)⟩)) { documents := #[{}] }).1
        = .ok (.entry (.code ⟨"Same.", "def f(x): # b\n\n  return x", "F", "f"⟩)) := by
  intro text
  have hfacts : (readText (textOf text)).toOption.bind (fun t ↦ t.definitions[2]?.bind fun s ↦
      (undecorated? s).map fun d ↦ (decide (StandsFirst (textOf text) t {} s d
        ∧ IsAligned (textOf text) s), CodeEntry.ofStatement (textOf text) "Same." s d))
      = some (true, ⟨"Same.", "def f(x): # b\n\n  return x", "F", "f"⟩) := by
    decide +kernel
  obtain ⟨t, ht, hfacts⟩ := Option.bind_eq_some_iff.1 hfacts
  obtain ⟨s, hs, hfacts⟩ := Option.bind_eq_some_iff.1 hfacts
  obtain ⟨d, hd, hfacts⟩ := Option.map_eq_some_iff.1 hfacts
  obtain ⟨hplaced, hentry⟩ := Prod.mk.inj hfacts
  obtain ⟨hfirst, haligned⟩ := of_decide_eq_true hplaced
  have hread : readText (textOf text) = .ok t := by
    cases h : readText (textOf text) with
    | error f => rw [h] at ht; cases ht
    | ok u => rw [h] at ht; exact congrArg Except.ok (Option.some.inj ht)
  have hkeep : ∀ g ∈ [keep], IsTransparent 5 {} g :=
    List.forall_mem_singleton.2 (isTransparent_keep 0 {})
  have hplace : ({ given := some 0 } : Target).place? ({ documents := #[{}] } : Studio).currentOf
      = some 0 := rfl
  obtain ⟨w, hw⟩ := perform_describe_decorate hread (List.mem_of_getElem? hs) hd hkeep hfirst
    haligned hplace [] "Same."
  refine ⟨t, s, d, hread, List.mem_of_getElem? hs, hd, ?_⟩
  rw [hw, hentry]

/-- Of several classes with one qualified name the first is listed for all. -/
theorem perform_describe_class {s' d' : Tree} (hread : readText (textOf text) = .ok t)
    (hd : d.isNode .className = true) (hgs : ∀ g ∈ gs, IsTransparent n f g)
    (hs' : s' ∈ t.definitions) (hd' : undecorated? s' = some d')
    (hfirst : classLine (f.path ++ declaredName d) "" t = some s'.firstLine)
    (haligned : IsAligned (textOf text) s') (hplace : target.place? studio.currentOf = some place)
    (blocks : List Authoring.OpenBlock) (description : String) :
    let found : Found := ⟨textOf text, t, decorate n f gs (madeBy f s d)⟩
    let entry : Entry := .code (.ofStatement (textOf text) description s' d')
    ∃ w, execute (perform blocks (.describe target (.str description) found)) studio
      = (.ok (.entry entry), { studio with
        documents := studio.documents.modify place (·.append entry), world := w }) := by
  refine perform_describe_of_source hread hs' hd' haligned ?_ hplace blocks description
  rw [Found.source, unwrapped_decorate hgs, madeBy, if_pos hd]
  dsimp only
  rw [hfirst]

/-- The texts of two classes of one name, and what is listed for each of them. -/
theorem describeFound_of_two_classes :
    let text := textOf "class C:\n    'Old.'\nclass C:\n    'New.'\n"
    (readText text).toOption.map (fun t ↦ t.definitions.map fun s ↦
        (statementText (splitLines (String.ofList text)) s s,
          (execute (Authoring.describeFound "" (some 0) (.str "") ⟨text, t, madeBy {} s s⟩)
            { documents := #[{}] }).1.toOption.map CodeEntry.source))
      = some [("class C:\n    'Old.'", some "class C:\n    'Old.'"),
        ("class C:\n    'New.'", some "class C:\n    'Old.'")] := by
  decide +kernel

end

end TexWeave
