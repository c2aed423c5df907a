import TexWeave.Compose
import TexWeave.Proofs.Definitions

/-!
# The name in the header

A definition is named twice: by the token that the grammar finds, and by what stands in the line its
text begins with.  The two readings agree on every header whose line holds all of it up to the
character behind the name.  A header may be continued on the next line, and the backslash that does
so is not told apart from the name.

* `nameAfter?`, `headerName?_eq` — what the line gives behind its opening word.
* `headerName?_of_place` — what the line of a definition gives.
* `sliceDefinition_name` — which name a definition is given.
* `sliceDefinition_of_continued_name` — a header whose name comes with a backslash.
-/

set_option autoImplicit false

namespace TexWeave
namespace Source

open Text Scanner

/-! ## Lines of spacing -/

/-- Spacing is room on this line, or room up to a backslash that ends the line. -/
theorem lineTail_spacing {w : List Char} (hw : IsSpacing w) (r : List Char) :
    ((∀ c ∈ w, IsRoom c) ∧ lineTail (w ++ r) = w ++ lineTail r)
      ∨ ∃ b, (∀ c ∈ b, IsRoom c) ∧ lineTail (w ++ r) = b ++ ['\\'] := by
  induction hw with
  | nil => exact .inl ⟨List.forall_mem_nil _, rfl⟩
  | @room c w hc _ ih =>
    have hcons : lineTail (c :: w ++ r) = c :: lineTail (w ++ r) :=
      List.takeWhile_cons_of_pos (by simpa using ne_newline_of_isRoom hc)
    rcases ih with ⟨hroom, htail⟩ | ⟨b, hb, htail⟩
    · exact .inl ⟨List.forall_mem_cons.2 ⟨hc, hroom⟩, by rw [hcons, htail]; rfl⟩
    · exact .inr ⟨c :: b, List.forall_mem_cons.2 ⟨hc, hb⟩, by rw [hcons, htail]; rfl⟩
  | fold => exact .inr ⟨[], List.forall_mem_nil _, rfl⟩

/-! ## What the line gives -/

/-- Whether a character ends a name in a header. -/
def endsName (c : Char) : Bool := isBlank c || c == '(' || c == ':' || c == '['

/-- What stands up to the character that ends a name, if it is anything. -/
def nameAt? (r : List Char) : Option String :=
  let name := r.takeWhile fun c ↦ !endsName c
  if name.isEmpty then none else some (String.ofList name)

/-- What stands behind a blank, up to the character that ends a name. -/
def nameAfter? (v : List Char) : Option String :=
  match v with
  | [] => none
  | c :: r => if isBlank c then nameAt? (r.dropWhile isBlank) else none

/-- What stands behind a blank, from the first character that is none. -/
def behindBlank? (v : List Char) : Option (List Char) :=
  match v with
  | [] => none
  | c :: r => if isBlank c then some (r.dropWhile isBlank) else none

theorem nameAfter?_eq (v : List Char) : nameAfter? v = (behindBlank? v).bind nameAt? := by
  cases v with
  | nil => rfl
  | cons c r =>
    rw [nameAfter?, behindBlank?]
    split <;> rfl

theorem afterSpacedWord?_append (w : String) (v : List Char) :
    afterSpacedWord? w (w.toList ++ v) = behindBlank? v := by
  have hprefix : w.toList.isPrefixOf (w.toList ++ v) = true :=
    List.isPrefixOf_iff_prefix.2 (List.prefix_append _ _)
  rw [afterSpacedWord?, if_pos hprefix, ← String.length_toList, List.drop_left]
  cases v <;> rfl

theorem headerName?_eq (line : String) : headerName? line =
    let cs := trimStart line.toList
    let cs := (afterSpacedWord? "async" cs).getD cs
    ((afterSpacedWord? "def" cs).or (afterSpacedWord? "class" cs)).bind nameAt? := by
  rw [headerName?]
  rfl

section

variable {h v : List Char}

theorem headerName?_def (hh : ∀ c ∈ h, isBlank c = true) :
    headerName? (String.ofList (h ++ ("def".toList ++ v))) = nameAfter? v := by
  have hasync : afterSpacedWord? "async" ("def".toList ++ v) = none := rfl
  have hclass : afterSpacedWord? "class" ("def".toList ++ v) = none := rfl
  have htrim : trimStart ("def".toList ++ v) = "def".toList ++ v := rfl
  rw [headerName?_eq, String.toList_ofList, trimStart_append hh, htrim]
  dsimp only
  rw [hasync, Option.getD_none, hclass, Option.or_none, afterSpacedWord?_append, nameAfter?_eq]

theorem headerName?_class (hh : ∀ c ∈ h, isBlank c = true) :
    headerName? (String.ofList (h ++ ("class".toList ++ v))) = nameAfter? v := by
  have hasync : afterSpacedWord? "async" ("class".toList ++ v) = none := rfl
  have hdef : afterSpacedWord? "def" ("class".toList ++ v) = none := rfl
  have htrim : trimStart ("class".toList ++ v) = "class".toList ++ v := rfl
  rw [headerName?_eq, String.toList_ofList, trimStart_append hh, htrim]
  dsimp only
  rw [hasync, Option.getD_none, hdef, Option.none_or, afterSpacedWord?_append, nameAfter?_eq]

/-- Behind the word for concurrency the header goes on if a blank does. -/
theorem headerName?_async (hh : ∀ c ∈ h, isBlank c = true) :
    headerName? (String.ofList (h ++ ("async".toList ++ v))) = match behindBlank? v with
      | some cs => ((afterSpacedWord? "def" cs).or (afterSpacedWord? "class" cs)).bind nameAt?
      | none => none := by
  have hdef : afterSpacedWord? "def" ("async".toList ++ v) = none := rfl
  have hclass : afterSpacedWord? "class" ("async".toList ++ v) = none := rfl
  have htrim : trimStart ("async".toList ++ v) = "async".toList ++ v := rfl
  rw [headerName?_eq, String.toList_ofList, trimStart_append hh, htrim]
  dsimp only
  rw [afterSpacedWord?_append]
  cases behindBlank? v with
  | none => rw [Option.getD_none, hdef, hclass]; rfl
  | some cs => rfl

end

/-! ## What the line of a definition gives -/

/-- Whether characters can be a name as far as its end in a header goes. -/
def IsNameLike (raw : List Char) : Prop := raw ≠ [] ∧ ∀ c ∈ raw, endsName c = false ∧ c ≠ '\\'

theorem isNameLike_of_isSpelled {raw : List Char} (h : IsSpelled raw) : IsNameLike raw := by
  refine ⟨h.ne_nil, fun c hc ↦ ⟨?_, ?_⟩⟩
  · have hlike := h.wordLike c hc
    rw [endsName, h.isBlank_eq c hc, Bool.eq_false_iff]
    intro hends
    simp only [Bool.false_or, Bool.or_eq_true, beq_iff_eq] at hends
    rcases hends with (rfl | rfl) | rfl <;> exact absurd hlike (by decide)
  · rintro rfl
    exact absurd (h.wordLike _ hc) (by decide)

/-- What a header line can give for a name: nothing, the name, or a backslash with or without the
name in front of it. -/
inductive Gives (raw : List Char) (v : List Char) (name : Option String) : Prop
  | nothing (h : name = none)
  | name (h : name = some (String.ofList raw))
  | continued (h : name = some (String.ofList (raw ++ ['\\'])) ∨ name = some "\\")
      (hv : ∃ b, v = b ++ ['\\'])

theorem takeWhile_endsName {raw : List Char} (hraw : IsNameLike raw) (r : List Char) :
    (raw ++ r).takeWhile (fun c ↦ !endsName c) = raw ++ r.takeWhile fun c ↦ !endsName c :=
  List.takeWhile_append_of_pos fun c hc ↦ by simp [(hraw.2 c hc).1]

theorem endsName_of_isRoom {c : Char} (h : IsRoom c) : endsName c = true := by
  rw [endsName, isBlank_of_isRoom h]
  rfl

/-- What follows a name on its line ends it, unless the line ends with a backslash there. -/
theorem takeWhile_behindName {w : List Char} (hw : IsSpacing w) {stop : Char}
    (hstop : stop = '(' ∨ stop = ':') (more : List Char) :
    (lineTail (w ++ stop :: more)).takeWhile (fun c ↦ !endsName c) = []
      ∨ lineTail (w ++ stop :: more) = ['\\'] := by
  rcases lineTail_spacing hw (stop :: more) with ⟨hroom, htail⟩ | ⟨b, hb, htail⟩
  · refine .inl ?_
    rw [htail]
    cases w with
    | nil =>
      rcases hstop with rfl | rfl
      · rfl
      · rfl
    | cons c w =>
      exact List.takeWhile_cons_of_neg (by simp [endsName_of_isRoom (hroom c List.mem_cons_self)])
  · rw [htail]
    cases b with
    | nil => exact .inr rfl
    | cons c b =>
      exact .inl (List.takeWhile_cons_of_neg
        (by simp [endsName_of_isRoom (hb c List.mem_cons_self)]))

theorem dropWhile_isBlank_room {w r : List Char} (hw : ∀ c ∈ w, IsRoom c) :
    (w ++ r).dropWhile isBlank = r.dropWhile isBlank :=
  List.dropWhile_append_of_pos fun c hc ↦ isBlank_of_isRoom (hw c hc)

theorem gives_nameAfter? {w raw w' more : List Char} (hw : IsSpacing w) (hraw : IsNameLike raw)
    (hw' : IsSpacing w') {stop : Char} (hstop : stop = '(' ∨ stop = ':') :
    let v := lineTail (w ++ (raw ++ (w' ++ stop :: more)))
    Gives raw v (nameAfter? v) := by
  intro v
  have hnewline : '\n' ∉ raw := fun h ↦ absurd (hraw.2 _ h).1 (by decide)
  obtain ⟨d, raw', rfl⟩ := List.exists_cons_of_ne_nil hraw.1
  have hd : isBlank d = false := by
    have hends := (hraw.2 d List.mem_cons_self).1
    simp only [endsName, Bool.or_eq_false_iff] at hends
    exact hends.1.1.1
  rcases lineTail_spacing hw (d :: raw' ++ (w' ++ stop :: more)) with
    ⟨hroom, htail⟩ | ⟨b, hb, htail⟩
  · have hv : v = w ++ (d :: raw' ++ lineTail (w' ++ stop :: more)) := by
      rw [← lineTail_append hnewline, ← htail]
    cases w with
    | nil =>
      refine .nothing ?_
      rw [hv, List.nil_append, List.cons_append, nameAfter?, hd]
      rfl
    | cons c w =>
      have hblank : nameAfter? v = nameAt? (d :: raw' ++ lineTail (w' ++ stop :: more)) := by
        rw [hv, List.cons_append, nameAfter?, isBlank_of_isRoom (hroom c List.mem_cons_self),
          dropWhile_isBlank_room fun e he ↦ hroom e (List.mem_cons_of_mem c he), List.cons_append,
          List.dropWhile_cons_of_neg (by simp [hd])]
        rfl
      rw [nameAt?, takeWhile_endsName hraw] at hblank
      rcases takeWhile_behindName hw' hstop more with hends | hends
      · rw [hends, List.append_nil] at hblank
        exact .name hblank
      · rw [hends] at hblank hv
        exact .continued (.inl hblank) ⟨c :: w ++ d :: raw', by rw [hv]; simp⟩
  · cases b with
    | nil =>
      refine .nothing ?_
      show nameAfter? (lineTail _) = none
      rw [htail]
      rfl
    | cons c b =>
      refine .continued (.inr ?_) ⟨c :: b, htail⟩
      show nameAfter? (lineTail _) = some "\\"
      rw [htail, List.cons_append, nameAfter?, isBlank_of_isRoom (hb c List.mem_cons_self),
        dropWhile_isBlank_room fun e he ↦ hb e (List.mem_cons_of_mem c he)]
      rfl

theorem Gives.behind {raw v : List Char} {name : Option String} (h : Gives raw v name)
    (front : List Char) : Gives raw (front ++ v) name := by
  cases h with
  | nothing h => exact .nothing h
  | name h => exact .name h
  | continued h hv =>
    obtain ⟨b, rfl⟩ := hv
    exact .continued h ⟨front ++ b, (List.append_assoc front b _).symm⟩

section

variable {s : Scanner} {out after : List Token} {name stop : Token}

/-- Behind the opening words of a header, the name and what ends it stand behind spacing. -/
theorem gives_of_runs (h : Runs s out) (hs : s.atLineStart = false) (hbrackets : s.brackets = [])
    (hout : significant out = name :: stop :: after) (hname : name.kind = .name)
    (hstop : IsFixed stop) (htext : stop.text = "(" ∨ stop.text = ":") :
    IsNameLike name.text.toList
      ∧ Gives name.text.toList (lineTail s.rest) (nameAfter? (lineTail s.rest)) := by
  obtain ⟨w, s₁, t₁, out₁, hw, hrest, hb, hreads, hruns, hafter⟩ :=
    h.next_piece hs hbrackets hout (.inl hname)
  obtain ⟨w', s₂, t₂, out₂, hw', hrest₁, -, hreads₂, -⟩ :=
    hruns.next_piece hreads.start (hreads.brackets (.inl hname) ▸ hb) hafter
      (isSolid_of_isFixed hstop)
  have hraw : IsNameLike name.text.toList := isNameLike_of_isSpelled (hreads.spelled hname)
  obtain ⟨c, hc, hsplit⟩ : ∃ c, (c = '(' ∨ c = ':') ∧ stop.text.toList = [c] := by
    rcases htext with htext | htext
    · exact ⟨'(', .inl rfl, by rw [htext]; rfl⟩
    · exact ⟨':', .inr rfl, by rw [htext]; rfl⟩
  refine ⟨hraw, ?_⟩
  rw [hrest, hreads.rest_eq, hrest₁, hreads₂.rest_eq, hsplit]
  exact gives_nameAfter? hw hraw hw' hc

end

/-- Behind the word for concurrency, the other opening word stands behind spacing. -/
theorem gives_async {w raw v : List Char} {h : List Char} (hh : ∀ c ∈ h, isBlank c = true)
    (hw : IsSpacing w) (hv : Gives raw (lineTail v) (nameAfter? (lineTail v))) :
    let line := h ++ ("async".toList ++ lineTail (w ++ ("def".toList ++ v)))
    Gives raw line (headerName? (String.ofList line)) := by
  intro line
  rw [headerName?_async hh]
  have hdef : lineTail ("def".toList ++ v) = "def".toList ++ lineTail v :=
    lineTail_append (by decide) v
  rcases lineTail_spacing hw ("def".toList ++ v) with ⟨hroom, htail⟩ | ⟨b, hb, htail⟩
  · rw [hdef] at htail
    cases w with
    | nil =>
      refine .nothing ?_
      rw [htail]
      rfl
    | cons c w =>
      have hbehind : behindBlank? (lineTail (c :: w ++ ("def".toList ++ v)))
          = some ("def".toList ++ lineTail v) := by
        rw [htail, List.cons_append, behindBlank?, if_pos (isBlank_of_isRoom
          (hroom c List.mem_cons_self)), dropWhile_isBlank_room fun e he ↦
          hroom e (List.mem_cons_of_mem c he)]
        rfl
      have hclass : afterSpacedWord? "class" ("def".toList ++ lineTail v) = none := rfl
      rw [hbehind]
      dsimp only
      rw [afterSpacedWord?_append, hclass, Option.or_none, ← nameAfter?_eq]
      have hline : line = (h ++ "async".toList ++ c :: w ++ "def".toList) ++ lineTail v := by
        simp only [line, htail, List.append_assoc]
      exact hline ▸ hv.behind _
  · refine .nothing ?_
    rw [htail]
    cases b with
    | nil => rfl
    | cons c b =>
      rw [List.cons_append, behindBlank?, if_pos (isBlank_of_isRoom (hb c List.mem_cons_self)),
        dropWhile_isBlank_room fun e he ↦ hb e (List.mem_cons_of_mem c he)]
      rfl

section

variable {start s : Scanner} {d : Tree} {front others : List Token} {first name stop : Token}
  {text u : List Char}

/-- **What the line of a definition gives** for its name. -/
theorem headerName?_of_place (h : Place start d front s first others name stop)
    (hu : Stands text u front s) :
    let line := lineHead u ++ lineTail s.rest
    IsNameLike name.text.toList
      ∧ Gives name.text.toList line (headerName? (String.ofList line)) := by
  intro line
  obtain ⟨t, out, rest, hreads, hruns, hout⟩ := h.reads
  have hwords := h.isHeader.words_text
  have hfixed := h.isHeader.words_fixed
  obtain ⟨hopens, hoperator⟩ := h.isHeader.first_text
  have hnewline : ∀ w ∈ ["def", "class", "async"], '\n' ∉ w.toList := by decide
  have hhead := (exists_line_of_place h hu).1
  have hline : line = lineHead u ++ (first.text.toList ++ lineTail t.rest) := by
    simp only [line]
    rw [hreads.rest_eq, lineTail_append (hnewline _ hopens)]
  have ht : t.brackets = [] := by
    rw [hreads.brackets (.inr hoperator)]
    exact (hu.layout (afterLayout_of_isFront h.isFront)).1
  have hsimple {w : String} (hw : first.text = w) (hothers : others = [])
      (hgives : ∀ v, headerName? (String.ofList (lineHead u ++ (w.toList ++ v))) = nameAfter? v) :
      IsNameLike name.text.toList
        ∧ Gives name.text.toList line (headerName? (String.ofList line)) := by
    rw [hothers] at hout
    obtain ⟨hlike, hv⟩ := gives_of_runs hruns hreads.start ht hout h.isHeader.name_kind
      h.isHeader.stop_fixed h.isHeader.stop_text
    refine ⟨hlike, ?_⟩
    rw [hline, hw, hgives, ← List.append_assoc]
    exact hv.behind _
  simp only [openingWords, List.mem_cons, List.not_mem_nil, or_false, List.map_cons,
    List.cons.injEq, List.map_eq_nil_iff] at hwords
  rcases hwords with ⟨hw, hothers⟩ | ⟨hw, hothers⟩ | ⟨hw, hothers⟩
  · exact hsimple hw hothers fun v ↦ headerName?_def hhead
  · exact hsimple hw hothers fun v ↦ headerName?_class hhead
  · obtain ⟨word, rfl, hword⟩ := List.map_eq_singleton_iff.1 hothers
    have hsolid := hfixed word (List.mem_cons_of_mem first List.mem_cons_self)
    obtain ⟨w, s₁, t₁, out₁, hspacing, hrest, hb, hreads₁, hruns₁, hafter⟩ :=
      hruns.next_piece hreads.start ht hout (isSolid_of_isFixed hsolid)
    have hbracket : t₁.brackets = [] := by
      rw [hreads₁.brackets (.inr (hword ▸ by decide)), hb]
    obtain ⟨hlike, hv⟩ := gives_of_runs hruns₁ hreads₁.start hbracket hafter h.isHeader.name_kind
      h.isHeader.stop_fixed h.isHeader.stop_text
    refine ⟨hlike, ?_⟩
    rw [hline, hw, hrest, hreads₁.rest_eq, hword]
    exact gives_async hhead hspacing hv

end

/-! ## The first line of a definition -/

/-- The first of the members from one place to another. -/
theorem head?_between {α : Type} {first last : Nat} {xs : List α} {x : α}
    (h : xs[first - 1]? = some x) (hfirst : 0 < first) (hle : first ≤ last) :
    (between first last xs).head? = some x := by
  rw [between, List.head?_drop, List.getElem?_take_of_lt (by omega), h]

section

variable {ls : List String} {start s : Scanner} {d : Tree} {front others : List Token}
  {first name stop : Token} {u : List Char}

/-- What is cut out begins with the line of the definition, and is named from there. -/
theorem cutDefinition_of_place (hls : ∀ l ∈ ls, IsLine l) (hne : ls ≠ [])
    (h : Place start d front s first others name stop)
    (hu : Stands (closed (joinLines ls).toList) u front s) :
    let line := String.ofList (lineHead u ++ lineTail s.rest)
    (splitLines (cutDefinition ls d).text).head? = some line
      ∧ (cutDefinition ls d).name = (headerName? line).getD (declaredName d) := by
  intro line
  obtain ⟨hpos, hline⟩ := getElem?_of_place hls hne h hu
  have hhead : (between d.firstLine d.lastLine ls).head? = some line :=
    head?_between hline hpos h.firstLine_le
  have hown : between d.firstLine d.lastLine ls ≠ [] := by
    intro hnil
    rw [hnil] at hhead
    cases hhead
  constructor
  · rw [cutDefinition, splitLines_joinLines_of_isLine hown fun l hl ↦
      hls l (List.mem_of_mem_take (List.mem_of_mem_drop hl)), hhead]
  · rw [cutDefinition]
    dsimp only
    rw [List.headD_eq_head?_getD, hhead]
    rfl

end

/-- The name that a line gives, or another if it gives none. -/
theorem Gives.getD {raw line : List Char} {name : Option String} (h : Gives raw line name)
    (other : String) : name.getD other = other ∨ name.getD other = String.ofList raw
      ∨ (name.getD other = String.ofList raw ++ "\\" ∨ name.getD other = "\\")
        ∧ ∃ l, String.ofList line = l ++ "\\" := by
  cases h with
  | nothing h => exact .inl (by rw [h]; rfl)
  | name h => exact .inr (.inl (by rw [h]; rfl))
  | continued h hline =>
    obtain ⟨b, rfl⟩ := hline
    refine .inr (.inr ⟨?_, String.ofList b, String.ofList_append⟩)
    rcases h with rfl | rfl
    · exact .inl String.ofList_append
    · exact .inr rfl

/-! ## The name of a definition -/

/-- **The name of a definition.**  Whatever source a definition is cut out of, it is given the name
that the grammar finds, as it is spelled or in normal form.  The only exception is a header that is
continued on another line: there a backslash at the end of the first line may be all of the name, or
the end of it.  An entry takes its title and its name from what it is given. -/
theorem sliceDefinition_name {source : String} {x : Definition}
    (h : sliceDefinition source = .ok x) :
    ∃ t d name, readText (joinLines (stripIndent (lines source))).toList = .ok t
      ∧ (statementsOf t).filterMap undecorated? = [d]
      ∧ name ∈ d.tokens ∧ name.kind = .name ∧ declaredName d = compat name.text
      ∧ '\\' ∉ name.text.toList
      ∧ (x.name = declaredName d ∨ x.name = name.text
        ∨ (x.name = name.text ++ "\\" ∨ x.name = "\\")
          ∧ ∃ l, (splitLines x.text).head? = some (l ++ "\\"))
      ∧ ∀ description, CodeEntry.make (.str description) (.str source) .null
          = .ok ⟨description, x.text, deriveTitle x.name, x.name⟩ := by
  have hlines : ∀ l ∈ stripIndent (lines source), IsLine l :=
    isLine_of_mem_stripIndent fun l hl ↦ isLine_of_mem_lines hl
  have hne : stripIndent (lines source) ≠ [] := stripIndent_ne_nil (lines_ne_nil source)
  have hentry (description : String) : CodeEntry.make (.str description) (.str source) .null
      = .ok ⟨description, x.text, deriveTitle x.name, x.name⟩ := by
    rw [CodeEntry.make, h]
    rfl
  rw [sliceDefinition] at h
  generalize stripIndent (lines source) = ls at h hlines hne
  obtain ⟨t, d, hread, hd, rfl⟩ := sliceLines_eq_ok_iff.1 h
  obtain ⟨u, front, s, first, others, name, stop, hplace, hu⟩ :=
    exists_place_of_readText hread (hd ▸ List.mem_singleton_self d)
  obtain ⟨hlike, hgives⟩ := headerName?_of_place hplace hu
  obtain ⟨hfirst, hname⟩ := cutDefinition_of_place hlines hne hplace hu
  refine ⟨t, d, name, hread, hd, hplace.name_mem, hplace.isHeader.name_kind,
    hplace.declaredName_eq, fun hslash ↦ (hlike.2 _ hslash).2 rfl, ?_, hentry⟩
  have hcases := hgives.getD (declaredName d)
  rw [← hname, String.ofList_toList] at hcases
  rw [hfirst]
  simpa using hcases

/-- A name behind a decorator and two words, on a line that is continued behind a blank. -/
theorem sliceDefinition_name_of_decorated :
    let source := "@d\nasync  def zeroOne \\\n(): pass"
    let found : Definition := ⟨"zeroOne", "async  def zeroOne \\\n(): pass"⟩
    sliceDefinition source = .ok found
      ∧ (∃ t d name, readText source.toList = .ok t
        ∧ (statementsOf t).filterMap undecorated? = [d] ∧ name ∈ d.tokens
        ∧ declaredName d = compat name.text ∧ ("zeroOne" = declaredName d ∨ "zeroOne" = name.text))
      ∧ CodeEntry.make (.str "") (.str source) .null
        = .ok ⟨"", found.text, "Zero One", "zeroOne"⟩ := by
  intro source found
  have hfound : (sliceDefinition source).toOption = some found := by decide +kernel
  have hslice : sliceDefinition source = .ok found := by
    cases h : sliceDefinition source with
    | error f => rw [h] at hfound; cases hfound
    | ok x => rw [h] at hfound; exact congrArg Except.ok (Option.some.inj hfound)
  obtain ⟨t, d, name, hread, hd, hmem, -, hdeclared, -, hname, hentry⟩ :=
    sliceDefinition_name hslice
  have hsource : joinLines (stripIndent (lines source)) = source := by decide +kernel
  have htitle : deriveTitle "zeroOne" = "Zero One" := by decide +kernel
  refine ⟨hslice, ⟨t, d, name, hsource ▸ hread, hd, hmem, hdeclared, ?_⟩, htitle ▸ hentry ""⟩
  rcases hname with hname | hname | ⟨hslash | hslash, -⟩
  · exact .inl hname
  · exact .inr hname
  · have hend : '\\' ∈ found.name.toList := hslash ▸ by simp
    exact absurd hend (by decide)
  · exact absurd hslash (by decide)

/-- A header whose first line ends with a backslash right behind the name: the tree names the
definition without it. -/
theorem sliceDefinition_of_continued_name :
    (sliceDefinition "def f\\\n(x):\n    pass\n").toOption
        = some ⟨"f\\", "def f\\\n(x):\n    pass"⟩
      ∧ (readText "def f\\\n(x):\n    pass\n".toList).toOption.map
          (fun t ↦ ((statementsOf t).filterMap undecorated?).map declaredName) = some ["f"]
      ∧ compat "f\\" ≠ "f" := by
  decide +kernel

end Source
end TexWeave
