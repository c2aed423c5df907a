import TexWeave.Proofs.Definitions
import TexWeave.Proofs.Resuming

/-!
# Lines that are passed over

Lines that hold nothing but room and a comment add nothing to a sentence.  So texts that differ in
such lines at their start, but not in how many there are, have the same tree.  The first line that
is not passed over begins at the margin, or else the text has no tree.

* `isPassed`, `codeLines` — lines that are passed over, and those from the first that is not.
* `exists_whole_of_passed` — a scan behind such a line.
* `sentence?_of_passed` — the sentence of a text is that of its code.
* `opens_at_margin` — what a sentence can begin with.
-/

set_option autoImplicit false

namespace TexWeave
namespace Source

open Text

/-! ## Lines that are passed over -/

/-- What is left of a line behind the room in front of it. -/
def behindRoom (cs : List Char) : List Char := cs.dropWhile (decide <| Scanner.IsRoom ·)

/-- Whether a line holds nothing but room and perhaps a comment. -/
def isPassed (l : String) : Bool := (behindRoom l.toList).head?.all (· == '#')

/-- The lines from the first that is not passed over. -/
def codeLines (ls : List String) : List String := ls.dropWhile isPassed

namespace Scanner

/-- The depth behind room. -/
def depthAlong (d : Depth) (p : List Char) : Depth :=
  p.foldl (fun d c ↦
    if c = ' ' then ⟨d.wide + 1, d.narrow + 1⟩
    else if c = '\t' then ⟨(d.wide / 8 + 1) * 8, d.narrow + 1⟩
    else .zero) d

section

variable {s : Scanner} {p : List Char}

theorem measure_room {fuel : Nat} {d : Depth} {held : Option Depth} {c : Char} {r : List Char}
    (hp : ∀ e ∈ p, IsRoom e) (hc : ¬ IsRoom c) (hslash : c ≠ '\\') (hs : s.rest = p ++ c :: r)
    (hfuel : p.length < fuel) :
    measure fuel d held s = some (depthAlong d p, held, s.advance p (c :: r)) := by
  induction p generalizing fuel d s with
  | nil =>
    obtain ⟨fuel, rfl⟩ := Nat.exists_eq_succ_of_ne_zero (Nat.ne_zero_of_lt hfuel)
    rw [List.nil_append] at hs
    unfold measure
    rw [hs]
    split
    · next heq => exact absurd (.inl (List.cons.inj heq).1) hc
    · next heq => exact absurd (.inr (.inl (List.cons.inj heq).1)) hc
    · next heq => exact absurd (.inr (.inr (List.cons.inj heq).1)) hc
    · next heq => exact absurd (List.cons.inj heq).1 hslash
    · next heq => exact absurd (List.cons.inj heq).1 hslash
    · rw [← hs]
      rfl
  | cons e p ih =>
    obtain ⟨fuel, rfl⟩ := Nat.exists_eq_succ_of_ne_zero (Nat.ne_zero_of_lt hfuel)
    have hroom : ∀ e ∈ p, IsRoom e := fun e he ↦ hp e (List.mem_cons_of_mem _ he)
    have hgo (d : Depth) : measure fuel d held (s.advance [e] (p ++ c :: r))
        = some (depthAlong d p, held, s.advance (e :: p) (c :: r)) := by
      rw [ih hroom (advance_rest ..) (Nat.lt_of_succ_lt_succ hfuel), advance_advance]
      rfl
    unfold measure
    rw [hs]
    rcases hp e List.mem_cons_self with rfl | rfl | rfl
    · exact hgo _
    · exact hgo _
    · exact hgo _

/-- A comment, if there is one, reaches to the end of its line. -/
theorem exists_comment_of_passed {q r : List Char} (hnewline : '\n' ∉ q)
    (hq : q.head?.all (· == '#')) (hs : s.rest = q ++ '\n' :: r) :
    ∃ new, significant new = [] ∧ s.comment = (s.advance q ('\n' :: r)).adding new := by
  cases q with
  | nil =>
    rw [List.nil_append] at hs
    refine ⟨[], rfl, ?_⟩
    rw [comment, hs, ← hs, advance_nil]
    split
    · next heq => cases hs.symm.trans heq
    · rfl
  | cons c w =>
    obtain rfl : c = '#' := by simpa using hq
    have hw : ∀ e ∈ w, (e != '\n') = true := fun e he ↦ by
      simpa using fun h : e = '\n' ↦ hnewline (List.mem_cons_of_mem _ (h ▸ he))
    have htake : (w ++ '\n' :: r).takeWhile (· != '\n') = w := by
      rw [List.takeWhile_append_of_pos hw]
      simp
    have hdrop : (w ++ '\n' :: r).dropWhile (· != '\n') = '\n' :: r := by
      rw [List.dropWhile_append_of_pos hw]
      simp
    refine ⟨[s.part ('#' :: w) .comment], rfl, ?_⟩
    rw [comment, hs]
    show s.emit .comment ('#' :: (w ++ '\n' :: r).takeWhile (· != '\n'))
      ((w ++ '\n' :: r).dropWhile (· != '\n')) = _
    rw [htake, hdrop, emit_eq]

/-- The start of a line that is passed over leads to the start of the next. -/
theorem exists_lineStart_of_passed {q r : List Char} (hp : ∀ c ∈ p, IsRoom c) (hnewline : '\n' ∉ q)
    (hq : q.head?.all (· == '#')) (hs : s.rest = p ++ (q ++ '\n' :: r)) :
    ∃ new, significant new = []
      ∧ s.lineStart = some ((s.advance (p ++ (q ++ ['\n'])) r).adding new) := by
  obtain ⟨new, hnew, hcomment⟩ :=
    exists_comment_of_passed (s := s.advance p (q ++ '\n' :: r)) hnewline hq (advance_rest ..)
  obtain ⟨c, r', hsplit, hc⟩ :
      ∃ c r', q ++ '\n' :: r = c :: r' ∧ (c = '#' ∨ c = '\n') := by
    cases q with
    | nil => exact ⟨'\n', r, rfl, .inr rfl⟩
    | cons c w => exact ⟨c, w ++ '\n' :: r, rfl, .inl (by simpa using hq)⟩
  have hmeasure : measure (s.rest.length + 1) .zero none s
      = some (depthAlong .zero p, none, s.advance p (q ++ '\n' :: r)) := by
    rw [hsplit] at hs ⊢
    refine measure_room hp ?_ ?_ hs ?_
    · rcases hc with rfl | rfl <;> decide
    · rcases hc with rfl | rfl <;> decide
    · rw [hs, List.length_append]
      omega
  have halone : ((q ++ '\n' :: r).head? == some '#' || (q ++ '\n' :: r).head? == some '\n')
      = true := by
    rw [hsplit]
    rcases hc with rfl | rfl <;> rfl
  refine ⟨new ++ [(s.advance (p ++ q) ('\n' :: r)).part ['\n'] .gap], ?_, ?_⟩
  · rw [significant_append, hnew]
    rfl
  · rw [lineStart, hmeasure]
    simp only [Option.bind_eq_bind, Option.bind_some, advance_rest, halone, if_true, hcomment,
      adding_rest, emit_eq, advance_adding, advance_advance, adding_adding, List.append_assoc]
    rfl

end

/-- The scan at the start of a line with the number given. -/
abbrev atLine (n : Nat) (r : List Char) : Scanner := { rest := r, line := n }

/-- **A line that is passed over** adds nothing that grammar can meet. -/
theorem exists_whole_of_passed {l : String} (hl : isPassed l = true) (hnewline : '\n' ∉ l.toList)
    (n : Nat) (r : List Char) : ∃ front, significant front = []
      ∧ (atLine n (l.toList ++ '\n' :: r)).whole = (atLine (n + 1) r).whole.behind front := by
  have hsplit : l.toList.takeWhile (decide <| IsRoom ·) ++ behindRoom l.toList = l.toList :=
    List.takeWhile_append_dropWhile
  have hroom : ∀ c ∈ l.toList.takeWhile (decide <| IsRoom ·), IsRoom c :=
    fun c hc ↦ by simpa using List.mem_takeWhile_imp hc
  have hbehind : '\n' ∉ behindRoom l.toList := fun h ↦ hnewline ((List.dropWhile_suffix _).subset h)
  have hrest : (atLine n (l.toList ++ '\n' :: r)).rest
      = l.toList.takeWhile (decide <| IsRoom ·) ++ (behindRoom l.toList ++ '\n' :: r) := by
    rw [← List.append_assoc, hsplit]
  obtain ⟨new, hnew, hstart⟩ := exists_lineStart_of_passed hroom hbehind hl hrest
  refine ⟨new, hnew, ?_⟩
  have hnext : (atLine n (l.toList ++ '\n' :: r)).next
      = some ((atLine (n + 1) r).behind new.reverse) := by
    have hcount : (l.toList ++ ['\n']).count '\n' = 1 := by
      rw [List.count_append, List.count_eq_zero.2 hnewline]
      rfl
    have hcolumn : columnAfter 0 (l.toList ++ ['\n']) = 0 := by
      rw [columnAfter, List.foldl_append]
      rfl
    rw [next, if_pos rfl, hstart, ← List.append_assoc, hsplit, advance_eq, hcount]
    simp only [hcolumn, adding, behind, List.append_nil, List.nil_append]
  rw [whole_of_next hnext, whole_behind, List.reverse_reverse]

theorem exists_whole_of_passed_lines {ls : List String}
    (h : ∀ l ∈ ls, isPassed l = true ∧ '\n' ∉ l.toList) (n : Nat) (r : List Char) :
    ∃ front, significant front = []
      ∧ (atLine n ((endLines ls).toList ++ r)).whole
        = (atLine (n + ls.length) r).whole.behind front := by
  induction ls generalizing n with
  | nil => exact ⟨[], rfl, rfl⟩
  | cons l ls ih =>
    obtain ⟨hl, hls⟩ := List.forall_mem_cons.1 h
    obtain ⟨front, hfront, hwhole⟩ :=
      exists_whole_of_passed hl.1 hl.2 n ((endLines ls).toList ++ r)
    obtain ⟨more, hmore, hrest⟩ := ih hls (n + 1)
    refine ⟨front ++ more, by rw [significant_append, hfront, hmore, List.nil_append], ?_⟩
    have htext : (endLines (l :: ls)).toList ++ r
        = l.toList ++ '\n' :: ((endLines ls).toList ++ r) := by
      rw [endLines_cons, String.toList_append, String.toList_append, List.append_assoc]
      rfl
    rw [htext, hwhole, hrest, Scanned.behind_behind, List.length_cons, Nat.add_assoc,
      Nat.add_comm 1]

end Scanner

open Scanner

/-! ## Sources with the same code -/

theorem scan_eq_whole (text : List Char) : scan text = (atLine 1 (closed text)).whole := by
  have hsize : (atLine 1 (closed text)).size < 2 * (closed text).length + 4 := by
    show 2 * (closed text).length + 1 < 2 * (closed text).length + 4
    omega
  exact run_eq_whole hsize

theorem closed_append (a : List Char) {b : List Char} (hb : b ≠ []) :
    closed (a ++ b) = a ++ closed b := by
  have hempty : (a ++ b).isEmpty = b.isEmpty := by
    rw [Bool.eq_iff_iff, List.isEmpty_iff, List.isEmpty_iff, List.append_eq_nil_iff]
    exact and_iff_right_of_imp fun h ↦ absurd h hb
  rw [closed, closed, List.getLast?_append_of_ne_nil a hb, hempty]
  split
  · rfl
  · rw [List.append_assoc]

theorem joinLines_append_eq (a : List String) {b : List String} (hb : b ≠ []) :
    joinLines (a ++ b) = endLines a ++ joinLines b := by
  by_cases ha : a = []
  · rw [ha, endLines_nil, String.empty_append, List.nil_append]
  · rw [joinLines_append ha hb, endLines_eq ha, String.append_assoc]

/-- A source is scanned as its code is, from the line on which that begins. -/
theorem sentence?_of_passed {a code : List String}
    (ha : ∀ l ∈ a, isPassed l = true ∧ '\n' ∉ l.toList) (hne : code ≠ [])
    (hcode : (joinLines code).toList ≠ []) : (scan (joinLines (a ++ code)).toList).sentence?
      = (atLine (1 + a.length) (closed (joinLines code).toList)).whole.sentence? := by
  obtain ⟨front, hfront, hwhole⟩ :=
    exists_whole_of_passed_lines ha 1 (closed (joinLines code).toList)
  rw [scan_eq_whole, joinLines_append_eq a hne, String.toList_append, closed_append _ hcode, hwhole,
    Scanned.sentence?_behind _ hfront]

/-! ## The beginning of a sentence -/

namespace Scanner

section

variable {s t : Scanner}

/-- A blank that is no room is astray. -/
theorem Step.eq_stray {fuel : Nat} {new : List Token} (h : Step fuel s new t) {x : Char}
    {r : List Char} (hs : s.rest = x :: r) (hx : isBlank x = true) (hroom : ¬ IsRoom x)
    (hnewline : x ≠ '\n') : new = [s.part [x] .stray] := by
  have hhead {c : Char} {w : List Char} (hrest : s.rest = c :: w) : x = c :=
    (List.cons.inj (hs.symm.trans hrest)).1
  have hother {c : Char} {w : List Char} (hrest : s.rest = c :: w) (hc : isBlank c = false) :
      new = [s.part [x] .stray] := by
    rw [hhead hrest, hc] at hx
    cases hx
  cases h with
  | blank hrest hc => exact absurd (hhead hrest ▸ hc) hroom
  | fold hrest => exact hother hrest rfl
  | comment hrest => exact hother hrest rfl
  | lineBreak hrest => exact absurd (hhead hrest) hnewline
  | @word kind used rest hrest hne _ hlike hspelled =>
    obtain ⟨c, w, rfl⟩ := List.exists_cons_of_ne_nil hne
    exact hother hrest (IsSpelled.isBlank_eq ⟨hne, hlike, hspelled⟩ c List.mem_cons_self)
  | literal hrest hopens =>
    obtain ⟨c, w, rfl, hc⟩ := hopens
    exact hother hrest hc
  | embedded hrest hopens =>
    obtain ⟨c, w, rfl, hc⟩ := hopens
    exact hother hrest hc
  | operator ho hrest =>
    obtain ⟨c, w, hcs, hc⟩ := head_ne_newline_of_operator ho
    rw [hcs] at hrest
    exact hother hrest hc
  | stray hrest => rw [hhead hrest]

/-- The depth of room without form feeds is no less than its length. -/
theorem length_le_wide {p : List Char} (hp : ∀ c ∈ p, IsRoom c) (hfeed : '\x0c' ∉ p) (d : Depth) :
    d.wide + p.length ≤ (depthAlong d p).wide := by
  induction p generalizing d with
  | nil => exact Nat.le_refl _
  | cons c p ih =>
    obtain ⟨hc, hp⟩ := List.forall_mem_cons.1 hp
    have hle := ih hp (List.not_mem_of_not_mem_cons hfeed)
    rw [depthAlong, List.foldl_cons, List.length_cons]
    rcases hc with rfl | rfl | rfl
    · refine le_trans ?_ (hle _)
      simp
      omega
    · refine le_trans ?_ (hle _)
      simp
      omega
    · exact absurd List.mem_cons_self hfeed

theorem lineStart_of_code {p r : List Char} {x : Char} (hp : ∀ c ∈ p, IsRoom c) (hroom : ¬ IsRoom x)
    (hx : x ∉ ['#', '\n', '\\']) (hs : s.rest = p ++ x :: r) (hbrackets : s.brackets = []) :
    s.lineStart = (arrange (depthAlong .zero p) (s.advance p (x :: r))).map
      fun u ↦ { u with atLineStart := false } := by
  simp only [List.mem_cons, List.not_mem_nil, or_false, not_or] at hx
  obtain ⟨hcomment, hnewline, hslash⟩ := hx
  have hmeasure : measure (s.rest.length + 1) .zero none s
      = some (depthAlong .zero p, none, s.advance p (x :: r)) :=
    measure_room hp hroom hslash hs (by rw [hs, List.length_append]; omega)
  have halone : (some x == some '#' || some x == some '\n') = false := by
    simp [hcomment, hnewline]
  rw [lineStart, hmeasure]
  simp only [Option.bind_eq_bind, Option.bind_some, advance_rest, List.head?_cons, halone,
    Bool.false_eq_true, if_false, advance_brackets, hbrackets, List.isEmpty_nil, Bool.not_true]

/-- Outside all blocks, a line that is not at the margin opens one. -/
theorem arrange_of_no_blocks {d : Depth} (hs : s.depths = []) (h : arrange d s = some t) :
    d.wide = 0 ∧ t = s ∨ ∃ k, k.kind = .indent ∧ t.found = k :: s.found := by
  have htop : s.depths.headD .zero = .zero := by rw [hs, List.headD_nil]
  rw [arrange, htop] at h
  dsimp only at h
  by_cases hwide : d.wide = Depth.zero.wide
  · rw [if_pos hwide] at h
    split at h
    · exact .inl ⟨hwide, (Option.some.inj h).symm⟩
    · cases h
  · have hpos : Depth.zero.wide < d.wide := Nat.pos_of_ne_zero hwide
    rw [if_neg hwide, if_pos hpos] at h
    split at h
    · cases h
    · rw [← Option.some.inj h]
      exact .inr ⟨_, rfl, rfl⟩

/-- A sentence begins neither with a block nor astray. -/
theorem kind_of_found {ts : List Token} {tree : Tree} (h : s.whole.sentence? = some ts)
    (hparse : parse ts = some tree) {k : Token} (hfound : s.found = [k]) :
    k.kind ≠ .indent ∧ k.kind ≠ .stray := by
  obtain ⟨-, more, hts⟩ := exists_sentence?_eq h
  rw [hfound, List.reverse_singleton] at hts
  have hopening (hk : k.isTrivia = false) : k.kind ≠ .indent ∧ k.kind ≠ .stray := by
    rw [significant_singleton hk] at hts
    exact parse_opening hparse hts
  constructor
  · intro hkind
    exact (hopening (by rw [Token.isTrivia, hkind]; rfl)).1 hkind
  · intro hkind
    exact (hopening (by rw [Token.isTrivia, hkind]; rfl)).2 hkind

/-- **A sentence begins at the margin**: the first line that is not passed over has the depth of
nothing, and what follows its room is no blank. -/
theorem opens_at_margin {n : Nat} {p r : List Char} {x : Char} {ts : List Token} {tree : Tree}
    (hp : ∀ c ∈ p, IsRoom c) (hroom : ¬ IsRoom x) (hx : x ∉ ['#', '\n', '\\'])
    (h : (atLine n (p ++ x :: r)).whole.sentence? = some ts) (hparse : parse ts = some tree) :
    (depthAlong .zero p).wide = 0 ∧ isBlank x = false := by
  obtain ⟨u, hu, hwhole⟩ := exists_next_of_complete (exists_sentence?_eq h).1 (by simp)
  rw [hwhole] at h
  rw [next, if_pos rfl, lineStart_of_code hp hroom hx rfl rfl, Option.map_eq_some_iff] at hu
  obtain ⟨v, hv, rfl⟩ := hu
  rcases arrange_of_no_blocks (advance_depths ..) hv with ⟨hwide, rfl⟩ | ⟨k, hk, hfound⟩
  · refine ⟨hwide, ?_⟩
    by_contra hblank
    obtain ⟨w, hw, hwhole'⟩ := exists_next_of_complete (exists_sentence?_eq h).1 (by simp)
    rw [hwhole'] at h
    rw [next, if_neg (by simp)] at hw
    obtain ⟨new, hstep⟩ := exists_step_of_token hw
    have hnewline : x ≠ '\n' := fun heq ↦ hx (by rw [heq]; decide)
    have hstray := hstep.eq_stray (advance_rest ..) (by simpa using hblank) hroom hnewline
    have hfound := hstep.found
    rw [hstray] at hfound
    exact absurd rfl (kind_of_found h hparse (by simpa using hfound)).2
  · rw [advance_found] at hfound
    exact absurd hk (kind_of_found h hparse hfound).1

end

end Scanner
end Source
end TexWeave
