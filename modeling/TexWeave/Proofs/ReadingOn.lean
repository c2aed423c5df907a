import TexWeave.Proofs.NestedStretches

/-!
# Reading on from the first line of a definition

The lines from the first line of a definition on are a text of their own.  Up to the end of the
definition it is scanned as it is in the whole text, for the blocks around make no difference as
long as none of them is closed.  The line behind the definition and the comments behind it closes
all the blocks of the definition in either scan, if the second one gets over it.  So the definition
is found to end on its own last line, or behind one of these comments.

* `OpensLine`, `NestedStretch.lineStart_eq` — the first line of a definition.
* `exists_firstScan` — the start of the second scan.
* `Reaches.elsewhere` — both scans up to the end of the definition.
* `IsDefinition.alike` — the tokens of a definition look alike in both.
* `exists_tail` — the tokens behind a definition in the second scan.
-/

set_option autoImplicit false

namespace TexWeave
namespace Source

open Form Scanner Tree

/-! ## The first line -/

/-- A line of the text begins here, outside brackets. -/
def OpensLine (text : List Char) (s : Scanner) : Prop :=
  s.atLineStart = true ∧ s.brackets = [] ∧ ∃ ts, Reaches { rest := text } ts s

namespace Scanner

section

variable {s t : Scanner} {d : Depth} {p r : List Char} {x : Char}

/-- A line stands as deep as the innermost of the blocks it stands in. -/
theorem arrange_top (h : arrange d s = some t) : t.depths.headD .zero = d := by
  have hsame {d' : Depth} (hwide : d.wide = d'.wide) (hnarrow : d.narrow = d'.narrow) : d' = d := by
    cases d
    cases d'
    exact congrArg₂ Depth.mk hwide.symm hnarrow.symm
  rw [arrange] at h
  dsimp only at h
  split at h
  · next hwide =>
    split at h
    · next hnarrow =>
      obtain rfl := Option.some.inj h
      exact hsame hwide hnarrow
    · cases h
  · split at h
    · split at h
      · cases h
      · obtain rfl := Option.some.inj h
        rfl
    · split at h
      · next hboth =>
        obtain rfl := Option.some.inj h
        exact hsame hboth.1 hboth.2
      · cases h

theorem depthAlong_wide_iff (p : List Char) (hd : d.wide = 0 ↔ d.narrow = 0) :
    (depthAlong d p).wide = 0 ↔ (depthAlong d p).narrow = 0 := by
  induction p generalizing d with
  | nil => exact hd
  | cons c p ih =>
    refine ih ?_
    dsimp only
    split
    · exact iff_of_false (Nat.succ_ne_zero _) (Nat.succ_ne_zero _)
    · split
      · exact iff_of_false (Nat.mul_ne_zero (Nat.succ_ne_zero _) (by decide)) (Nat.succ_ne_zero _)
      · exact iff_of_true rfl rfl

/-- A line that stands deeper than the margin opens the first block. -/
theorem arrange_of_no_block (hs : s.depths = []) (hwide : 0 < d.wide) (hnarrow : 0 < d.narrow) :
    arrange d s = some { s.mark .indent with depths := [d] } := by
  have hnone : ¬ (decide (deepest ≤ s.depths.length + 1)
      || decide (d.narrow ≤ (s.depths.headD .zero).narrow)) = true := by
    rw [hs]
    simpa [deepest, Depth.zero] using Nat.ne_of_gt hnarrow
  have htop : (s.depths.headD .zero).wide = 0 := by rw [hs]; rfl
  rw [arrange]
  dsimp only
  rw [htop, if_neg (Nat.ne_of_gt hwide), if_pos hwide, if_neg hnone, hs]

theorem IsSpacing.isRoom_of_mem (h : IsSpacing p) (hp : '\n' ∉ p) : ∀ c ∈ p, IsRoom c := by
  induction h with
  | nil => exact List.forall_mem_nil _
  | room hc _ ih => exact List.forall_mem_cons.2 ⟨hc, ih (List.not_mem_of_not_mem_cons hp)⟩
  | fold => simp at hp

/-- What a line with code begins with. -/
structure IsIndented (p : List Char) (x : Char) : Prop where
  room : ∀ c ∈ p, IsRoom c
  code : ¬ IsRoom x
  opens : x ∉ ['#', '\n', '\\']

/-- A scan that starts with an indented line stands in a block that is as deep, if it is indented
at all. -/
structure FirstScan (p : List Char) (x : Char) (s : Scanner) : Prop where
  inLine : s.atLineStart = false
  brackets : s.brackets = []
  line_eq : s.line = 1
  top_eq : s.depths.headD .zero = depthAlong .zero p
  deep : ∀ d ∈ s.depths, 0 < d.wide
  depths_length : s.depths.length ≤ 1
  found : ∀ k ∈ s.found, k.kind = .indent
  lineStart_eq : ∀ r, ({ rest := p ++ x :: r } : Scanner).lineStart = some (s.leaving (x :: r))

theorem exists_firstScan (h : IsIndented p x) : ∃ s, FirstScan p x s := by
  have hfeed : p.count '\n' = 0 :=
    List.count_eq_zero.2 fun hmem ↦ ne_newline_of_isRoom (h.room _ hmem) rfl
  let base : Scanner := { rest := [], column := columnAfter 0 p }
  have hbase (r : List Char) : ({ rest := p ++ x :: r } : Scanner).advance p (x :: r)
      = base.leaving (x :: r) := by
    rw [advance_eq, hfeed]
    rfl
  have hstart (r : List Char) := lineStart_of_code (s := { rest := p ++ x :: r }) h.room h.code
    h.opens rfl rfl
  generalize hd : depthAlong .zero p = d at hstart
  have hiff : d.wide = 0 ↔ d.narrow = 0 :=
    hd ▸ depthAlong_wide_iff p ⟨fun _ ↦ rfl, fun _ ↦ rfl⟩
  by_cases hwide : d.wide = 0
  · have hzero : d = .zero := by
      cases d
      exact congrArg₂ Depth.mk hwide (hiff.1 hwide)
    refine ⟨{ base with atLineStart := false }, rfl, rfl, rfl, by rw [hd, hzero]; rfl,
      List.forall_mem_nil _, Nat.zero_le 1, List.forall_mem_nil _, fun r ↦ ?_⟩
    rw [hstart, hbase, hzero]
    rfl
  · have hpos := Nat.pos_of_ne_zero hwide
    refine ⟨{ base.mark .indent with depths := [d], atLineStart := false }, rfl, rfl, rfl, hd.symm,
      List.forall_mem_singleton.2 hpos, Nat.le_refl 1, List.forall_mem_singleton.2 rfl,
      fun r ↦ ?_⟩
    rw [hstart, hbase, arrange_of_no_block rfl hpos (Nat.pos_of_ne_zero (hiff.not.1 hwide))]
    rfl

end

end Scanner

/-- The last character of a text that ends with a line feed. -/
theorem eq_newline_of_closed {text u r : List Char} (h : closed text = u ++ r) :
    ∀ c ∈ r.getLast?, c = '\n' := by
  intro c hc
  have hlast : (closed text).getLast? = some c := by rw [h, List.getLast?_append, hc]; rfl
  rw [closed] at hlast
  split at hlast
  · next hclosed =>
    rcases Bool.or_eq_true_iff.1 hclosed with hfeed | hempty
    · rw [beq_iff_eq.1 hfeed] at hlast
      exact (Option.some.inj hlast).symm
    · rw [List.isEmpty_iff.1 hempty] at hlast
      cases hlast
  · rw [List.getLast?_concat] at hlast
    exact (Option.some.inj hlast).symm

theorem NestedStretch.lineStart_eq {text X : List Char} {d : Tree} {s e t : Scanner}
    {ts closing behind : List Token} (h : NestedStretch text d s ts e X closing behind)
    (ht : OpensLine text t) (hline : t.line = d.firstLine) : t.lineStart = some s := by
  obtain ⟨hstart, -, before, hreaches⟩ := ht
  obtain ⟨front, u, hfront, hlayout, -⟩ := h.start
  exact hreaches.lineStart_eq hfront hstart h.inLine (hline.trans h.firstLine_eq) hlayout

/-- The scan behind the indentation of the first line. -/
theorem NestedStretch.opens {text X p r : List Char} {x : Char} {d : Tree} {s e t : Scanner}
    {ts closing behind : List Token} (h : NestedStretch text d s ts e X closing behind)
    (ht : OpensLine text t) (hline : t.line = d.firstLine) (hp : IsIndented p x)
    (hrest : t.rest = p ++ x :: r) :
    s.rest = x :: r ∧ s.depths.headD .zero = depthAlong .zero p := by
  have hstart := h.lineStart_eq ht hline
  rw [lineStart_of_code hp.room hp.code hp.opens hrest ht.2.1] at hstart
  obtain ⟨v, hv, rfl⟩ := Option.map_eq_some_iff.1 hstart
  have htop := arrange_top hv
  refine ⟨?_, htop⟩
  change v.rest = _
  rw [arrange_rest hv, advance_rest]

/-- The first line of a definition begins with room and then with the definition. -/
theorem NestedStretch.exists_indented {text X : List Char} {d : Tree} {s e t : Scanner}
    {ts closing behind : List Token} (h : NestedStretch text d s ts e X closing behind)
    (ht : OpensLine text t) (hline : t.line = d.firstLine) :
    ∃ p x r, IsIndented p x ∧ Text.isBlank x = false ∧ t.rest = p ++ x :: r := by
  have hstart := h.lineStart_eq ht hline
  have hword : MeetsWord s.rest := by
    rcases lineStart_stops hstart ht.1 with hs | ⟨-, hword⟩
    · rw [h.inLine] at hs
      cases hs
    · exact hword
  obtain ⟨x, r, hx, hblank⟩ := h.exists_head
  obtain ⟨hroom, hopens⟩ := hword x (by rw [hx]; rfl)
  obtain ⟨new, hstep⟩ := exists_startStep_of_lineStart hstart
  have hin := h.inLine
  have hsame := hline.trans h.firstLine_eq
  generalize s = v at hstep hin hx hsame
  cases hstep with
  | passed =>
    rw [adding_atLineStart, advance_atLineStart, ht.1] at hin
    cases hin
  | last => simp at hx
  | inside _ _ hbrackets => exact absurd ht.2.1 hbrackets
  | @arranged used rest _ _ hused hrest =>
    have hfeed : '\n' ∉ used := by
      rw [← List.count_eq_zero]
      simpa using hsame
    obtain rfl : rest = x :: r := by simpa using hx
    simp only [List.mem_cons, List.not_mem_nil, or_false, not_or] at hopens
    refine ⟨used, x, r, ⟨hused.isRoom_of_mem hfeed, hroom, ?_⟩, hblank, hrest⟩
    simp only [List.mem_cons, List.not_mem_nil, or_false, not_or]
    exact ⟨hopens.2.1, hopens.2.2, hopens.1⟩

/-! ## Up to the end of the definition -/

namespace Scanner

section

variable {s e s₀ : Scanner} {ts : List Token} {X : List Char} {n j : Nat}

theorem keepsOrder_eq : KeepsOrder (· = ·) := by
  constructor
  all_goals
    rintro x x' y y' rfl rfl
    rfl

/-- **The blocks around make no difference** to the scan of a stretch that closes none of them. -/
theorem Reaches.elsewhere (h : Reaches s ts e) (hlast : ∀ c ∈ s.rest.getLast?, c = '\n')
    (hrest : s₀.rest = s.rest) (hs : s.atLineStart = false) (hs₀ : s₀.atLineStart = false)
    (hbrackets : s.brackets = s₀.brackets) (hline : s.line = s₀.line + n)
    (htop : s.depths.headD .zero = s₀.depths.headD .zero)
    (hlength : s₀.depths.length ≤ s.depths.length) (hwalk : walk blockCost 0 ts = some j)
    (he : e.rest = '\n' :: X) : ∃ ts₀ e₀ inner, Reaches s₀ ts₀ e₀
      ∧ Beside (· = ·) n s.found s₀.found e e₀ ∧ e₀.rest = '\n' :: X
      ∧ e.depths = inner ++ s.depths ∧ e₀.depths = inner ++ s₀.depths ∧ inner.length = j := by
  have hground : Grounds (· = ·) s.depths s₀.depths := ⟨htop, hlength⟩
  have hbeside : Beside (· = ·) n s.found s₀.found s s₀ := {
    rest := hrest ▸ trims_refl (fun _ ↦ rfl) true s.rest
    start := fun hstart ↦ by rw [hs] at hstart; cases hstart
    line_eq := hline
    atLineStart_eq := hs.trans hs₀.symm
    brackets_eq := hbrackets
    found := ⟨[], [], rfl, rfl, .nil⟩ }
  obtain ⟨ts₀, e₀, inner, hreaches, hbeside', hshift, hinner⟩ := h.beside (G := (· = ·))
    keepsOrder_eq hground (fun _ _ _ _ _ _ _ r' hr d hd _ ↦ ⟨d, hr ▸ hd, rfl⟩) hbeside
    (show Shifted (· = ·) s.depths s₀.depths [] s s₀ from
      ⟨rfl, rfl, List.forall_mem_nil _, List.forall_mem_nil _⟩)
    (fun c hc ↦ by rw [hlast c hc]; decide) hwalk
  obtain ⟨X', hX', hsame, -⟩ := (he ▸ hbeside'.rest).of_cons fun _ ↦ by decide
  refine ⟨ts₀, e₀, inner.map Prod.fst, hreaches, hbeside', hX'.trans (by rw [← hsame rfl]),
    hshift.depths_eq, ?_, (List.length_map _).trans hinner⟩
  rw [hshift.depths_eq', List.map_congr_left hshift.known]

end

end Scanner

/-! ## Alike tokens -/

section

variable {n m : Nat} {k k' : Token} {ts ts' : List Token}

theorem exists_append_of_forall₂ {α β : Type} {R : α → β → Prop} {a b : List α} {l : List β}
    (h : List.Forall₂ R (a ++ b) l) :
    ∃ a' b', l = a' ++ b' ∧ List.Forall₂ R a a' ∧ List.Forall₂ R b b' := by
  induction a generalizing l with
  | nil => exact ⟨[], l, rfl, .nil, h⟩
  | cons x a ih =>
    cases h with
    | cons hx hmore =>
      obtain ⟨a', b', rfl, ha, hb⟩ := ih hmore
      exact ⟨_ :: a', b', rfl, .cons hx ha, hb⟩

theorem opens_alike (h : Alike n k k') : Extent.Opens k' ↔ Extent.Opens k := by
  have hkind := h.kind_eq
  have htext (hk : k.kind = .operator ∨ k.kind = .keyword) : k.text = k'.text := by
    refine h.text_eq ?_
    rcases hk with hk | hk <;> rw [Token.opensString, hk] <;> rfl
  rw [Extent.Opens, Extent.Opens, ← hkind]
  constructor
  · rintro (⟨hk, ht⟩ | ⟨hk, ht⟩)
    · exact .inl ⟨hk, (htext (.inl hk)).trans ht⟩
    · exact .inr ⟨hk, htext (.inr hk) ▸ ht⟩
  · rintro (⟨hk, ht⟩ | ⟨hk, ht⟩)
    · exact .inl ⟨hk, (htext (.inl hk)).symm.trans ht⟩
    · exact .inr ⟨hk, htext (.inr hk) ▸ ht⟩

theorem ne_newline_alike (h : List.Forall₂ (Alike n) ts ts') (hts : ∀ j ∈ ts, j.kind ≠ .newline) :
    ∀ j ∈ ts', j.kind ≠ .newline := by
  induction h with
  | nil => exact List.forall_mem_nil _
  | cons hk _ ih =>
    obtain ⟨hfirst, hmore⟩ := List.forall_mem_cons.1 hts
    exact List.forall_mem_cons.2 ⟨hk.kind_eq ▸ hfirst, ih hmore⟩

theorem Begins.alike (hts : Begins ts) (h : List.Forall₂ (Alike n) ts ts') : Begins ts' := by
  have htext {k k' : Token} (hk : Alike n k k') (hfixed : k.kind = .operator ∨ k.kind = .keyword) :
      k'.text = k.text := by
    refine (hk.text_eq ?_).symm
    rcases hfixed with hkind | hkind <;> rw [Token.opensString, hkind] <;> rfl
  induction hts generalizing ts' with
  | word hkind hword hw =>
    cases h with
    | cons hk hmore =>
      exact .word (hk.kind_eq ▸ hkind) (htext hk (.inr hkind) ▸ hword) (ne_newline_alike hmore hw)
  | async hopens _ ih =>
    cases h with
    | cons hk hmore => exact .async ((opens_alike hk).not.2 hopens) (ih hmore)
  | decorator hkind hsign hw hnewline _ ih =>
    cases h with
    | cons hk hmore =>
      obtain ⟨w', z, rfl, hw', hz⟩ := exists_append_of_forall₂ hmore
      cases hz with
      | cons hfeed hbelow =>
        exact .decorator (hk.kind_eq ▸ hkind) ((htext hk (.inl hkind)).trans hsign)
          (ne_newline_alike hw' hw) (hfeed.kind_eq ▸ hnewline) (ih hbelow)

theorem walk_alike (h : List.Forall₂ (Alike n) ts ts') (m : Nat) :
    walk blockCost m ts' = walk blockCost m ts := by
  induction h generalizing m with
  | nil => rfl
  | cons hk _ ih =>
    rw [walk, walk, hk.kind_eq]
    cases blockCost _ with
    | none => rfl
    | some p =>
      dsimp only
      split
      · exact ih _
      · rfl

theorem IsDefinition.alike (hts : IsDefinition ts m) (h : List.Forall₂ (Alike n) ts ts') :
    IsDefinition ts' m := by
  cases hts with
  | line hbegins => exact .line (hbegins.alike h)
  | block hbegins hnewline hopening hv =>
    obtain ⟨head, z, rfl, hhead, hz⟩ := exists_append_of_forall₂ h
    cases hz with
    | cons hfeed hz =>
      cases hz with
      | cons hopen hmore =>
        exact .block (hbegins.alike hhead) (hfeed.kind_eq ▸ hnewline) (hopen.kind_eq ▸ hopening)
          ((walk_alike hmore 0).trans hv)

theorem significant_alike (h : List.Forall₂ (Alike n) ts ts') :
    List.Forall₂ (Alike n) (significant ts) (significant ts') := by
  induction h with
  | nil => exact .nil
  | @cons k k' ts ts' hk _ ih =>
    have htrivia : k'.isTrivia = k.isTrivia := by rw [Token.isTrivia, Token.isTrivia, hk.kind_eq]
    rw [significant, significant, List.filter_cons, List.filter_cons, htrivia]
    split
    · exact .cons hk ih
    · exact ih

end

/-! ## Behind the definition -/

/-- Whether the token neither arranges lines nor is passed over; the end of the text counts. -/
def isWord (k : Token) : Bool :=
  match k.kind with
  | .newline | .indent | .dedent | .comment | .gap => false
  | _ => true

theorem kind_of_isWord {k : Token} (h : isWord k = true) :
    k.kind ∉ [.newline, .indent, .dedent, .comment, .gap] := by
  intro hk
  simp only [List.mem_cons, List.not_mem_nil, or_false] at hk
  rcases hk with hk | hk | hk | hk | hk <;> rw [isWord, hk] at h <;> cases h

theorem isTrivia_of_isWord {k : Token} (h : isWord k = true) : k.isTrivia = false := by
  rw [Token.isTrivia, Bool.or_eq_false_iff, beq_eq_false_iff_ne, beq_eq_false_iff_ne]
  exact ⟨fun hk ↦ kind_of_isWord h (by rw [hk]; decide),
    fun hk ↦ kind_of_isWord h (by rw [hk]; decide)⟩

namespace Scanner

section

variable {s t : Scanner} {d : Depth} {new out : List Token} {k : Token}

theorem exists_tokens_of_whole (s : Scanner) :
    ∃ tail, s.whole.tokens = s.found.reverse ++ tail :=
  ⟨_, congrArg Scanned.tokens (whole_behind { s with found := [] } s.found)⟩

theorem tokens_of_next_eq_none (hs : s.rest ≠ []) (h : s.next = none) :
    s.whole.tokens = s.found.reverse := by
  have hmore : ¬ (s.rest.isEmpty && !s.atLineStart) = true := by simp [hs]
  rw [whole, run, if_neg hmore, h]

/-- Where a word stands it is the first token that is found. -/
theorem Step.head_of_meetsWord {fuel : Nat} (h : Step fuel s new t) (hword : MeetsWord s.rest) :
    ∃ k r, new = k :: r ∧ isWord k = true := by
  have hnot {c : Char} {r : List Char} (hs : s.rest = c :: r)
      (hc : IsRoom c ∨ c ∈ ['\\', '#', '\n']) : False := by
    obtain ⟨hroom, hopens⟩ := hword c (by rw [hs]; rfl)
    exact hc.elim hroom hopens
  cases h with
  | blank hs hc => exact (hnot hs (.inl hc)).elim
  | fold hs => exact (hnot hs (.inr (by decide))).elim
  | comment hs => exact (hnot hs (.inr (by decide))).elim
  | lineBreak hs => exact (hnot hs (.inr (by decide))).elim
  | word _ _ hkind =>
    refine ⟨_, _, rfl, ?_⟩
    rcases hkind with rfl | rfl <;> rfl
  | literal _ _ hkind =>
    refine ⟨_, _, rfl, ?_⟩
    rcases hkind with rfl | rfl | rfl <;> rfl
  | embedded => exact ⟨_, _, rfl, rfl⟩
  | operator => exact ⟨_, _, rfl, rfl⟩
  | stray => exact ⟨_, _, rfl, rfl⟩

theorem Runs.head_of_meetsWord (h : Runs s out) (hs : s.atLineStart = false)
    (hword : MeetsWord s.rest) : ∃ k r, significant out = k :: r ∧ isWord k = true := by
  cases h with
  | finish => exact ⟨_, _, rfl, rfl⟩
  | @move _ t new out hmove hruns hnext =>
    cases hmove with
    | start hs' => rw [hs] at hs'; cases hs'
    | token _ hstep =>
      obtain ⟨k, r, rfl, hk⟩ := hstep.head_of_meetsWord hword
      refine ⟨k, significant (r ++ out), ?_, hk⟩
      rw [List.cons_append, significant, List.filter_cons_of_pos (by simp [isTrivia_of_isWord hk])]
      rfl

/-- The tokens found from a word on, if it can be read. -/
theorem tokens_of_meetsWord (hs : s.atLineStart = false) (hword : MeetsWord s.rest) :
    s.whole.tokens = s.found.reverse
      ∨ ∃ k r, s.whole.tokens = s.found.reverse ++ k :: r ∧ isWord k = true := by
  by_cases hrest : s.rest = []
  · rw [whole_of_end hrest hs]
    exact .inr ⟨_, [], List.reverse_cons, rfl⟩
  · cases hnext : s.next with
    | none => exact .inl (tokens_of_next_eq_none hrest hnext)
    | some t =>
      rw [next, hs, if_neg Bool.false_ne_true] at hnext
      obtain ⟨new, hstep⟩ := exists_step_of_token hnext
      obtain ⟨k, r, rfl, hk⟩ := hstep.head_of_meetsWord hword
      obtain ⟨tail, htail⟩ := exists_tokens_of_whole t
      refine .inr ⟨k, r ++ tail, ?_, hk⟩
      rw [whole_of_next (t := t) (by rwa [next, hs, if_neg Bool.false_ne_true]), htail, hstep.found,
        List.reverse_append, List.reverse_reverse, List.append_assoc, List.cons_append]

/-- Closing blocks closes those that are deeper. -/
theorem exists_closed_of_closeBlocks (d : Depth) (ds : List Depth) (s : Scanner) :
    ∃ closed, ds = closed ++ (closeBlocks d ds s).1 ∧ (∀ x ∈ closed, d.wide < x.wide)
      ∧ (∀ x ∈ (closeBlocks d ds s).1.head?, x.wide ≤ d.wide)
      ∧ (closeBlocks d ds s).2.found
        = List.replicate closed.length (closingMark s.line s.column) ++ s.found := by
  fun_induction closeBlocks d ds s with
  | case1 s => exact ⟨[], rfl, List.forall_mem_nil _, fun x hx ↦ (by cases hx), rfl⟩
  | case2 top below s hlt ih =>
    obtain ⟨closed, hds, hclosed, hleft, hfound⟩ := ih
    refine ⟨top :: closed, congrArg _ hds, List.forall_mem_cons.2 ⟨hlt, hclosed⟩, hleft, ?_⟩
    rw [hfound, List.length_cons, List.replicate_succ', List.append_assoc]
    rfl
  | case3 top below s hle =>
    refine ⟨[], rfl, List.forall_mem_nil _, fun x hx ↦ ?_, rfl⟩
    obtain rfl := Option.some.inj hx
    exact Nat.not_lt.1 hle

/-- **What the depth of a line does to the blocks**: they stay as they are, or one more opens, or
all that are deeper are closed. -/
theorem arrange_cases (h : arrange d s = some t) : ∃ marks : List Token,
    t.found = marks.reverse ++ s.found ∧ ((marks = [] ∧ d = s.depths.headD .zero)
      ∨ (∃ k, k.kind = .indent ∧ marks = [k] ∧ (s.depths.headD .zero).wide < d.wide)
      ∨ ∃ closed left, s.depths = closed ++ left ∧ closed ≠ [] ∧ (∀ x ∈ closed, d.wide < x.wide)
        ∧ (∀ x ∈ left.head?, x.wide ≤ d.wide)
        ∧ marks = List.replicate closed.length (closingMark s.line s.column)) := by
  have htop := arrange_top h
  rw [arrange] at h
  dsimp only at h
  split at h
  · split at h
    · obtain rfl := Option.some.inj h
      exact ⟨[], rfl, .inl ⟨rfl, htop.symm⟩⟩
    · cases h
  · next hne =>
    split at h
    · next hdeeper =>
      split at h
      · cases h
      · obtain rfl := Option.some.inj h
        exact ⟨[_], rfl, .inr (.inl ⟨_, rfl, rfl, hdeeper⟩)⟩
    · next hlevel =>
      obtain ⟨closed, hds, hclosed, hleft, hfound⟩ := exists_closed_of_closeBlocks d s.depths s
      split at h
      · obtain rfl := Option.some.inj h
        refine ⟨_, by rw [List.reverse_replicate]; exact hfound,
          .inr (.inr ⟨closed, _, hds, ?_, hclosed, hleft, rfl⟩)⟩
        rintro rfl
        rw [List.nil_append] at hds
        rw [← hds] at hleft
        cases hdepths : s.depths with
        | nil =>
          rw [hdepths] at hne hlevel
          simp only [List.headD_nil, Depth.zero] at hne hlevel
          omega
        | cons x below =>
          rw [hdepths] at hne hlevel hleft
          have hx := hleft x rfl
          simp only [List.headD_cons] at hne hlevel
          omega
      · cases h

/-! ### The line behind -/

/-- A line with code: its depth, and the scan behind its indentation. -/
theorem exists_arrange_of_lineStart {u : Scanner} (h : s.lineStart = some u)
    (hu : u.atLineStart = false) (hs : s.atLineStart = true)
    (hlast : ∀ c ∈ s.rest.getLast?, c = '\n') : ∃ d used rest,
      (∀ s' : Scanner, s'.rest = s.rest → s'.brackets = [] → s'.lineStart
        = (arrange d (s'.advance used rest)).map fun v ↦ { v with atLineStart := false })
      ∧ MeetsWord rest := by
  obtain ⟨⟨d, held, v⟩, hmeasure, -⟩ := Option.bind_eq_some_iff.1 h
  obtain ⟨used, hv, hused, -⟩ := measure_same hmeasure (q := s) rfl
  have halone : ¬ isAlone v.rest = true := by
    intro halone
    rw [lineStart_of_measure hmeasure, if_pos halone, afterComment] at h
    obtain ⟨w, rest, new, hw, hstop, -, hcomment⟩ := exists_comment (s := v)
      (by simpa [isAlone] using halone)
    obtain ⟨w', _, hw', hfeed, -⟩ := comment_of_isAlone halone
    have hrest : v.comment.rest = rest := by rw [hcomment, adding_rest, advance_rest]
    rw [hrest] at h hw'
    cases rest with
    | nil =>
      -- the text would end within a comment
      rw [List.append_nil] at hw'
      obtain ⟨c, r, hc⟩ : ∃ c r, v.rest = c :: r := by
        cases hvrest : v.rest with
        | nil => rw [hvrest] at halone; cases halone
        | cons c r => exact ⟨c, r, rfl⟩
      obtain ⟨c', hc'⟩ : ∃ c', v.rest.getLast? = some c' := by
        rw [hc]
        exact ⟨_, List.getLast?_eq_some_getLast (List.cons_ne_nil c r)⟩
      obtain rfl := hlast c' (by rw [hused, List.getLast?_append, hc']; rfl)
      exact hfeed (hw' ▸ List.mem_of_getLast? hc')
    | cons c r =>
      obtain rfl := hstop c r rfl
      obtain rfl := Option.some.inj h
      rw [emit_eq, adding_atLineStart, advance_atLineStart, hcomment, adding_atLineStart,
        advance_atLineStart, hv, advance_atLineStart, hs] at hu
      cases hu
  refine ⟨settledDepth d held, used, v.rest, fun s' hrest hbrackets' ↦ ?_, ?_⟩
  · obtain ⟨used', hv', hused', hmeasure'⟩ := measure_same hmeasure hrest
    obtain rfl : used' = used := List.append_cancel_right (hused'.symm.trans hused)
    rw [← hrest] at hmeasure'
    rw [lineStart_of_measure hmeasure', advance_rest, if_neg halone, advance_brackets, hbrackets']
    rfl
  · intro c hc
    obtain ⟨hroom, hslash⟩ := measure_stops hmeasure c hc
    have hhead := Option.mem_def.1 hc
    simp only [isAlone, hhead, Bool.or_eq_true, beq_iff_eq, Option.some_inj, not_or] at halone
    simp only [List.mem_cons, List.not_mem_nil, or_false, not_or]
    exact ⟨hroom, hslash, halone⟩

/-- Tokens that close blocks stand in front of the first word. -/
theorem exists_marks_of_closing {marks closing behind r : List Token} (hk : isWord k = true)
    (hclosing : ∀ j ∈ closing, j.kind = .dedent) (h : closing ++ behind = marks ++ k :: r) :
    ∃ more, marks = closing ++ more ∧ behind = more ++ k :: r := by
  rcases List.append_eq_append_iff.1 h with ⟨more, rfl, hbehind⟩ | ⟨more, rfl, hmore⟩
  · exact ⟨more, rfl, hbehind⟩
  · cases more with
    | nil => exact ⟨[], by rw [List.append_nil, List.append_nil], hmore.symm⟩
    | cons j more =>
      have hkind := hclosing j (List.mem_append_right _ List.mem_cons_self)
      rw [← (List.cons.inj hmore).1] at hkind
      exact absurd (by rw [hkind]; decide) (kind_of_isWord hk)

/-- What a line of code that closes blocks, and opens none, is found to do. -/
theorem exists_tail_of_code {v : Scanner} {marks : List Token} {n : Nat}
    (hnext : s.next = some v) (hv : v.atLineStart = false) (hword : MeetsWord v.rest)
    (hfound : v.found = marks.reverse ++ s.found) (hmarks : ∀ k ∈ marks, k.kind = .dedent)
    (hlength : n ≤ marks.length) :
    ∃ tail, s.whole.tokens = s.found.reverse ++ tail ∧ Extent.Closes n tail := by
  have hreverse : v.found.reverse = s.found.reverse ++ marks := by
    rw [hfound, List.reverse_append, List.reverse_reverse]
  have hcloses {r : List Token} (hr : marks = [] → ∃ k r', r = k :: r' ∧ isWord k = true) :
      Extent.Closes n (marks ++ r) := by
    rcases Nat.eq_zero_or_pos n with rfl | hpos
    · refine .inr (.inr ⟨rfl, ?_⟩)
      cases marks with
      | nil =>
        obtain ⟨k, r', rfl, hk⟩ := hr rfl
        refine ⟨k, r', rfl, fun hmem ↦ kind_of_isWord hk ?_⟩
        simp only [List.mem_cons, List.not_mem_nil, or_false] at hmem ⊢
        rcases hmem with hmem | hmem | hmem | hmem <;> simp [hmem]
      | cons k marks =>
        refine ⟨k, marks ++ r, rfl, ?_⟩
        rw [hmarks k List.mem_cons_self]
        decide
    · exact .inr (.inl ⟨hpos, marks, r, rfl, hmarks, hlength⟩)
  rw [whole_of_next hnext]
  rcases tokens_of_meetsWord hv hword with hend | ⟨k, r, htokens, hk⟩
  · refine ⟨marks, hend.trans hreverse, ?_⟩
    by_cases hnil : marks = []
    · exact .inl hnil
    · have hall := hcloses (r := []) fun h ↦ absurd h hnil
      rwa [List.append_nil] at hall
  · refine ⟨marks ++ k :: r, ?_, hcloses fun _ ↦ ⟨k, r, rfl, hk⟩⟩
    rw [htokens, ← List.append_assoc, ← hreverse]

theorem significant_of_arrange {marks : List Token} (h : arrange d s = some t)
    (hfound : t.found = marks.reverse ++ s.found) : significant marks = marks := by
  obtain ⟨depths, marks', hmarks, -, rfl⟩ := exists_marks_of_arrange h
  obtain rfl := List.reverse_injective (List.append_cancel_right hfound)
  exact significant_of_areMarks hmarks

/-- How deep a line stands that closes the inner blocks, and opens none. -/
theorem wide_lt_of_arrange {inner B : List Depth} {closing behind r marks : List Token}
    (hdepths : s.depths = inner ++ B) (hclosing : ∀ j ∈ closing, j.kind = .dedent)
    (hlength : inner.length = closing.length) (hlevel : StaysLevel behind)
    (h : arrange d s = some t) (hk : isWord k = true) (hfound : t.found = marks.reverse ++ s.found)
    (hmarks : closing ++ behind = marks ++ k :: r) :
    (∀ x ∈ inner, d.wide < x.wide) ∧ (inner = [] → d.wide ≤ (B.headD .zero).wide) := by
  obtain ⟨marks', hfound', hcases⟩ := arrange_cases h
  obtain rfl : marks' = marks :=
    List.reverse_injective (List.append_cancel_right (hfound'.symm.trans hfound))
  obtain ⟨more, hmore, hbehind⟩ := exists_marks_of_closing hk hclosing hmarks
  have hnone (h : closing = []) : inner = [] :=
    List.eq_nil_of_length_eq_zero (hlength.trans (by rw [h]; rfl))
  rcases hcases with ⟨rfl, hd⟩ | ⟨j, hj, rfl, -⟩ | ⟨closed, left, hall, hne, hdeep, -, rfl⟩
  · obtain rfl := hnone (List.append_eq_nil_iff.1 hmore.symm).1
    exact ⟨List.forall_mem_nil _, fun _ ↦ by rw [hd, hdepths]; rfl⟩
  · exfalso
    cases closing with
    | nil =>
      rw [← show [j] = more from hmore] at hbehind
      exact hlevel j (by rw [hbehind]; rfl) hj
    | cons c closing =>
      have hc := hclosing c List.mem_cons_self
      rw [← (List.cons.inj hmore).1, hj] at hc
      cases hc
  · have hle : inner.length ≤ closed.length := by
      rw [hlength, ← List.length_replicate (n := closed.length), hmore, List.length_append]
      exact Nat.le_add_right _ _
    obtain ⟨others, rfl⟩ : inner <+: closed :=
      List.prefix_of_prefix_length_le ⟨B, hdepths.symm⟩ ⟨left, hall.symm⟩ hle
    refine ⟨fun x hx ↦ hdeep x (List.mem_append_left _ hx), ?_⟩
    rintro rfl
    obtain rfl : B = others ++ left := hdepths.symm.trans hall
    cases others with
    | nil => exact absurd rfl hne
    | cons x others => exact Nat.le_of_lt (hdeep x List.mem_cons_self)

/-- A line that stands less deep than the inner blocks closes them, and opens none. -/
theorem exists_dedents_of_arrange {inner B : List Depth} (hdepths : s.depths = inner ++ B)
    (hinner : ∀ x ∈ inner, d.wide < x.wide) (hnone : inner = [] → d.wide ≤ (B.headD .zero).wide)
    (h : arrange d s = some t) : ∃ marks : List Token, t.found = marks.reverse ++ s.found
      ∧ (∀ j ∈ marks, j.kind = .dedent) ∧ inner.length ≤ marks.length := by
  obtain ⟨marks, hfound, hcases⟩ := arrange_cases h
  refine ⟨marks, hfound, ?_⟩
  rw [hdepths] at hcases
  rcases hcases with ⟨rfl, hd⟩ | ⟨j, -, -, hdeeper⟩ | ⟨closed, left, hall, -, -, hleft, rfl⟩
  · refine ⟨List.forall_mem_nil _, ?_⟩
    cases inner with
    | nil => exact le_rfl
    | cons x inner =>
      have hx := hinner x List.mem_cons_self
      rw [hd] at hx
      exact absurd hx (Nat.lt_irrefl _)
  · exfalso
    cases inner with
    | nil => exact absurd hdeeper (Nat.not_lt.2 (hnone rfl))
    | cons x inner => exact absurd hdeeper (Nat.lt_asymm (hinner x List.mem_cons_self))
  · refine ⟨fun j hj ↦ by rw [List.eq_of_mem_replicate hj]; rfl, ?_⟩
    rw [List.length_replicate]
    by_contra! hlt
    -- else the first block that is left would be one of the inner blocks
    obtain ⟨others, rfl⟩ : closed <+: inner :=
      List.prefix_of_prefix_length_le ⟨left, hall.symm⟩ ⟨B, rfl⟩ hlt.le
    rw [List.append_assoc] at hall
    obtain rfl := List.append_cancel_left hall
    cases others with
    | nil => simp at hlt
    | cons x others =>
      have hx := hinner x (List.mem_append_right _ List.mem_cons_self)
      exact absurd (hleft x rfl) (Nat.not_le.2 hx)

/-- **The tokens behind a definition** in a scan with other blocks around: its blocks are closed,
and none is opened. -/
theorem exists_tail {s₀ : Scanner} {inner B B₀ : List Depth} {closing behind : List Token}
    (hs : s.atLineStart = true) (hs₀ : s₀.atLineStart = true) (hbrackets : s.brackets = [])
    (hbrackets₀ : s₀.brackets = []) (hrest : s₀.rest = s.rest) (hdepths : s.depths = inner ++ B)
    (hdepths₀ : s₀.depths = inner ++ B₀) (htop : B.headD .zero = B₀.headD .zero)
    (hdeep₀ : ∀ d ∈ s₀.depths, 0 < d.wide) (hruns : Runs s out)
    (hout : significant out = closing ++ behind) (hclosing : ∀ k ∈ closing, k.kind = .dedent)
    (hlength : inner.length = closing.length) (hlevel : StaysLevel behind)
    (hlast : ∀ c ∈ s.rest.getLast?, c = '\n')
    (hend : s.rest = [] ∨ ∃ u, s.lineStart = some u ∧ u.atLineStart = false) :
    ∃ tail, s₀.whole.tokens = s₀.found.reverse ++ tail ∧ Extent.Closes closing.length tail := by
  have hnext : s.next = s.lineStart := by rw [next, if_pos hs]
  have hnext₀ : s₀.next = s₀.lineStart := by rw [next, if_pos hs₀]
  by_cases hnil : s.rest = []
  · -- at the end of the text all blocks are closed
    have hnil₀ := hrest.trans hnil
    have hstart := hnext₀.trans (lineStart_of_nil hnil₀ hbrackets₀ hdeep₀)
    refine exists_tail_of_code hstart rfl ?_ (adding_found ..)
      (fun k hk ↦ by rw [List.eq_of_mem_replicate hk]; rfl) ?_
    · change ∀ c ∈ s₀.rest.head?, _
      rw [hnil₀]
      exact fun c hc ↦ by cases hc
    · rw [List.length_replicate, hdepths₀, List.length_append, hlength]
      exact Nat.le_add_right _ _
  obtain ⟨u, hu, hline⟩ := hend.resolve_left hnil
  obtain ⟨d, used, rest, hall, hword⟩ := exists_arrange_of_lineStart hu hline hs hlast
  obtain ⟨v, hv, rfl⟩ := Option.map_eq_some_iff.1 ((hall s rfl hbrackets).symm.trans hu)
  have hvword {s' t' : Scanner} (ht' : arrange d (s'.advance used rest) = some t') :
      MeetsWord t'.rest := by
    rwa [arrange_rest ht', advance_rest]
  cases hv₀ : arrange d (s₀.advance used rest) with
  | none =>
    -- the line goes back to a depth that only the blocks around the first scan know
    have hstop : s₀.next = none := by rw [hnext₀, hall s₀ hrest hbrackets₀, hv₀]; rfl
    exact ⟨[], (tokens_of_next_eq_none (by rwa [hrest]) hstop).trans (List.append_nil _).symm,
      .inl rfl⟩
  | some v₀ =>
    cases hruns with
    | finish hend => exact absurd hend hnil
    | @move _ t new out' hmove hrun ht =>
      obtain rfl := Option.some.inj (ht.symm.trans (hnext.trans hu))
      -- the marks in front of the first word of the line are all that the first scan closes
      obtain ⟨k, r, hmore, hk⟩ := hrun.head_of_meetsWord rfl
        (show MeetsWord v.rest from hvword hv)
      have hfound : v.found = new.reverse ++ (s.advance used rest).found := by
        rw [advance_found]
        exact hmove.found
      rw [significant_append, significant_of_arrange hv hfound, hmore] at hout
      obtain ⟨hinner, hnone⟩ := wide_lt_of_arrange (by rwa [advance_depths]) hclosing hlength hlevel
        hv hk hfound hout.symm
      obtain ⟨marks, hfound₀, hdedents, hle⟩ := exists_dedents_of_arrange
        (by rwa [advance_depths]) hinner (htop ▸ hnone) hv₀
      rw [advance_found] at hfound₀
      have hstart : s₀.next = some { v₀ with atLineStart := false } := by
        rw [hnext₀, hall s₀ hrest hbrackets₀, hv₀, Option.map_some]
      exact exists_tail_of_code hstart rfl (show MeetsWord v₀.rest from hvword hv₀) hfound₀ hdedents
        (hlength ▸ hle)

end

end Scanner

end Source
end TexWeave
