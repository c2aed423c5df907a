import TexWeave.Proofs.Excerpts
import TexWeave.Proofs.PassedLines
import TexWeave.Proofs.Reaching
import TexWeave.Proofs.TrimmedScans

/-!
# Lines that lose the same indentation

Blocks open and close by the depths of their lines, and these are only ever compared.  So if lines
lose room in a way that keeps how any two of them compare, then the same blocks open and close at
the same lines, and a stretch of the text is scanned as before.  The blocks around the stretch need
not be the same, as long as it closes none of them.

* `KeepsOrder` — depths that compare as they did.
* `Beside.arrange` — blocks are opened and closed alike.
* `measure_trims`, `Beside.lineStart` — the start of a line that has lost some of its room.
* `Reaches.beside` — a stretch of a text whose lines lose room.
-/

set_option autoImplicit false

namespace TexWeave
namespace Source

open Form

namespace Scanner

/-! ## Blocks -/

/-- Depths in a text and what has become of them, where each two compare as they did. -/
structure KeepsOrder (P : Depth → Depth → Prop) : Prop where
  wide : ∀ {x x' y y'}, P x x' → P y y' → (x.wide < y.wide ↔ x'.wide < y'.wide)
  narrow : ∀ {x x' y y'}, P x x' → P y y' → (x.narrow < y.narrow ↔ x'.narrow < y'.narrow)

/-- Blocks around two scans, of which the innermost correspond. -/
structure Grounds (P : Depth → Depth → Prop) (B B' : List Depth) : Prop where
  top : P (B.headD .zero) (B'.headD .zero)
  length_le : B'.length ≤ B.length

/-- The blocks within these correspond, one by one. -/
structure Shifted (P : Depth → Depth → Prop) (B B' : List Depth) (inner : List (Depth × Depth))
    (s s' : Scanner) : Prop where
  depths_eq : s.depths = inner.map Prod.fst ++ B
  depths_eq' : s'.depths = inner.map Prod.snd ++ B'
  known : ∀ x ∈ inner, P x.1 x.2
  above : ∀ x ∈ inner, (B.headD .zero).wide ≤ x.1.wide

section

variable {P : Depth → Depth → Prop} {x x' y y' : Depth}

theorem KeepsOrder.wide_le (h : KeepsOrder P) (hx : P x x') (hy : P y y') :
    x.wide ≤ y.wide ↔ x'.wide ≤ y'.wide := by
  rw [← Nat.not_lt, ← Nat.not_lt, h.wide hy hx]

theorem KeepsOrder.wide_eq (h : KeepsOrder P) (hx : P x x') (hy : P y y') :
    x.wide = y.wide ↔ x'.wide = y'.wide := by
  rw [Nat.le_antisymm_iff, Nat.le_antisymm_iff, h.wide_le hx hy, h.wide_le hy hx]

theorem KeepsOrder.narrow_le (h : KeepsOrder P) (hx : P x x') (hy : P y y') :
    x.narrow ≤ y.narrow ↔ x'.narrow ≤ y'.narrow := by
  rw [← Nat.not_lt, ← Nat.not_lt, h.narrow hy hx]

theorem KeepsOrder.narrow_eq (h : KeepsOrder P) (hx : P x x') (hy : P y y') :
    x.narrow = y.narrow ↔ x'.narrow = y'.narrow := by
  rw [Nat.le_antisymm_iff, Nat.le_antisymm_iff, h.narrow_le hx hy, h.narrow_le hy hx]

end

section

variable {P : Depth → Depth → Prop} {d d' : Depth} {B B' : List Depth}
  {inner : List (Depth × Depth)} {s s' t : Scanner}

theorem closeBlocks_of_le {ds : List Depth} (h : (ds.headD .zero).wide ≤ d.wide) (s : Scanner) :
    closeBlocks d ds s = (ds, s) := by
  cases ds with
  | nil => rfl
  | cons top below => exact if_neg (Nat.not_lt.2 h)

theorem length_closeBlocks (ds : List Depth) (s : Scanner) :
    (closeBlocks d ds s).1.length ≤ ds.length := by
  fun_induction closeBlocks d ds s with
  | case1 => exact le_rfl
  | case2 top below s _ ih => exact Nat.le_succ_of_le ih
  | case3 => exact le_rfl

theorem length_closeBlocks_append {ds : List Depth} (h : ∀ x ∈ ds, d.wide < x.wide)
    (below : List Depth) (s : Scanner) :
    (closeBlocks d (ds ++ below) s).1.length ≤ below.length := by
  induction ds generalizing s with
  | nil => exact length_closeBlocks below s
  | cons x ds ih =>
    obtain ⟨hx, hds⟩ := List.forall_mem_cons.1 h
    rw [List.cons_append, closeBlocks, if_pos hx]
    exact ih hds _

/-- The innermost blocks correspond. -/
theorem top_of_grounds (hground : Grounds P B B') (hinner : ∀ x ∈ inner, P x.1 x.2) :
    P ((inner.map Prod.fst ++ B).headD .zero) ((inner.map Prod.snd ++ B').headD .zero) := by
  cases inner with
  | nil => exact hground.top
  | cons x inner => exact hinner x List.mem_cons_self

/-- The same blocks are closed by lines that correspond. -/
theorem closeBlocks_shift (hP : KeepsOrder P) (hground : Grounds P B B') (hd : P d d')
    (hle : (B.headD .zero).wide ≤ d.wide) (hinner : ∀ x ∈ inner, P x.1 x.2) (s s' : Scanner) :
    ∃ left closed, inner = closed ++ left
      ∧ closeBlocks d (inner.map Prod.fst ++ B) s = (left.map Prod.fst ++ B,
        s.adding (List.replicate closed.length (closingMark s.line s.column)))
      ∧ closeBlocks d' (inner.map Prod.snd ++ B') s' = (left.map Prod.snd ++ B',
        s'.adding (List.replicate closed.length (closingMark s'.line s'.column))) := by
  induction inner generalizing s s' with
  | nil =>
    exact ⟨[], [], rfl, closeBlocks_of_le hle s,
      closeBlocks_of_le ((hP.wide_le hground.top hd).1 hle) s'⟩
  | cons x inner ih =>
    obtain ⟨hx, hmore⟩ := List.forall_mem_cons.1 hinner
    by_cases hlt : d.wide < x.1.wide
    · obtain ⟨left, closed, rfl, hclose, hclose'⟩ := ih hmore (s.mark .dedent) (s'.mark .dedent)
      have hmark (s : Scanner) : s.mark .dedent = s.adding [closingMark s.line s.column] := rfl
      refine ⟨left, x :: closed, rfl, ?_, ?_⟩
      · rw [List.map_cons, List.cons_append, closeBlocks, if_pos hlt, hclose, hmark, adding_adding]
        rfl
      · rw [List.map_cons, List.cons_append, closeBlocks, if_pos ((hP.wide hd hx).1 hlt), hclose',
          hmark, adding_adding]
        rfl
    · have hle := Nat.not_lt.1 hlt
      refine ⟨x :: inner, [], rfl, closeBlocks_of_le ?_ s, closeBlocks_of_le ?_ s'⟩
      · exact hle
      · exact (hP.wide_le hx hd).1 hle

/-- A line that closes none of the blocks around stands at least as deep as these. -/
theorem Shifted.wide_le (h : Shifted P B B' inner s s') (ht : arrange d s = some t)
    (hbase : B.length ≤ t.depths.length) : (B.headD .zero).wide ≤ d.wide := by
  by_contra! hlt
  cases B with
  | nil => exact absurd hlt (Nat.not_lt_zero _)
  | cons top below =>
    have habove : ∀ x ∈ inner.map Prod.fst ++ [top], d.wide < x.wide := by
      refine List.forall_mem_append.2 ⟨fun x hx ↦ ?_, List.forall_mem_singleton.2 hlt⟩
      obtain ⟨y, hy, rfl⟩ := List.mem_map.1 hx
      exact lt_of_lt_of_le hlt (h.above y hy)
    have hdepths : s.depths = (inner.map Prod.fst ++ [top]) ++ below := by
      rw [h.depths_eq, List.append_assoc]
      rfl
    have hclose := length_closeBlocks_append habove below s
    have htop : d.wide < (s.depths.headD .zero).wide := by
      rw [hdepths]
      cases inner with
      | nil => exact hlt
      | cons x inner => exact habove _ List.mem_cons_self
    rw [arrange] at ht
    dsimp only at ht
    rw [if_neg (Nat.ne_of_lt htop), if_neg (Nat.lt_asymm htop)] at ht
    split at ht
    · cases ht
      rw [← hdepths] at hclose
      exact absurd hbase (Nat.not_le.2 (Nat.lt_succ_of_le hclose))
    · cases ht

end

section

variable {G : List Char → List Char → Prop} {n : Nat} {old old' : List Token}
  {P : Depth → Depth → Prop} {d d' : Depth} {B B' : List Depth} {inner : List (Depth × Depth)}
  {s s' t : Scanner}

theorem Beside.withDepths (h : Beside G n old old' s s') (ds ds' : List Depth) :
    Beside G n old old' { s with depths := ds } { s' with depths := ds' } :=
  ⟨h.rest, h.start, h.line_eq, h.atLineStart_eq, h.brackets_eq, h.found⟩

theorem alike_mark (h : Beside G n old old' s s') (kind : TokenKind) :
    Alike n ⟨kind, "", s.line, s.column, s.line⟩ ⟨kind, "", s'.line, s'.column, s'.line⟩ :=
  ⟨rfl, fun _ ↦ rfl, h.line_eq, h.line_eq⟩

theorem forall₂_replicate {k k' : Token} (h : Alike n k k') (m : Nat) :
    List.Forall₂ (Alike n) (List.replicate m k) (List.replicate m k') := by
  induction m with
  | zero => exact .nil
  | succ m ih => exact .cons h ih

/-- **Blocks are opened and closed alike** on lines that correspond. -/
theorem Beside.arrange (h : Beside G n old old' s s') (hP : KeepsOrder P)
    (hshift : Shifted P B B' inner s s') (hground : Grounds P B B') (hd : P d d')
    (hle : (B.headD .zero).wide ≤ d.wide) (ht : arrange d s = some t) :
    ∃ t' inner', Scanner.arrange d' s' = some t' ∧ Beside G n old old' t t'
      ∧ Shifted P B B' inner' t t' := by
  have htop : P (s.depths.headD .zero) (s'.depths.headD .zero) := by
    rw [hshift.depths_eq, hshift.depths_eq']
    exact top_of_grounds hground hshift.known
  rw [Scanner.arrange] at ht ⊢
  dsimp only at ht ⊢
  by_cases hwide : d.wide = (s.depths.headD .zero).wide
  · rw [if_pos hwide] at ht
    rw [if_pos ((hP.wide_eq hd htop).1 hwide)]
    split at ht
    · next hnarrow =>
      cases ht
      exact ⟨s', inner, if_pos ((hP.narrow_eq hd htop).1 hnarrow), h, hshift⟩
    · cases ht
  rw [if_neg hwide] at ht
  rw [if_neg (mt (hP.wide_eq hd htop).2 hwide)]
  by_cases hdeeper : (s.depths.headD .zero).wide < d.wide
  · rw [if_pos hdeeper] at ht
    rw [if_pos ((hP.wide htop hd).1 hdeeper)]
    split at ht
    · cases ht
    · next hroom =>
      cases ht
      have hlength : s'.depths.length ≤ s.depths.length := by
        rw [hshift.depths_eq, hshift.depths_eq', List.length_append, List.length_append,
          List.length_map, List.length_map]
        exact Nat.add_le_add_left hground.length_le _
      refine ⟨_, (d, d') :: inner, if_neg ?_, ?_, ?_⟩
      · simp only [Bool.or_eq_true, decide_eq_true_eq, not_or] at hroom ⊢
        exact ⟨by omega, mt (hP.narrow_le hd htop).2 hroom.2⟩
      · exact (h.adding (.cons (alike_mark h .indent) .nil)).withDepths _ _
      · refine ⟨?_, ?_, List.forall_mem_cons.2 ⟨hd, hshift.known⟩,
          List.forall_mem_cons.2 ⟨hle, hshift.above⟩⟩
        · rw [hshift.depths_eq]
          rfl
        · rw [hshift.depths_eq']
          rfl
  rw [if_neg hdeeper] at ht
  rw [if_neg (mt (hP.wide htop hd).2 hdeeper)]
  obtain ⟨left, closed, rfl, hclose, hclose'⟩ :=
    closeBlocks_shift hP hground hd hle hshift.known s s'
  have hleft : ∀ x ∈ left, P x.1 x.2 := fun x hx ↦ hshift.known x (List.mem_append_right _ hx)
  have hlast := top_of_grounds hground hleft
  rw [← hshift.depths_eq] at hclose
  rw [← hshift.depths_eq'] at hclose'
  simp only [hclose] at ht
  simp only [hclose']
  split at ht
  · next hsame =>
    cases ht
    refine ⟨_, left, if_pos (hsame.imp (hP.wide_eq hd hlast).1 (hP.narrow_eq hd hlast).1), ?_, rfl,
      rfl, hleft, fun x hx ↦ hshift.above x (List.mem_append_right _ hx)⟩
    exact (h.adding (forall₂_replicate (alike_mark h .dedent) _)).withDepths _ _
  · cases ht

end

/-! ## Starts of lines -/

section

variable {n : Nat} {d : Depth} {held : Option Depth} {c : Char} {r : List Char} {s : Scanner}

/-- The depth that is kept where a line is continued within its indentation. -/
def heldDepth (d : Depth) : Option Depth → Depth
  | some h => if h.wide = 0 then ⟨d.wide, d.wide⟩ else h
  | none => ⟨d.wide, d.wide⟩

theorem measure_of_room (hc : IsRoom c) (hs : s.rest = c :: r) :
    measure (n + 1) d held s = measure n (depthAlong d [c]) held (s.advance [c] r) := by
  rw [measure.eq_def]
  dsimp only
  rw [hs]
  rcases hc with rfl | rfl | rfl <;> rfl

theorem measure_of_fold (hs : s.rest = '\\' :: '\n' :: c :: r) : measure (n + 1) d held s
    = measure n d (some (heldDepth d held)) (s.advance ['\\', '\n'] (c :: r)) := by
  rw [measure.eq_def]
  dsimp only
  rw [hs]
  cases held with
  | none => rfl
  | some h =>
    dsimp only [heldDepth]
    split_ifs <;> rfl

theorem measure_of_code (hs : ∀ c ∈ s.rest.head?, ¬ IsRoom c ∧ c ≠ '\\') :
    measure (n + 1) d held s = some (d, held, s) := by
  rw [measure.eq_def]
  dsimp only
  split
  · next heq => exact absurd (.inl rfl) (hs _ (by rw [heq]; rfl)).1
  · next heq => exact absurd (.inr (.inl rfl)) (hs _ (by rw [heq]; rfl)).1
  · next heq => exact absurd (.inr (.inr rfl)) (hs _ (by rw [heq]; rfl)).1
  · next heq => exact absurd rfl (hs _ (by rw [heq]; rfl)).2
  · next heq => exact absurd rfl (hs _ (by rw [heq]; rfl)).2
  · rfl

/-- What an indentation that can be measured begins with. -/
theorem cases_of_measure {o : Depth × Option Depth × Scanner}
    (h : measure (n + 1) d held s = some o) :
    (∃ c r, IsRoom c ∧ s.rest = c :: r) ∨ (∃ c r, s.rest = '\\' :: '\n' :: c :: r)
      ∨ ∀ c ∈ s.rest.head?, ¬ IsRoom c ∧ c ≠ '\\' := by
  rw [measure.eq_def] at h
  dsimp only at h
  split at h
  · next r heq => exact .inl ⟨_, r, .inl rfl, heq⟩
  · next r heq => exact .inl ⟨_, r, .inr (.inl rfl), heq⟩
  · next r heq => exact .inl ⟨_, r, .inr (.inr rfl), heq⟩
  · next c r heq => exact .inr (.inl ⟨c, r, heq⟩)
  · cases h
  · next hspace htab hfeed hfold hslash =>
    refine .inr (.inr fun c hc ↦ ?_)
    obtain ⟨r, hr⟩ := List.head?_eq_some_iff.1 hc
    refine ⟨?_, ?_⟩
    · rintro (rfl | rfl | rfl)
      · exact hspace r hr
      · exact htab r hr
      · exact hfeed r hr
    · rintro rfl
      exact hslash r hr

/-- Indentations are measured without regard to where they stand. -/
theorem measure_same {d₁ : Depth} {held₁ : Option Depth} {t q : Scanner}
    (h : measure n d held s = some (d₁, held₁, t)) (hs : q.rest = s.rest) :
    ∃ used, t = s.advance used t.rest ∧ s.rest = used ++ t.rest
      ∧ measure n d held q = some (d₁, held₁, q.advance used t.rest) := by
  induction n generalizing d held s q with
  | zero => cases h
  | succ n ih =>
    rcases cases_of_measure h with ⟨c, r, hc, hrest⟩ | ⟨c, r, hrest⟩ | hcode
    · rw [measure_of_room hc hrest] at h
      obtain ⟨used, ht, hused, hm⟩ := ih (q := q.advance [c] r) h (by simp)
      rw [advance_advance] at ht hm
      rw [advance_rest] at hused
      exact ⟨c :: used, ht, by rw [hrest, hused]; rfl, by
        rw [measure_of_room hc (hs.trans hrest), hm]; rfl⟩
    · rw [measure_of_fold hrest] at h
      obtain ⟨used, ht, hused, hm⟩ := ih (q := q.advance ['\\', '\n'] (c :: r)) h (by simp)
      rw [advance_advance] at ht hm
      rw [advance_rest] at hused
      exact ⟨'\\' :: '\n' :: used, ht, by rw [hrest, hused]; rfl, by
        rw [measure_of_fold (hs.trans hrest), hm]; rfl⟩
    · rw [measure_of_code hcode] at h
      cases h
      refine ⟨[], rfl, rfl, ?_⟩
      rw [measure_of_code (by rwa [hs]), ← hs]
      rfl

/-- **Indentations of which the second has lost room** end at the same character. -/
theorem measure_trims {G : List Char → List Char → Prop} {b : Bool} {d₁ : Depth}
    {held₁ : Option Depth} {t : Scanner} {r' : List Char}
    (h : measure n d held s = some (d₁, held₁, t)) (hr : Trims G b s.rest r')
    (hlast : ∀ c ∈ s.rest.getLast?, ¬ IsRoom c) : ∃ used used' rest',
      t = s.advance used t.rest ∧ used'.count '\n' = used.count '\n'
      ∧ r' = used' ++ rest' ∧ Trims G false t.rest rest'
      ∧ ∀ d' held', ∃ d₁' held₁', ∀ s' : Scanner, s'.rest = r' → ∀ m, r'.length < m →
        measure m d' held' s' = some (d₁', held₁', s'.advance used' rest') := by
  -- on the fuel of the first scan, which the second needs no more of
  induction n generalizing d held s b r' with
  | zero => cases h
  | succ n ih =>
    rcases cases_of_measure h with ⟨c, r, hc, hrest⟩ | ⟨c, r, hrest⟩ | hcode
    · have hroom : c ≠ '\n' := ne_newline_of_isRoom hc
      rw [measure_of_room hc hrest] at h
      rw [hrest] at hr
      have hlast' : ∀ e ∈ r.getLast?, ¬ IsRoom e := fun e he ↦ hlast e (by
        rw [hrest, List.getLast?_cons, he]; rfl)
      cases hr with
      | drop _ hr =>
        obtain ⟨used, used', rest', ht, hcount, hused', hsame, hm⟩ :=
          ih h (by rwa [advance_rest]) (by rwa [advance_rest])
        rw [advance_advance] at ht
        exact ⟨c :: used, used', rest', ht, by rw [hcount, List.count_cons_of_ne hroom], hused',
          hsame, hm⟩
      | @next _ _ _ r' _ hr =>
        obtain ⟨used, used', rest', ht, hcount, rfl, hsame, hm⟩ :=
          ih h (by rwa [advance_rest]) (by rwa [advance_rest])
        rw [advance_advance] at ht
        refine ⟨c :: used, c :: used', rest', ht, by
          rw [List.count_cons_of_ne hroom, List.count_cons_of_ne hroom, hcount], rfl, hsame, ?_⟩
        intro d' held'
        obtain ⟨d₁', held₁', hm⟩ := hm (depthAlong d' [c]) held'
        refine ⟨d₁', held₁', fun s' hs' m hlength ↦ ?_⟩
        obtain ⟨m, rfl⟩ := Nat.exists_eq_succ_of_ne_zero (Nat.ne_zero_of_lt hlength)
        rw [measure_of_room hc hs', hm (s'.advance [c] (used' ++ rest')) (advance_rest ..) m
          (Nat.lt_of_succ_lt_succ hlength), advance_advance]
        rfl
    · rw [measure_of_fold hrest] at h
      rw [hrest] at hr
      obtain ⟨x, rfl, hfeed⟩ := hr.of_plain (fun _ ↦ by decide) (by decide)
      obtain ⟨y, rfl, -, hline⟩ := hfeed.of_cons (by simp)
      have hlast' : ∀ e ∈ (c :: r).getLast?, ¬ IsRoom e := fun e he ↦ hlast e (by
        rw [hrest, List.getLast?_cons_cons, List.getLast?_cons_cons, he]; rfl)
      obtain ⟨e, z, rfl⟩ : ∃ e z, y = e :: z := by
        obtain ⟨e, z, hy⟩ := hline.exists_of_last hlast'
        exact ⟨_, _, hy⟩
      obtain ⟨used, used', rest', ht, hcount, hused', hsame, hm⟩ :=
        ih h (by rw [advance_rest]; exact hline) (by rwa [advance_rest])
      rw [advance_advance] at ht
      refine ⟨'\\' :: '\n' :: used, '\\' :: '\n' :: used', rest', ht, by simp [hcount],
        by rw [hused']; rfl, hsame, ?_⟩
      intro d' held'
      obtain ⟨d₁', held₁', hm⟩ := hm d' (some (heldDepth d' held'))
      refine ⟨d₁', held₁', fun s' hs' m hlength ↦ ?_⟩
      obtain ⟨m, rfl⟩ := Nat.exists_eq_succ_of_ne_zero (Nat.ne_zero_of_lt hlength)
      rw [measure_of_fold hs', hm (s'.advance ['\\', '\n'] (e :: z)) (advance_rest ..) m
        (by simp only [List.length_cons] at hlength ⊢; omega), advance_advance]
      rfl
    · rw [measure_of_code hcode] at h
      cases h
      have hline : Trims G false t.rest r' := by
        cases hrest : t.rest with
        | nil =>
          rw [hrest] at hr
          obtain rfl := hr.eq_nil
          exact .nil
        | cons c r =>
          rw [hrest] at hr hcode
          exact hr.anchor (hcode c rfl).1
      refine ⟨[], [], r', rfl, rfl, rfl, hline, fun d' held' ↦
        ⟨d', held', fun s' hs' m hlength ↦ ?_⟩⟩
      obtain ⟨m, rfl⟩ := Nat.exists_eq_succ_of_ne_zero (Nat.ne_zero_of_lt hlength)
      rw [measure_of_code (by rwa [hs', hline.head?_eq]), ← hs']
      rfl

end

/-- The depth at which a line stands whose indentation is measured. -/
def settledDepth (d : Depth) : Option Depth → Depth
  | some h => if h.wide = 0 then d else h
  | none => d

/-- Whether nothing but a comment is left of a line. -/
def isAlone (r : List Char) : Bool := r.head? == some '#' || r.head? == some '\n'

/-- Behind the comment of a line that holds nothing else, the line ends or the text does. -/
def afterComment (s : Scanner) : Option Scanner :=
  match s.rest with
  | '\n' :: r => some (s.emit .gap ['\n'] r)
  | _ => some { s with atLineStart := false }

/-- The depth of the first line of a text, if it holds more than a comment. -/
def codeDepth? (r : List Char) : Option Depth :=
  (measure (r.length + 1) .zero none { rest := r }).bind fun m ↦
    if isAlone m.2.2.rest then none else some (settledDepth m.1 m.2.1)

/-- The depths of the first lines of two texts correspond, if the first is as deep as `least`. -/
def Sheds (P : Depth → Depth → Prop) (least : Nat) (r r' : List Char) : Prop :=
  ∀ d ∈ codeDepth? r, least ≤ d.wide → ∃ d' ∈ codeDepth? r', P d d'

section

variable {s t : Scanner} {d : Depth} {held : Option Depth}

theorem codeDepth?_of_measure (h : measure (s.rest.length + 1) .zero none s = some (d, held, t)) :
    codeDepth? s.rest = if isAlone t.rest then none else some (settledDepth d held) := by
  obtain ⟨used, -, -, hfresh⟩ := measure_same (q := { rest := s.rest }) h rfl
  rw [codeDepth?, hfresh, Option.bind_some]
  dsimp only
  rw [advance_rest]

theorem lineStart_of_measure (h : measure (s.rest.length + 1) .zero none s = some (d, held, t)) :
    s.lineStart =
      if isAlone t.rest then afterComment t.comment
      else if !t.brackets.isEmpty then some { t with atLineStart := false }
      else (arrange (settledDepth d held) t).map fun u ↦ { u with atLineStart := false } := by
  rw [lineStart, h]
  rfl

end

section

variable {G : List Char → List Char → Prop} {n : Nat} {old old' : List Token}
  {P : Depth → Depth → Prop} {B B' : List Depth} {inner : List (Depth × Depth)}
  {s s' t : Scanner}

theorem Beside.strengthen {G₀ : List Char → List Char → Prop} (h : Beside G₀ n old old' s s')
    (hs : s.atLineStart = false) (hrest : Trims G true s.rest s'.rest) :
    Beside G n old old' s s' :=
  ⟨hrest, fun hstart ↦ (Bool.false_ne_true (hs.symm.trans hstart)).elim, h.line_eq,
    h.atLineStart_eq, h.brackets_eq, h.found⟩

theorem afterComment_of_feed {r : List Char} (hs : s.rest = '\n' :: r) :
    afterComment s = some (s.emit .gap ['\n'] r) := by
  rw [afterComment, hs]
  rfl

theorem arrange_rest {d : Depth} (h : arrange d s = some t) : t.rest = s.rest := by
  obtain ⟨depths, marks, -, -, rfl⟩ := exists_marks_of_arrange h
  rfl

/-- A line that holds nothing but a comment, up to its end. -/
theorem Beside.comment_of_alone (h : Beside (fun _ _ ↦ True) n old old' s s') {c : Char}
    {x x' : List Char} (hs : s.rest = c :: x) (hs' : s'.rest = c :: x') (hc : c = '#' ∨ c = '\n')
    (hrest : Trims G false (c :: x) (c :: x')) :
    Beside (fun _ _ ↦ True) n old old' s.comment s'.comment
      ∧ Trims G false s.comment.rest s'.comment.rest := by
  rcases hc with rfl | rfl
  · obtain ⟨x', hx', hbehind⟩ := hrest.of_plain (by simp) (by decide)
    obtain rfl := (List.cons.inj hx').2
    obtain ⟨htake, hdrop⟩ := hbehind.splitWhile (p := (· != '\n')) rfl
    rw [comment_of_hash hs, comment_of_hash hs', htake, emit_eq, emit_eq, adding_rest, adding_rest,
      advance_rest, advance_rest]
    refine ⟨(h.passing (fun _ ↦ trivial) (hdrop.weaken fun _ _ _ ↦ trivial) rfl).adding
      (.cons (h.part .comment rfl fun _ ↦ rfl) .nil), hdrop⟩
  · have hfeed {r y : List Char} (y' : List Char) (hr : r = '\n' :: y) : r ≠ '#' :: y' := by
      rw [hr]
      exact fun heq ↦ absurd (List.cons.inj heq).1 (by decide)
    rw [comment_of_ne fun y ↦ hfeed y hs, comment_of_ne fun y ↦ hfeed y hs', hs, hs']
    exact ⟨h, hrest⟩

theorem comment_depths (s : Scanner) : s.comment.depths = s.depths := by
  unfold comment
  split
  · rw [emit_eq, adding_depths, advance_depths]
  · rfl

theorem Shifted.of_depths_eq (h : Shifted P B B' inner s s') {t t' : Scanner}
    (ht : t.depths = s.depths) (ht' : t'.depths = s'.depths) : Shifted P B B' inner t t' :=
  ⟨ht.trans h.depths_eq, ht'.trans h.depths_eq', h.known, h.above⟩

theorem Beside.afterComment (h : Beside (fun _ _ ↦ True) n old old' s s')
    (hrest : Trims G false s.rest s'.rest) (hshift : Shifted P B B' inner s s')
    (ht : afterComment s = some t) :
    ∃ t', Scanner.afterComment s' = some t' ∧ Beside G n old old' t t'
      ∧ Shifted P B B' inner t t' := by
  rw [Scanner.afterComment] at ht ⊢
  split at ht
  · next r hr =>
    cases ht
    rw [hr] at hrest
    obtain ⟨r', hr', hG, hfeed⟩ := hrest.of_cons (by simp)
    rw [hr']
    refine ⟨_, rfl, ?_, hshift.of_depths_eq ?_ ?_⟩
    · rw [emit_eq, emit_eq]
      exact (h.passing (fun _ ↦ hG rfl) hfeed rfl).adding (.cons (h.part .gap rfl fun _ ↦ rfl) .nil)
    · rw [emit_eq, adding_depths, advance_depths]
    · rw [emit_eq, adding_depths, advance_depths]
  · next hr =>
    cases ht
    refine ⟨{ s' with atLineStart := false }, ?_, h.inLine.strengthen rfl hrest.loosen,
      hshift.of_depths_eq rfl rfl⟩
    split
    · next r' hr' =>
      obtain ⟨r, hr₀⟩ := hrest.exists_cons hr'
      exact absurd hr₀ (hr r)
    · rfl

/-- **The start of a line** that has lost some of its room. -/
theorem Beside.lineStart (h : Beside G n old old' s s') (hP : KeepsOrder P)
    (hshift : Shifted P B B' inner s s') (hground : Grounds P B B')
    (hsheds : s.brackets = [] → Sheds P (B.headD .zero).wide s.rest s'.rest)
    (hlast : ∀ c ∈ s.rest.getLast?, ¬ IsRoom c) (ht : s.lineStart = some t)
    (hbase : B.length ≤ t.depths.length) : ∃ t' inner', s'.lineStart = some t'
      ∧ Beside G n old old' t t' ∧ Shifted P B B' inner' t t' := by
  obtain ⟨⟨d, held, u⟩, hmeasure, -⟩ := Option.bind_eq_some_iff.1 ht
  obtain ⟨used, used', rest', hu, hcount, hused', hline, hm⟩ := measure_trims hmeasure h.rest hlast
  obtain ⟨d', held', hm⟩ := hm .zero none
  have hmeasure' := hm s' rfl (s'.rest.length + 1) (Nat.lt_succ_self _)
  have hpass : Beside (fun _ _ ↦ True) n old old' u (s'.advance used' rest') := by
    rw [hu]
    exact h.passing (fun _ ↦ trivial) (hline.weaken fun _ _ _ ↦ trivial) hcount
  have hshift' : Shifted P B B' inner u (s'.advance used' rest') :=
    hshift.of_depths_eq (by rw [hu, advance_depths]) (advance_depths ..)
  have halone_eq : isAlone (s'.advance used' rest').rest = isAlone u.rest := by
    rw [advance_rest, isAlone, isAlone, hline.head?_eq]
  have hdepth := codeDepth?_of_measure hmeasure
  have hdepth' := codeDepth?_of_measure hmeasure'
  rw [lineStart_of_measure hmeasure] at ht
  rw [lineStart_of_measure hmeasure']
  rw [halone_eq] at hdepth' ⊢
  rw [← advance_rest s' used' rest'] at hline
  generalize s'.advance used' rest' = u' at *
  split at ht
  · next halone =>
    obtain ⟨c, x, hx, hc⟩ : ∃ c x, u.rest = c :: x ∧ (c = '#' ∨ c = '\n') := by
      cases hx : u.rest with
      | nil => rw [hx] at halone; cases halone
      | cons c x =>
        rw [hx] at halone
        exact ⟨c, x, rfl, by simpa [isAlone] using halone⟩
    rw [if_pos halone]
    obtain ⟨x', hx', -⟩ := (hx ▸ hline).of_cons (by simp)
    obtain ⟨hcomment, hbehind⟩ := hpass.comment_of_alone hx hx' hc (hx ▸ hx' ▸ hline)
    obtain ⟨t', ht', hbeside, hshifted⟩ := hcomment.afterComment hbehind
      (hshift'.of_depths_eq (comment_depths _) (comment_depths _)) ht
    exact ⟨t', inner, ht', hbeside, hshifted⟩
  · next halone =>
    rw [if_neg halone] at hdepth hdepth' ⊢
    split at ht
    · next hbrackets =>
      cases ht
      rw [if_pos (hpass.brackets_eq ▸ hbrackets)]
      exact ⟨_, inner, rfl, hpass.inLine.strengthen rfl hline.loosen, hshift'.of_depths_eq rfl rfl⟩
    · next hbrackets =>
      rw [if_neg (hpass.brackets_eq ▸ hbrackets)]
      obtain ⟨v, hv, rfl⟩ := Option.map_eq_some_iff.1 ht
      have hopen : s.brackets = [] := by
        have hsame : u.brackets = s.brackets := by rw [hu, advance_brackets]
        rw [← hsame]
        simpa using hbrackets
      have hwide := hshift'.wide_le hv hbase
      obtain ⟨e, he, hshed⟩ := hsheds hopen _ hdepth hwide
      obtain rfl : settledDepth d' held' = e := Option.some.inj (hdepth'.symm.trans he)
      obtain ⟨v', inner', hv', hbeside, hshifted⟩ :=
        hpass.arrange hP hshift' hground hshed hwide hv
      refine ⟨{ v' with atLineStart := false }, inner', by rw [hv']; rfl,
        hbeside.inLine.strengthen rfl ?_, hshifted.of_depths_eq rfl rfl⟩
      rw [arrange_rest hv, arrange_rest hv']
      exact hline.loosen

end

/-! ## Whole stretches -/

section

variable {G : List Char → List Char → Prop} {n j : Nat} {old old' ts : List Token}
  {P : Depth → Depth → Prop} {B B' : List Depth} {inner : List (Depth × Depth)}
  {s s' t : Scanner}

/-- Where a line begins outside brackets, its depth corresponds to what becomes of it. -/
def LosesRoom (G : List Char → List Char → Prop) (P : Depth → Depth → Prop) (least : Nat)
    (s : Scanner) : Prop :=
  s.atLineStart = true → s.brackets = [] → ∀ r', G s.rest r' → Sheds P least s.rest r'

/-- **One step**, unless it passes room that the second text has lost. -/
theorem Beside.next (h : Beside G n old old' s s') (hP : KeepsOrder P)
    (hshift : Shifted P B B' inner s s') (hground : Grounds P B B')
    (hloses : LosesRoom G P (B.headD .zero).wide s)
    (hlast : ∀ c ∈ s.rest.getLast?, ¬ IsRoom c) (ht : s.next = some t)
    (hbase : B.length ≤ t.depths.length) : ∃ ts' t' inner', Reaches s' ts' t'
      ∧ Beside G n old old' t t' ∧ Shifted P B B' inner' t t' := by
  have hone {t' : Scanner} (ht' : s'.next = some t') : ∃ ts', Reaches s' ts' t' := by
    obtain ⟨new, hmove⟩ := exists_move_of_next ht'
    exact ⟨_, .move hmove .here ht'⟩
  rw [Scanner.next] at ht
  split at ht
  · next hs =>
    obtain ⟨t', inner', ht', hbeside, hshifted⟩ := h.lineStart hP hshift hground
      (fun hbrackets ↦ hloses hs hbrackets _ (h.start hs)) hlast ht hbase
    obtain ⟨ts', hreaches⟩ : ∃ ts', Reaches s' ts' t' :=
      hone (by rw [Scanner.next, if_pos (h.atLineStart_eq.symm.trans hs), ht'])
    exact ⟨ts', t', inner', hreaches, hbeside, hshifted⟩
  · next hs =>
    rw [Bool.not_eq_true] at hs
    obtain ⟨new, hstep⟩ := exists_step_of_token ht
    rcases h.token hs hlast ht with hskip | ⟨t', ht', hbeside⟩
    · exact ⟨[], s', inner, .here, hskip, hshift.of_depths_eq hstep.depths rfl⟩
    · obtain ⟨new', hstep'⟩ := exists_step_of_token ht'
      obtain ⟨ts', hreaches⟩ : ∃ ts', Reaches s' ts' t' := hone (by
        rw [Scanner.next, ← h.atLineStart_eq, hs, if_neg Bool.false_ne_true, ht'])
      exact ⟨ts', t', inner, hreaches, hbeside, hshift.of_depths_eq hstep.depths hstep'.depths⟩

/-- More blocks around make no difference. -/
theorem walk_add {cost : TokenKind → Option (Nat × Nat)} {n k : Nat} {ts : List Token}
    (h : walk cost n ts = some k) (m : Nat) : walk cost (n + m) ts = some (k + m) := by
  induction ts generalizing n with
  | nil => rw [walk, Option.some.inj h]
  | cons t ts ih =>
    rw [walk] at h ⊢
    cases hcost : cost t.kind with
    | none =>
      rw [hcost] at h
      cases h
    | some pc =>
      obtain ⟨p, c⟩ := pc
      rw [hcost] at h
      dsimp only at h ⊢
      split at h
      · next hp =>
        rw [if_pos (Nat.le_add_right_of_le hp), ← ih h, Nat.sub_add_comm hp, Nat.add_right_comm]
      · cases h

/-- **A stretch of a text** whose lines lose room is scanned as before, if it closes none of the
blocks around and its lines compare in depth as before. -/
theorem Reaches.beside (h : Reaches s ts t) (hP : KeepsOrder P) (hground : Grounds P B B')
    (hloses : ∀ a u b, Reaches s a u → Reaches u b t → LosesRoom G P (B.headD .zero).wide u)
    (hbeside : Beside G n old old' s s') (hshift : Shifted P B B' inner s s')
    (hlast : ∀ c ∈ s.rest.getLast?, ¬ IsRoom c) (hwalk : walk blockCost inner.length ts = some j) :
    ∃ ts' t' inner', Reaches s' ts' t' ∧ Beside G n old old' t t' ∧ Shifted P B B' inner' t t'
      ∧ inner'.length = j := by
  -- `walk` counts the blocks that are open, so the blocks around are never closed
  induction h generalizing s' inner with
  | here => exact ⟨[], s', inner, .here, hbeside, hshift, Option.some.inj hwalk⟩
  | @move s t u new ts hmove hrest hnext ih =>
    rw [walk_append] at hwalk
    obtain ⟨k, hk, hwalk⟩ := Option.bind_eq_some_iff.1 hwalk
    obtain ⟨passed, hpassed, -⟩ := hmove.text
    have hdepths : t.depths.length = k + B.length := by
      have hall := hmove.depths.1
      rw [hshift.depths_eq, List.length_append, List.length_map, walk_add hk] at hall
      exact (Option.some.inj hall).symm
    obtain ⟨ts', t', inner', hreaches, hbeside', hshift'⟩ := hbeside.next hP hshift hground
      (hloses _ _ _ .here (.move hmove hrest hnext)) hlast hnext (by omega)
    have hinner : inner'.length = k := by
      rw [hshift'.depths_eq, List.length_append, List.length_map] at hdepths
      omega
    obtain ⟨us, u', inner'', hmore, hfinal⟩ := ih
      (fun a v b hv hb ↦ hloses _ v b (.move hmove hv hnext) hb) hbeside' hshift'
      (fun c hc ↦ hlast c (by rw [hpassed, List.getLast?_append, hc]; rfl)) (hinner ▸ hwalk)
    exact ⟨ts' ++ us, u', inner'', hreaches.trans hmore, hfinal⟩

end

end Scanner
end Source
end TexWeave
