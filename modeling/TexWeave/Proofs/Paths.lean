import TexWeave.Path
import TexWeave.Proofs.Lines

/-!
# Paths written and read back

A path that was read consists of proper names, and such a path reads back from its own text.  So a
path that a build reports can be handed on as text, and the file of a job has the job as its stem.

* `Path.Normal` — a path of proper names; `Path.normal_ofString`, `Path.Normal.join`.
* `Path.ofString_toString` — writing and reading.
* `Path.join_name`, `Path.parent_join_name`, `Path.stem_join_name` — a file in a directory.
* `Path.stem_append_tex_eq_name_iff` — which names a job stands for.
-/

set_option autoImplicit false

namespace TexWeave

open Text

namespace Path

/-! ## Proper names -/

/-- A name that a path keeps: not empty, not a single dot, and without a slash. -/
structure IsName (n : String) : Prop where
  nonempty : n ≠ ""
  not_dot : n ≠ "."
  not_slash : '/' ∉ n.toList

/-- A path of proper names. -/
def Normal (p : Path) : Prop := ∀ n ∈ p.parts, IsName n

theorem normal_ofString (s : String) : (ofString s).Normal := by
  intro n hn
  obtain ⟨cs, hcs, rfl⟩ := List.mem_map.1 hn
  obtain ⟨hsplit, hkept⟩ := List.mem_filter.1 hcs
  rw [Bool.and_eq_true] at hkept
  refine ⟨fun h ↦ ?_, fun h ↦ ?_, ?_⟩
  · have hnil : cs = [] := by simpa using congrArg String.toList h
    simp [hnil] at hkept
  · have hdot : cs = ['.'] := by simpa using congrArg String.toList h
    simp [hdot] at hkept
  · rw [String.toList_ofList]
    exact not_mem_of_mem_splitAt hsplit

theorem partsOf_append (s t : String) :
    partsOf (s ++ ("/" ++ t)) = partsOf s ++ partsOf t := by
  have h : (s ++ ("/" ++ t)).toList = s.toList ++ '/' :: t.toList := by
    simp [String.toList_append]
  rw [partsOf, h, splitAt_append, List.filter_append, List.map_append, partsOf, partsOf]

theorem partsOf_name {n : String} (h : IsName n) : partsOf n = [n] := by
  have hne : n.toList ≠ [] := fun he ↦ h.nonempty (by simpa using he)
  have hdot : n.toList ≠ ['.'] := fun he ↦
    h.not_dot (String.toList_inj.1 (he.trans (by rfl)))
  rw [partsOf, splitAt_of_not_mem h.not_slash]
  simp [hne, hdot]

theorem partsOf_joinWith {ns : List String} (h : ∀ n ∈ ns, IsName n) :
    partsOf (joinWith "/" ns) = ns := by
  induction ns with
  | nil => rfl
  | cons n r ih =>
    have hn : IsName n := h n List.mem_cons_self
    have hr : ∀ m ∈ r, IsName m := fun m hm ↦ h m (List.mem_cons_of_mem n hm)
    cases r with
    | nil => exact partsOf_name hn
    | cons m r =>
      rw [joinWith_cons_cons, partsOf_append, partsOf_name hn, ih hr]
      rfl

/-- Names put together do not start with a slash. -/
theorem head?_joinWith {ns : List String} (h : ∀ n ∈ ns, IsName n) :
    (joinWith "/" ns).toList.head? ≠ some '/' := by
  cases ns with
  | nil => simp [joinWith]
  | cons n r =>
    obtain ⟨hne, _, hslash⟩ := h n List.mem_cons_self
    have hchars : n.toList ≠ [] := fun he ↦ hne (by simpa using he)
    obtain ⟨c, cs, hcs⟩ := List.exists_cons_of_ne_nil hchars
    have hhead : (joinWith "/" (n :: r)).toList.head? = some c := by
      cases r with
      | nil => simp [joinWith, hcs]
      | cons m r => simp [joinWith_cons_cons, String.toList_append, hcs]
    rw [hhead, Option.some_inj.ne]
    rintro rfl
    exact hslash (hcs ▸ List.mem_cons_self)

/-! ## Writing and reading -/

theorem ofChars_of_head? {cs : List Char} (h : cs.head? ≠ some '/') :
    PathRoot.ofChars cs = .none := by
  cases cs with
  | nil => rfl
  | cons c r =>
    have hc : c ≠ '/' := fun hc ↦ h (hc ▸ rfl)
    simp [PathRoot.ofChars, hc]

theorem ofChars_cons {cs : List Char} (h : cs.head? ≠ some '/') :
    PathRoot.ofChars ('/' :: cs) = .single := by
  cases cs with
  | nil => rfl
  | cons c r =>
    have hc : c ≠ '/' := fun hc ↦ h (hc ▸ rfl)
    simp [PathRoot.ofChars, hc]

theorem ofChars_cons_cons {cs : List Char} (h : cs.head? ≠ some '/') :
    PathRoot.ofChars ('/' :: '/' :: cs) = .double := by
  cases cs with
  | nil => rfl
  | cons c r =>
    have hc : c ≠ '/' := fun hc ↦ h (hc ▸ rfl)
    simp [PathRoot.ofChars, hc]

/-- **A path of proper names reads back from its text.** -/
theorem ofString_toString {p : Path} (h : p.Normal) : ofString p.toString = p := by
  obtain ⟨root, ns⟩ := p
  have hparts : partsOf (joinWith "/" ns) = ns := partsOf_joinWith h
  have hhead := head?_joinWith h
  cases root with
  | none =>
    cases ns with
    | nil => rfl
    | cons n r =>
      have htext : toString ⟨.none, n :: r⟩ = joinWith "/" (n :: r) := String.empty_append
      rw [htext, ofString, ofChars_of_head? hhead, hparts]
  | single =>
    have htext : toString ⟨.single, ns⟩ = "" ++ ("/" ++ joinWith "/" ns) :=
      String.empty_append.symm
    rw [htext, ofString, partsOf_append, hparts, String.empty_append, String.toList_append]
    exact congrArg (Path.mk · ns) (ofChars_cons hhead)
  | double =>
    have htext : toString ⟨.double, ns⟩ = "/" ++ ("/" ++ joinWith "/" ns) := by
      rw [← String.append_assoc]
      rfl
    rw [htext, ofString, partsOf_append, hparts, String.toList_append, String.toList_append]
    exact congrArg (Path.mk · ns) (ofChars_cons_cons hhead)

/-! ## A file in a directory -/

section Join

variable {p : Path} {n : String}

theorem join_name (p : Path) (h : IsName n) : p.join n = ⟨p.root, p.parts ++ [n]⟩ := by
  have hhead : n.toList.head? ≠ some '/' := fun hc ↦
    h.not_slash (List.mem_of_mem_head? hc)
  rw [join, ofString, ofChars_of_head? hhead, partsOf_name h]
  rfl

theorem Normal.join (hp : p.Normal) (h : IsName n) : (p.join n).Normal := by
  rw [join_name p h]
  exact List.forall_mem_append.2 ⟨hp, List.forall_mem_singleton.2 h⟩

theorem parent_join_name (p : Path) (h : IsName n) : (p.join n).parent = p := by
  rw [join_name p h, parent, List.dropLast_concat]

theorem name_join_name (p : Path) (h : IsName n) : (p.join n).name = n := by
  rw [join_name p h, name, List.getLast?_concat, Option.getD_some]

/-- Two names in one directory are written alike only if they are the same. -/
theorem toString_join_inj {m : String} (hp : p.Normal) (h : IsName n) (h' : IsName m) :
    (p.join n).toString = (p.join m).toString ↔ n = m := by
  refine ⟨fun he ↦ ?_, fun he ↦ he ▸ rfl⟩
  have hjoin : p.join n = p.join m := by
    rw [← ofString_toString (hp.join h), he, ofString_toString (hp.join h')]
  rw [← name_join_name p h, hjoin, name_join_name p h']

theorem Normal.parent (hp : p.Normal) : p.parent.Normal := fun m hm ↦
  hp m (List.dropLast_subset _ hm)

/-- The last name of a path of proper names is one. -/
theorem Normal.isName_name (hp : p.Normal) (hparts : p.parts ≠ []) : IsName p.name := by
  rw [name, List.getLast?_eq_some_getLast hparts, Option.getD_some]
  exact hp _ (List.getLast_mem hparts)

/-- A path is its last name, seen from its parent. -/
theorem Normal.parent_join_name_self (hp : p.Normal) (hparts : p.parts ≠ []) :
    p.parent.join p.name = p := by
  rw [join_name _ (hp.isName_name hparts), name, List.getLast?_eq_some_getLast hparts,
    Option.getD_some, Path.parent, List.dropLast_append_getLast hparts]

end Join

/-- The name of a job with an ending. -/
theorem isName_append {jobname ending : String} (hj : '/' ∉ jobname.toList)
    (he : '/' ∉ ending.toList) (hlength : 1 < ending.length) : IsName (jobname ++ ending) := by
  refine ⟨fun h ↦ ?_, fun h ↦ ?_, ?_⟩
  · have hl := congrArg String.length h
    rw [String.length_append, String.length_empty] at hl
    omega
  · have hl : (jobname ++ ending).length = 1 := congrArg String.length h
    rw [String.length_append] at hl
    omega
  · rw [String.toList_append, List.mem_append]
    exact not_or.2 ⟨hj, he⟩

/-! ## Stems -/

/-- The stem of a name is its front. -/
theorem stemOf_prefix (cs : List Char) : stemOf cs <+: cs := by
  unfold stemOf
  dsimp only
  split
  · exact List.take_prefix _ _
  · exact List.prefix_refl cs

/-- Of a name that ends like the markup of a job, the stem is what precedes the ending. -/
theorem stemOf_append_tex {cs : List Char} (h : cs ≠ []) :
    stemOf (cs ++ ".tex".toList) = cs := by
  have hpos : 0 < cs.length := List.length_pos_iff.2 h
  have hsuffix : (cs ++ ".tex".toList).reverse.takeWhile (· != '.') = ['x', 'e', 't'] := by
    simp [List.takeWhile]
  rw [stemOf, hsuffix]
  simp [hpos]

/-- **The stem of the markup of a job is the job**, dots in its name or not. -/
theorem stem_join_name (p : Path) {jobname : String} (hne : jobname ≠ "")
    (hslash : '/' ∉ jobname.toList) : (p.join (jobname ++ ".tex")).stem = jobname := by
  have hname := name_join_name p (isName_append hslash (by decide) (by decide) :
    IsName (jobname ++ ".tex"))
  have hchars : jobname.toList ≠ [] := fun he ↦ hne (by simpa using he)
  rw [stem, hname, String.toList_append, stemOf_append_tex hchars, String.ofList_toList]

/-- Only a name that ends so comes back when the ending is put behind its stem. -/
theorem stem_append_tex_eq_name_iff {p : Path} :
    p.stem ++ ".tex" = p.name ↔ ∃ s, s ≠ "" ∧ p.name = s ++ ".tex" := by
  constructor
  · refine fun h ↦ ⟨p.stem, fun hempty ↦ ?_, h.symm⟩
    -- the ending alone has no suffix, so it would be its own stem
    rw [hempty, String.empty_append] at h
    rw [stem, ← h] at hempty
    exact absurd hempty (by decide)
  · rintro ⟨s, hne, hs⟩
    have hchars : s.toList ≠ [] := fun he ↦ hne (by simpa using he)
    rw [stem, hs, String.toList_append, stemOf_append_tex hchars, String.ofList_toList]

end Path

end TexWeave
