import Mathlib.Data.List.TakeWhile
import TexWeave.Settings

/-!
# References to variables

Where a text refers to a variable, its value is put in.  The text is read once, from left to right,
and a value that is put in is not read again, whatever it holds.  In a tree of untyped data only the
texts change.

* `Fills` — the reading of a text; `fillText_eq_iff`, filling is that reading.
* `Segment` — literal stretches and references, of which a text can be put together.
* `Filled` — a tree and the same tree with its texts filled.
* `fill_in_place` — filling segment by segment, and leaf by leaf.
-/

set_option autoImplicit false

namespace TexWeave
namespace Environment

/-! ## Texts -/

section Texts

variable {env : Environment}

theorem reference?_eq_some_iff {cs name rest : List Char} :
    reference? cs = some (name, rest)
      ↔ name ≠ [] ∧ '}' ∉ name ∧ cs = '$' :: '{' :: (name ++ '}' :: rest) := by
  constructor
  · intro h
    unfold reference? at h
    split at h
    · rename_i r
      split at h
      · rename_i c name' rest' hname hrest
        cases h
        refine ⟨List.cons_ne_nil _ _, fun hmem ↦ ?_, ?_⟩
        · exact absurd (List.mem_takeWhile_imp (hname ▸ hmem)) (by decide)
        · rw [← hname, ← hrest, List.takeWhile_append_dropWhile]
      · cases h
    · cases h
  · rintro ⟨hne, hclosed, rfl⟩
    have hname : ∀ c ∈ name, (c != '}') = true :=
      fun c hc ↦ bne_iff_ne.2 fun heq ↦ hclosed (heq ▸ hc)
    obtain ⟨c, name, rfl⟩ := List.exists_cons_of_ne_nil hne
    have htake : (c :: name ++ '}' :: rest).takeWhile (· != '}') = c :: name :=
      (List.takeWhile_append_of_pos hname).trans (by simp)
    have hdrop : (c :: name ++ '}' :: rest).dropWhile (· != '}') = '}' :: rest :=
      (List.dropWhile_append_of_pos hname).trans (by simp)
    rw [reference?, htake, hdrop]
    rfl

/-- Reading a text from left to right: a reference gives way to the value of its variable, and what
opens no reference stays. -/
inductive Fills (env : Environment) : List Char → List Char → Prop
  | nil : Fills env [] []
  | char {c : Char} {r r' : List Char}
      (hc : ∀ name rest, name ≠ [] → '}' ∉ name → c :: r ≠ '$' :: '{' :: (name ++ '}' :: rest))
      (h : Fills env r r') : Fills env (c :: r) (c :: r')
  | reference {name r r' : List Char} (hne : name ≠ []) (hclosed : '}' ∉ name)
      (h : Fills env r r') :
      Fills env ('$' :: '{' :: (name ++ '}' :: r))
        ((env.valueOf (String.ofList name)).toList ++ r')

theorem exists_fills (env : Environment) (cs : List Char) : ∃ ds, Fills env cs ds := by
  induction hn : cs.length using Nat.strong_induction_on generalizing cs with
  | _ n ih =>
    cases cs with
    | nil => exact ⟨[], .nil⟩
    | cons c r =>
      cases href : reference? (c :: r) with
      | none =>
        obtain ⟨r', hr'⟩ := ih r.length (by simp [← hn]) r rfl
        refine ⟨c :: r', .char (fun name rest hne hclosed heq ↦ ?_) hr'⟩
        cases href.symm.trans (reference?_eq_some_iff.2 ⟨hne, hclosed, heq⟩)
      | some found =>
        obtain ⟨name, rest⟩ := found
        obtain ⟨hne, hclosed, heq⟩ := reference?_eq_some_iff.1 href
        have hlength : rest.length < n := by
          rw [← hn, heq]
          simp
          omega
        obtain ⟨rest', hrest'⟩ := ih rest.length hlength rest rfl
        rw [heq]
        exact ⟨_, .reference hne hclosed hrest'⟩

namespace Fills

variable {cs ds : List Char}

theorem fillWithin_eq (h : Fills env cs ds) :
    ∀ n, cs.length ≤ n → env.fillWithin n cs = ds := by
  induction h with
  | nil => exact fun n _ ↦ by cases n <;> rfl
  | @char c r r' hc _ ih =>
    rintro (_ | n) hn
    · exact absurd hn (by simp)
    · have hnone : reference? (c :: r) = none := by
        rw [Option.eq_none_iff_forall_ne_some]
        rintro ⟨name, rest⟩ href
        obtain ⟨hne, hclosed, heq⟩ := reference?_eq_some_iff.1 href
        exact hc name rest hne hclosed heq
      rw [fillWithin, hnone, ih n (Nat.le_of_succ_le_succ hn)]
  | @reference name r r' hne hclosed _ ih =>
    rintro (_ | n) hn
    · exact absurd hn (by simp)
    · have hsome : reference? ('$' :: '{' :: (name ++ '}' :: r)) = some (name, r) :=
        reference?_eq_some_iff.2 ⟨hne, hclosed, rfl⟩
      simp only [List.length_cons, List.length_append] at hn
      rw [fillWithin, hsome, ← ih n (by omega)]

/-- A text without a dollar sign stays as it is. -/
theorem append_text {a : List Char} (ha : '$' ∉ a) (h : Fills env cs ds) :
    Fills env (a ++ cs) (a ++ ds) := by
  induction a with
  | nil => exact h
  | cons c a ih =>
    refine .char (fun name rest _ _ heq ↦ ?_) (ih fun hmem ↦ ha (List.mem_cons_of_mem c hmem))
    exact ha ((List.cons.inj heq).1 ▸ List.mem_cons_self)

end Fills

/-- **Filling a text is reading it once.** -/
theorem fillText_eq_iff {s t : String} :
    env.fillText s = t ↔ Fills env s.toList t.toList := by
  have hlength : s.toList.length ≤ s.length := (String.length_toList (s := s)).le
  constructor
  · rintro rfl
    obtain ⟨ds, h⟩ := exists_fills env s.toList
    rwa [fillText, h.fillWithin_eq _ hlength, String.toList_ofList]
  · intro h
    rw [fillText, h.fillWithin_eq _ hlength, String.ofList_toList]

end Texts

/-! ## Segments -/

/-- A stretch of a text: literal, or a reference to a variable. -/
inductive Segment
  | text (cs : List Char) (hcs : '$' ∉ cs)
  | reference (name : List Char) (hne : name ≠ []) (hclosed : '}' ∉ name)

namespace Segment

/-- A segment as it is written. -/
def written : Segment → List Char
  | .text cs _ => cs
  | .reference name _ _ => '$' :: '{' :: (name ++ ['}'])

/-- What a segment stands for. -/
def filled (env : Environment) : Segment → List Char
  | .text cs _ => cs
  | .reference name _ _ => (env.valueOf (String.ofList name)).toList

end Segment

theorem fills_segments (env : Environment) (segments : List Segment) :
    Fills env (segments.flatMap Segment.written) (segments.flatMap (Segment.filled env)) := by
  induction segments with
  | nil => exact .nil
  | cons segment segments ih =>
    rw [List.flatMap_cons, List.flatMap_cons]
    cases segment with
    | text cs hcs => exact ih.append_text hcs
    | reference name hne hclosed =>
      rw [Segment.written, List.cons_append, List.cons_append, List.append_assoc,
        List.singleton_append]
      exact .reference hne hclosed ih

/-! ## Trees -/

mutual

/-- A tree, and the same tree with its texts filled: scalars stay, and so do the names of fields,
their order, and how many members there are. -/
inductive Filled (env : Environment) : Value → Value → Prop
  | null : Filled env .null .null
  | bool (b : Bool) : Filled env (.bool b) (.bool b)
  | int (n : Int) : Filled env (.int n) (.int n)
  | float (x : Binary64) : Filled env (.float x) (.float x)
  | date (t : String) : Filled env (.date t) (.date t)
  | str {s t : String} (h : Fills env s.toList t.toList) : Filled env (.str s) (.str t)
  | list {items items' : List Value} (h : FilledItems env items items') :
      Filled env (.list items) (.list items')
  | map {fields fields' : List (String × Value)} (h : FilledFields env fields fields') :
      Filled env (.map fields) (.map fields')

/-- The same for the members of a list, one by one. -/
inductive FilledItems (env : Environment) : List Value → List Value → Prop
  | nil : FilledItems env [] []
  | cons {v v' : Value} {r r' : List Value} (h : Filled env v v') (hr : FilledItems env r r') :
      FilledItems env (v :: r) (v' :: r')

/-- The same for the fields of a record, one by one. -/
inductive FilledFields (env : Environment) :
    List (String × Value) → List (String × Value) → Prop
  | nil : FilledFields env [] []
  | cons {name : String} {v v' : Value} {r r' : List (String × Value)} (h : Filled env v v')
      (hr : FilledFields env r r') : FilledFields env ((name, v) :: r) ((name, v') :: r')

end

section Trees

variable {env : Environment}

mutual

theorem filled_fill (env : Environment) : ∀ v : Value, Filled env v (env.fill v)
  | .null => .null
  | .bool b => .bool b
  | .int n => .int n
  | .float x => .float x
  | .date t => .date t
  | .str _ => .str (fillText_eq_iff.1 rfl)
  | .list items => .list (filledItems_fillItems env items)
  | .map fields => .map (filledFields_fillFields env fields)

theorem filledItems_fillItems (env : Environment) :
    ∀ items : List Value, FilledItems env items (env.fillItems items)
  | [] => .nil
  | v :: r => .cons (filled_fill env v) (filledItems_fillItems env r)

theorem filledFields_fillFields (env : Environment) :
    ∀ fields : List (String × Value), FilledFields env fields (env.fillFields fields)
  | [] => .nil
  | (_, v) :: r => .cons (filled_fill env v) (filledFields_fillFields env r)

end

mutual

theorem Filled.fill_eq : ∀ {v w : Value}, Filled env v w → env.fill v = w
  | _, _, .null => rfl
  | _, _, .bool _ => rfl
  | _, _, .int _ => rfl
  | _, _, .float _ => rfl
  | _, _, .date _ => rfl
  | _, _, .str h => congrArg Value.str (fillText_eq_iff.2 h)
  | _, _, .list h => congrArg Value.list h.fillItems_eq
  | _, _, .map h => congrArg Value.map h.fillFields_eq

theorem FilledItems.fillItems_eq :
    ∀ {items items' : List Value}, FilledItems env items items' → env.fillItems items = items'
  | _, _, .nil => rfl
  | _, _, .cons h hr => congrArg₂ List.cons h.fill_eq hr.fillItems_eq

theorem FilledFields.fillFields_eq :
    ∀ {fields fields' : List (String × Value)},
      FilledFields env fields fields' → env.fillFields fields = fields'
  | _, _, .nil => rfl
  | _, _, .cons h hr => congrArg₂ List.cons (congrArg (Prod.mk _) h.fill_eq) hr.fillFields_eq

end

end Trees

/-- **Values are put in for references where these stand, and nothing else changes.**  A text made
of segments is filled segment by segment, whatever the values hold; a tree is filled leaf by
leaf. -/
theorem fill_in_place (env : Environment) :
    (∀ segments : List Segment,
      env.fillText (String.ofList (segments.flatMap Segment.written))
        = String.ofList (segments.flatMap (Segment.filled env)))
      ∧ ∀ v w : Value, env.fill v = w ↔ Filled env v w := by
  refine ⟨fun segments ↦ fillText_eq_iff.2 ?_, fun v w ↦ ⟨?_, Filled.fill_eq⟩⟩
  · rw [String.toList_ofList, String.toList_ofList]
    exact fills_segments env segments
  · rintro rfl
    exact filled_fill env v

/-- A value that looks like a reference is not filled in turn. -/
example : Environment.fillText [("a", "$\x7bb\x7d"), ("b", "c")] "$\x7ba\x7d/$\x7bb\x7d"
    = "$\x7bb\x7d/c" := by decide

end Environment
end TexWeave
