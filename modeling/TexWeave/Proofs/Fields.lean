import Mathlib.Data.List.Infix
import TexWeave.Source.Literal

/-!
# The fields of a string

Where the fields of a string stand can be said without fuel: behind some text comes an expression in
braces, perhaps with a format, which may hold fields again, and behind that the next.  Every field
takes its braces with it, so there is always more fuel than fields.

* `length_literalPart`, `length_fieldExpression` — how much room the parts of a field take.
* `FieldsIn` — the expressions of the fields in a text, and what is left of it.
* `fieldsIn_of_fieldsWithin`, `FieldsIn.fieldsWithin_eq` — enough fuel finds just these.
-/

set_option autoImplicit false

namespace TexWeave
namespace Source

/-! ## The room that parts of a field take -/

section

variable {outer raw : Bool} {acc r : List Char} {t : List Char × List Char}

theorem length_literalPart {named : Bool} (h : literalPart outer raw named acc r = some t) :
    t.2.length ≤ r.length := by
  fun_induction literalPart outer raw named acc r <;> grind

theorem length_fieldStep {c : Char} {opened : List Char} {n : Nat}
    {go : Option (Char × Bool) → List Char → Option (List Char × List Char)}
    {skip : Unit → Option (List Char × List Char)}
    (hgo : ∀ quote opened, go quote opened = some t → t.1.length + t.2.length ≤ n)
    (hskip : skip () = some t → t.1.length + t.2.length ≤ n)
    (hhere : acc.length + (c :: r).length ≤ n)
    (h : fieldExpression.fieldStep c opened acc r go skip = some t) :
    t.1.length + t.2.length ≤ n := by
  unfold fieldExpression.fieldStep at h
  split at h
  · exact hgo _ _ h
  split at h
  · split at h
    · cases h
    · exact hgo _ _ h
  split at h
  · cases h
  split at h
  · split at h
    · exact hskip h
    split at h
    · exact hgo _ _ h
    · cases h
      exact hhere
  split at h
  · split at h
    · cases h
    split at h
    · exact hgo _ _ h
    · cases h
  · exact hgo _ _ h

theorem length_fieldExpression {quote : Option (Char × Bool)} {opened : List Char}
    (h : fieldExpression quote opened acc r = some t) :
    t.1.length + t.2.length ≤ acc.length + r.length := by
  fun_induction fieldExpression quote opened acc r with
  | case1 => cases h
  | case2 => cases h
  | case3 q opened acc c c₂ c₃ r _ _ ih =>
    have hlength := ih h
    simp only [List.length_cons] at hlength ⊢
    omega
  | case4 q opened acc c c₂ c₃ r _ _ ih =>
    have hlength := ih h
    simp only [List.length_cons] at hlength ⊢
    omega
  | case5 => cases h
  | case6 => cases h
  | case7 q opened acc c r _ ih =>
    have hlength := ih h
    simp only [List.length_cons] at hlength ⊢
    omega
  | case8 opened acc c c₂ c₃ r _ _ ih =>
    have hlength := ih h
    simp only [List.length_cons] at hlength ⊢
    omega
  | case9 opened acc c c₂ c₃ r _ _ ihgo ihskip =>
    refine length_fieldStep (fun quote opened h ↦ ?_) (fun h ↦ ?_) (Nat.le_refl _) h
    · have hlength := ihgo quote opened h
      simp only [List.length_cons] at hlength ⊢
      omega
    · have hlength := ihskip h
      simp only [List.length_cons] at hlength ⊢
      omega
  | case10 opened acc c c₂ _ ihgo ihskip =>
    refine length_fieldStep (fun quote opened h ↦ ?_) (fun h ↦ ?_) (Nat.le_refl _) h
    · have hlength := ihgo quote opened h
      simp only [List.length_cons] at hlength ⊢
      omega
    · have hlength := ihskip h
      simp only [List.length_cons] at hlength ⊢
      omega
  | case11 opened acc c _ ihgo =>
    refine length_fieldStep (fun quote opened h ↦ ?_) (fun h ↦ ?_) (Nat.le_refl _) h
    · have hlength := ihgo quote opened h
      simp only [List.length_cons] at hlength ⊢
      omega
    · cases h

end

theorem length_afterEquals (r : List Char) : (afterEquals r).length ≤ r.length := by
  unfold afterEquals
  split
  · exact (List.dropWhile_suffix _).length_le.trans (Nat.le_succ _)
  · exact Nat.le_refl _

theorem length_afterConversion? {r s : List Char} (h : afterConversion? r = some s) :
    s.length ≤ r.length := by
  unfold afterConversion? at h
  split at h
  · split at h <;> cases h
    exact Nat.le_add_right _ 2
  · cases h
  · cases h
    exact Nat.le_refl _

/-- The parts of a field leave less than there was. -/
theorem length_field {outer raw : Bool} {cs literal s expression s' u : List Char}
    (hliteral : literalPart outer raw false [] cs = some (literal, '\x7b' :: s))
    (hexpression : fieldExpression none [] [] s = some (expression, s'))
    (hconversion : afterConversion? (afterEquals s') = some u) :
    expression.length + u.length < cs.length := by
  have hopening := length_literalPart hliteral
  have hfield := length_fieldExpression hexpression
  have hequals := length_afterEquals s'
  have hbehind := length_afterConversion? hconversion
  simp only [List.length_cons, List.length_nil] at hopening hfield
  omega

/-! ## Fields without fuel -/

/-- The expressions of the fields in a text, and what is left of it, without fuel. -/
inductive FieldsIn (raw : Bool) : Nat → List Char → List (List Char) → List Char → Prop
  /-- No field comes. -/
  | none {level : Nat} {cs literal r : List Char}
      (hliteral : literalPart (level == 0) raw false [] cs = some (literal, r))
      (hescapes : (raw || escapesOk literal.reverse) = true) (hr : ∀ s, r ≠ '\x7b' :: s) :
      FieldsIn raw level cs [] r
  /-- A field without a format, and those behind it. -/
  | plain {level : Nat} {cs literal s expression s' t r : List Char} {es : List (List Char)}
      (hliteral : literalPart (level == 0) raw false [] cs = some (literal, '\x7b' :: s))
      (hescapes : (raw || escapesOk literal.reverse) = true) (hlevel : ¬ 2 ≤ level)
      (hexpression : fieldExpression none [] [] s = some (expression, s'))
      (hblank : ¬ expression.reverse.all isFieldBlank = true)
      (hconversion : afterConversion? (afterEquals s') = some ('\x7d' :: t))
      (hrest : FieldsIn raw level t es r) : FieldsIn raw level cs (expression.reverse :: es) r
  /-- A field with a format, which may hold fields again. -/
  | formatted {level : Nat} {cs literal s expression s' u t r : List Char}
      {inner es : List (List Char)}
      (hliteral : literalPart (level == 0) raw false [] cs = some (literal, '\x7b' :: s))
      (hescapes : (raw || escapesOk literal.reverse) = true) (hlevel : ¬ 2 ≤ level)
      (hexpression : fieldExpression none [] [] s = some (expression, s'))
      (hblank : ¬ expression.reverse.all isFieldBlank = true)
      (hconversion : afterConversion? (afterEquals s') = some (':' :: u))
      (hformat : FieldsIn raw (level + 1) u inner ('\x7d' :: t))
      (hrest : FieldsIn raw level t es r) :
      FieldsIn raw level cs (expression.reverse :: (inner ++ es)) r

theorem fieldsIn_of_fieldsWithin {raw : Bool} {fuel level : Nat} {cs r : List Char}
    {es : List (List Char)} (h : fieldsWithin raw fuel level cs = some (es, r)) :
    FieldsIn raw level cs es r := by
  induction fuel generalizing level cs es r with
  | zero => cases h
  | succ fuel ih =>
    rw [fieldsWithin] at h
    simp only [Option.bind_eq_bind, Option.bind_eq_some_iff] at h
    obtain ⟨⟨literal, s⟩, hliteral, h⟩ := h
    dsimp only at h
    split at h
    · next hescapes =>
      split at h
      · next s =>
        split at h
        · cases h
        next hlevel =>
        simp only [Option.bind_eq_some_iff] at h
        obtain ⟨⟨expression, s'⟩, hexpression, h⟩ := h
        dsimp only at h
        split at h
        · cases h
        next hblank =>
        simp only [Option.bind_eq_some_iff] at h
        obtain ⟨u, hconversion, h⟩ := h
        split at h
        · next u =>
          obtain ⟨⟨inner, v⟩, hformat, h⟩ := Option.bind_eq_some_iff.1 h
          dsimp only at h
          split at h
          · next t =>
            obtain ⟨⟨more, r'⟩, hrest, h⟩ := Option.bind_eq_some_iff.1 h
            cases h
            exact .formatted hliteral hescapes hlevel hexpression hblank hconversion (ih hformat)
              (ih hrest)
          · cases h
        · simp only [Option.bind_some] at h
          split at h
          · next t =>
            obtain ⟨⟨more, r'⟩, hrest, h⟩ := Option.bind_eq_some_iff.1 h
            cases h
            exact .plain hliteral hescapes hlevel hexpression hblank hconversion (ih hrest)
          · cases h
      · next hopen =>
        cases h
        exact .none hliteral hescapes fun s hs ↦ hopen s hs
    · cases h

/-- What is left of a text behind fields is no more than there was. -/
theorem FieldsIn.length_le {raw : Bool} {level : Nat} {cs r : List Char} {es : List (List Char)}
    (h : FieldsIn raw level cs es r) : r.length ≤ cs.length := by
  induction h with
  | none hliteral => exact length_literalPart hliteral
  | plain hliteral _ _ hexpression _ hconversion _ ih =>
    have hfield := length_field hliteral hexpression hconversion
    simp only [List.length_cons] at hfield
    omega
  | formatted hliteral _ _ hexpression _ hconversion _ _ ihformat ih =>
    have hfield := length_field hliteral hexpression hconversion
    simp only [List.length_cons] at hfield ihformat
    omega

/-- **Enough fuel** finds the fields there are. -/
theorem FieldsIn.fieldsWithin_eq {raw : Bool} {level : Nat} {cs r : List Char}
    {es : List (List Char)} (h : FieldsIn raw level cs es r) {fuel : Nat}
    (hfuel : cs.length < fuel) : fieldsWithin raw fuel level cs = some (es, r) := by
  induction h generalizing fuel with
  | none hliteral hescapes hr =>
    obtain ⟨fuel, rfl⟩ := Nat.exists_eq_succ_of_ne_zero (Nat.ne_zero_of_lt hfuel)
    rw [fieldsWithin, hliteral]
    simp only [Option.bind_eq_bind, Option.bind_some, hescapes, if_true]
  | plain hliteral hescapes hlevel hexpression hblank hconversion _ ih =>
    obtain ⟨fuel, rfl⟩ := Nat.exists_eq_succ_of_ne_zero (Nat.ne_zero_of_lt hfuel)
    have hfield := length_field hliteral hexpression hconversion
    simp only [List.length_cons] at hfield
    rw [fieldsWithin, hliteral]
    simp only [Option.bind_eq_bind, Option.bind_some, hescapes, if_true, hexpression, hconversion]
    rw [if_neg hlevel, if_neg hblank]
    exact congrArg (Option.bind · _) (ih (by omega : _ < fuel))
  | formatted hliteral hescapes hlevel hexpression hblank hconversion hformat _ ihformat ih =>
    obtain ⟨fuel, rfl⟩ := Nat.exists_eq_succ_of_ne_zero (Nat.ne_zero_of_lt hfuel)
    have hfield := length_field hliteral hexpression hconversion
    have hinner := hformat.length_le
    simp only [List.length_cons] at hfield hinner
    rw [fieldsWithin, hliteral]
    simp only [Option.bind_eq_bind, Option.bind_some, hescapes, if_true, hexpression, hconversion]
    rw [if_neg hlevel, if_neg hblank]
    simp only [Option.bind_some, ihformat (by omega : _ < fuel), ih (by omega : _ < fuel)]

end Source
end TexWeave
