import TexWeave.Proofs.Fields
import TexWeave.Proofs.Scanning

/-!
# How much fuel a token needs

A token other than a string with fields is scanned at once.  The expressions in the fields of a
string are scanned in turn, and with the braces around them they take no more room than the text of
the string.  So there is always more fuel than characters can use up.

* `length_closeString`, `room_fieldExpressions` — the room that a string and its expressions take.
* `same_of_enough` — two amounts of fuel that are enough make no difference to a token.
-/

set_option autoImplicit false

namespace TexWeave
namespace Source

/-! ## The room that parts of a string take -/

section

variable {q : Char} {acc r body rest : List Char}

theorem length_closeShort (h : closeShort q acc r = some (body, rest)) :
    body.length + rest.length < acc.length + r.length := by
  fun_induction closeShort q acc r with
  | case1 => cases h
  | case2 acc c r ih =>
    have hlength := ih h
    simp only [List.length_cons] at hlength ⊢
    omega
  | case3 =>
    cases h
    simp
  | case4 => cases h
  | case5 acc c r _ _ _ ih =>
    have hlength := ih h
    simp only [List.length_cons] at hlength ⊢
    omega

theorem length_closeLong (h : closeLong q acc r = some (body, rest)) :
    body.length + rest.length < acc.length + r.length := by
  fun_induction closeLong q acc r with
  | case1 => cases h
  | case2 acc c r ih =>
    have hlength := ih h
    simp only [List.length_cons] at hlength ⊢
    omega
  | case3 =>
    cases h
    simp only [List.length_cons, List.length_drop]
    omega
  | case4 acc c r _ _ ih =>
    have hlength := ih h
    simp only [List.length_cons] at hlength ⊢
    omega

/-- A string is longer than its text. -/
theorem length_closeString (h : closeString q r = some (body, rest)) :
    body.length + rest.length < r.length := by
  rw [closeString] at h
  obtain ⟨⟨acc, rest'⟩, hfound, hbody⟩ := Option.map_eq_some_iff.1 h
  obtain ⟨rfl, rfl⟩ := Prod.mk.inj hbody
  rw [List.length_reverse]
  dsimp only
  split at hfound
  · have hlength := length_closeLong hfound
    rw [List.length_nil, List.length_drop] at hlength
    omega
  · have hlength := length_closeShort hfound
    rwa [List.length_nil, Nat.zero_add] at hlength

end

/-- The room that expressions take with the braces around them. -/
def room : List (List Char) → Nat
  | [] => 0
  | e :: es => e.length + 2 + room es

theorem room_append (es es' : List (List Char)) : room (es ++ es') = room es + room es' := by
  induction es with
  | nil => rw [List.nil_append, room, Nat.zero_add]
  | cons e es ih => rw [List.cons_append, room, room, ih, ← Nat.add_assoc]

theorem FieldsIn.room_le {raw : Bool} {level : Nat} {cs r : List Char} {es : List (List Char)}
    (h : FieldsIn raw level cs es r) : room es + r.length ≤ cs.length := by
  induction h with
  | none hliteral =>
    rw [room, Nat.zero_add]
    exact length_literalPart hliteral
  | plain hliteral _ _ hexpression _ hconversion _ ih =>
    have hfield := length_field hliteral hexpression hconversion
    rw [room, List.length_reverse]
    simp only [List.length_cons] at hfield
    omega
  | formatted hliteral _ _ hexpression _ hconversion _ _ ihformat ih =>
    have hfield := length_field hliteral hexpression hconversion
    rw [room, room_append, List.length_reverse]
    simp only [List.length_cons] at hfield ihformat
    omega

/-- **The expressions in the fields of a string**, with braces, take no more room than its text. -/
theorem room_fieldExpressions {raw : Bool} {cs : List Char} {es : List (List Char)}
    (h : fieldExpressions raw cs = some es) : room es ≤ cs.length := by
  rw [fieldExpressions] at h
  split at h
  · next hwithin =>
    cases h
    exact (fieldsIn_of_fieldsWithin hwithin).room_le
  · cases h

/-! ## Enough fuel -/

namespace Scanner

/-- **Two amounts of fuel that are enough** make no difference to a token and to what it holds. -/
theorem same_of_enough (n m : Nat) :
    (∀ s : Scanner, 2 * s.rest.length + 4 ≤ n → 2 * s.rest.length + 4 ≤ m →
        token n s = token m s)
      ∧ (∀ sort opening q r, ∀ s : Scanner, 2 * r.length + 5 ≤ n → 2 * r.length + 5 ≤ m →
        string n sort opening q r s = string m sort opening q r s)
      ∧ (∀ line es, 2 * room es + 6 ≤ n → 2 * room es + 6 ≤ m →
        fields n line es = fields m line es)
      ∧ ∀ s : Scanner, 2 * s.rest.length + 5 ≤ n → 2 * s.rest.length + 5 ≤ m →
        inside n s = inside m s := by
  induction n generalizing m with
  | zero => exact ⟨by omega, by omega, by omega, by omega⟩
  | succ n ih =>
    cases m with
    | zero => exact ⟨by omega, by omega, by omega, by omega⟩
    | succ m =>
      obtain ⟨htoken, hstring, hfields, hinside⟩ := ih m
      refine ⟨fun s hn hm ↦ ?_, fun sort opening q r s hn hm ↦ ?_, fun line es hn hm ↦ ?_,
        fun s hn hm ↦ ?_⟩
      · rw [token, token]
        cases hrest : s.rest with
        | nil => rfl
        | cons c r =>
          rw [hrest, List.length_cons] at hn hm
          have hlength (w : List Char) {q : Char} {t : List Char}
              (h : (c :: r).drop w.length = q :: t) : t.length ≤ r.length := by
            have hdrop := congrArg List.length h
            rw [List.length_drop, List.length_cons, List.length_cons] at hdrop
            omega
          dsimp only
          split_ifs
          · rfl
          · rfl
          · rfl
          · rfl
          · cases hdrop : (c :: r).drop ((c :: r).takeWhile isWordLike).length with
            | nil => rfl
            | cons q t =>
              have ht := hlength _ hdrop
              dsimp only
              split_ifs
              · cases StringSort.ofLetters? ((c :: r).takeWhile isWordLike) with
                | none => rfl
                | some sort => exact hstring sort _ q t s (by omega) (by omega)
              · rfl
          · exact hstring {} [c] c r s (by omega) (by omega)
          · rfl
          · rfl
          · rfl
      · rw [string, string]
        cases hclose : closeString q r with
        | none => rfl
        | some split =>
          obtain ⟨body, rest⟩ := split
          have hlength := length_closeString hclose
          dsimp only [Option.bind_some]
          split_ifs
          · rfl
          · rfl
          · cases hexpressions : fieldExpressions sort.raw body with
            | none => rfl
            | some es =>
              have hroom := room_fieldExpressions hexpressions
              dsimp only [Option.bind_eq_bind, Option.bind_some]
              rw [hfields s.line es (by omega) (by omega)]
          · rfl
          · rfl
      · cases es with
        | nil => rfl
        | cons e es =>
          have hroom : room (e :: es) = e.length + 2 + room es := rfl
          rw [fields, fields, hinside _ (by simp; omega) (by simp; omega),
            hfields line es (by omega) (by omega)]
      · rw [inside, inside]
        split
        · rfl
        · rw [htoken s (by omega) (by omega)]
          cases ht : token m s with
          | none => rfl
          | some t =>
            obtain ⟨new, hstep⟩ := exists_step_of_token ht
            obtain ⟨used, hne, hrest, -⟩ := hstep.text
            have hpos := List.length_pos_iff.2 hne
            have hlength : s.rest.length = used.length + t.rest.length := by
              rw [hrest, List.length_append]
            exact hinside { t with atLineStart := false } (by dsimp only; omega)
              (by dsimp only; omega)

end Scanner
end Source
end TexWeave
