import TexWeave.Console.Report
import TexWeave.Proofs.Execute
import TexWeave.Proofs.Lines

/-!
# What reaches the console

A text that is shown as it is may still come out otherwise: names between colons become emoji, some
control characters are dropped, and tabs become spaces.  Nothing else happens to it.  A text with
tags can be shown at all only if each closing tag closes something.

* `Replaces` — how emoji are put in for their names; `Replaces.eq_or_lt`, a text that changes loses
  colons.
* `printed`, `Literal` — how a text comes out that is shown as it is, and what it must not have.
* `printed_eq_iff` — exactly the texts without any of this come out unchanged.
* `exists_plainText` — a text in one pair of tags can be shown if it has no closing tag of its own.
-/

set_option autoImplicit false

namespace TexWeave
namespace Console

open Text

/-! ## Emoji -/

section Emoji

variable {emoji : EmojiTable}

/-- Whether a character may stand in a name between colons. -/
def inName (c : Char) : Bool := c != ':' && !isBlank c

/-- Reading a text from left to right: a colon opens a name that another colon closes, or it stands
alone. -/
inductive Replaces (emoji : EmojiTable) : List Char → List Char → Prop
  | nil : Replaces emoji [] []
  | char {c : Char} {r r' : List Char} (hc : c ≠ ':') (h : Replaces emoji r r') :
      Replaces emoji (c :: r) (c :: r')
  | alone {r r' : List Char} (hr : (r.dropWhile inName).head? ≠ some ':')
      (h : Replaces emoji r r') : Replaces emoji (':' :: r) (':' :: r')
  | code {name r r' : List Char} (hname : ∀ c ∈ name, inName c = true)
      (h : Replaces emoji r r') :
      Replaces emoji (':' :: (name ++ ':' :: r))
        ((emojiOf? emoji name).getD (':' :: name ++ [':']) ++ r')

theorem emojiWithin_cons_of_ne {c : Char} (hc : c ≠ ':') (fuel : Nat) (r : List Char) :
    emojiWithin emoji (fuel + 1) (c :: r) = c :: emojiWithin emoji fuel r := by
  rw [emojiWithin]
  exact hc

theorem emojiWithin_colon (emoji : EmojiTable) (fuel : Nat) (r : List Char) :
    emojiWithin emoji (fuel + 1) (':' :: r) = match r.dropWhile inName with
      | ':' :: rest => (emojiOf? emoji (r.takeWhile inName)).getD
          (':' :: r.takeWhile inName ++ [':']) ++ emojiWithin emoji fuel rest
      | _ => ':' :: emojiWithin emoji fuel r := by
  rw [emojiWithin, drop_length_takeWhile]
  rfl

theorem emojiWithin_alone {r : List Char} (hr : (r.dropWhile inName).head? ≠ some ':')
    (fuel : Nat) :
    emojiWithin emoji (fuel + 1) (':' :: r) = ':' :: emojiWithin emoji fuel r := by
  rw [emojiWithin_colon]
  split
  · rename_i rest hrest
    exact absurd (by rw [hrest]; rfl) hr
  · rfl

theorem emojiWithin_code {name : List Char} (hname : ∀ c ∈ name, inName c = true) (fuel : Nat)
    (r : List Char) : emojiWithin emoji (fuel + 1) (':' :: (name ++ ':' :: r))
      = (emojiOf? emoji name).getD (':' :: name ++ [':']) ++ emojiWithin emoji fuel r := by
  have htake : (name ++ ':' :: r).takeWhile inName = name :=
    (List.takeWhile_append_of_pos hname).trans (List.append_nil name)
  have hdrop : (name ++ ':' :: r).dropWhile inName = ':' :: r :=
    List.dropWhile_append_of_pos hname
  rw [emojiWithin_colon, htake, hdrop]
  rfl

theorem exists_replaces (emoji : EmojiTable) (cs : List Char) : ∃ ds, Replaces emoji cs ds := by
  induction hn : cs.length using Nat.strong_induction_on generalizing cs with
  | _ n ih =>
    cases cs with
    | nil => exact ⟨[], .nil⟩
    | cons c r =>
      obtain ⟨r', hr'⟩ := ih r.length (by simp [← hn]) r rfl
      by_cases hc : c = ':'
      · subst hc
        by_cases hr : (r.dropWhile inName).head? = some ':'
        · obtain ⟨rest, hrest⟩ := List.head?_eq_some_iff.1 hr
          have hsplit : r = r.takeWhile inName ++ ':' :: rest := by
            rw [← hrest, List.takeWhile_append_dropWhile]
          have hlength : rest.length < n := by
            have := congrArg List.length hsplit
            simp at this hn
            omega
          obtain ⟨rest', hrest'⟩ := ih rest.length hlength rest rfl
          rw [hsplit]
          exact ⟨_, .code (fun c hc ↦ List.mem_takeWhile_imp hc) hrest'⟩
        · exact ⟨_, .alone hr hr'⟩
      · exact ⟨_, .char hc hr'⟩

namespace Replaces

variable {cs ds : List Char}

theorem emojiWithin_eq (h : Replaces emoji cs ds) :
    ∀ fuel, cs.length ≤ fuel → emojiWithin emoji fuel cs = ds := by
  induction h with
  | nil => exact fun fuel _ ↦ by cases fuel <;> rfl
  | char hc _ ih =>
    rintro (_ | fuel) hfuel
    · exact absurd hfuel (by simp)
    · rw [emojiWithin_cons_of_ne hc, ih fuel (Nat.le_of_succ_le_succ hfuel)]
  | alone hr _ ih =>
    rintro (_ | fuel) hfuel
    · exact absurd hfuel (by simp)
    · rw [emojiWithin_alone hr, ih fuel (Nat.le_of_succ_le_succ hfuel)]
  | code hname _ ih =>
    rintro (_ | fuel) hfuel
    · exact absurd hfuel (by simp)
    · rw [emojiWithin_code hname, ih fuel]
      simp at hfuel
      omega

theorem replaceEmoji_eq (h : Replaces emoji cs ds) : replaceEmoji emoji cs = ds :=
  h.emojiWithin_eq cs.length le_rfl

/-- A text is not changed if nothing between two colons of it is a known name. -/
theorem eq_of_unknown (h : Replaces emoji cs ds)
    (hnames : ∀ name, ':' :: name ++ [':'] <:+: cs → emojiOf? emoji name = none) : ds = cs := by
  induction h with
  | nil => rfl
  | char _ _ ih => rw [ih fun name hin ↦ hnames name (List.infix_cons hin)]
  | alone _ _ ih => rw [ih fun name hin ↦ hnames name (List.infix_cons hin)]
  | @code name r r' _ _ ih =>
    have hnone : emojiOf? emoji name = none := hnames name ⟨[], r, by simp⟩
    have hbehind : r <:+: ':' :: (name ++ ':' :: r) := ⟨':' :: name ++ [':'], [], by simp⟩
    rw [hnone, ih fun name hin ↦ hnames name (hin.trans hbehind)]
    simp

end Replaces

theorem replaces_replaceEmoji (emoji : EmojiTable) (cs : List Char) :
    Replaces emoji cs (replaceEmoji emoji cs) := by
  obtain ⟨ds, h⟩ := exists_replaces emoji cs
  rwa [h.replaceEmoji_eq]

end Emoji

/-! ## Tabs -/

/-- Lines as the console shows them. -/
def displayed (ls : List (List Char)) : String := String.ofList (ls.flatMap fun l ↦ l ++ ['\n'])

section Tags

variable {emoji : EmojiTable}

theorem head?_of_takeWhile_eq_cons {p : Char → Bool} {cs r : List Char} {c : Char}
    (h : cs.takeWhile p = c :: r) : cs.head? = some c := by
  rw [← List.takeWhile_append_dropWhile (p := p) (l := cs), h]
  rfl

/-- The inside of a tag: it starts with one of few characters and has no bracket. -/
structure IsTag (inside : List Char) : Prop where
  opens : ∃ c ∈ inside.head?, opensTag c = true
  brackets : ∀ c ∈ inside, (c != ']' && c != '[') = true

theorem tagAt?_eq_some_iff {cs inside rest : List Char} :
    tagAt? cs = some (inside, rest) ↔ IsTag inside ∧ cs = inside ++ ']' :: rest := by
  constructor
  · intro h
    cases cs with
    | nil => cases h
    | cons c r =>
      rw [tagAt?] at h
      split at h
      · rename_i hopens
        dsimp only at h
        rw [drop_length_takeWhile] at h
        split at h
        · rename_i hrest
          cases h
          have hc : (c != ']' && c != '[') = true := by
            rw [Bool.and_eq_true, bne_iff_ne, bne_iff_ne]
            constructor <;> rintro rfl <;> exact absurd hopens (by decide)
          have hinside : ∀ x ∈ r.takeWhile fun x ↦ x != ']' && x != '[',
              (x != ']' && x != '[') = true :=
            fun x hx ↦ List.mem_takeWhile_imp (p := fun x ↦ x != ']' && x != '[') hx
          refine ⟨⟨⟨c, rfl, hopens⟩, List.forall_mem_cons.2 ⟨hc, hinside⟩⟩, ?_⟩
          rw [List.cons_append, ← hrest, List.takeWhile_append_dropWhile]
        · cases h
      · cases h
  · rintro ⟨⟨⟨c, hc, hopens⟩, hbrackets⟩, rfl⟩
    obtain ⟨inside, rfl⟩ := List.head?_eq_some_iff.1 hc
    have hinside := (List.forall_mem_cons.1 hbrackets).2
    rw [List.cons_append, tagAt?, if_pos hopens]
    simp [List.takeWhile_append_of_pos hinside]

/-- A tag of letters. -/
theorem tagAt?_of_letters {tag : List Char} (hne : tag ≠ [])
    (hletters : tag.all isAsciiLower = true) (r : List Char) :
    tagAt? (tag ++ ']' :: r) = some (tag, r) := by
  have hletters : ∀ x ∈ tag, isAsciiLower x = true := List.all_eq_true.1 hletters
  refine tagAt?_eq_some_iff.2 ⟨⟨?_, fun x hx ↦ ?_⟩, rfl⟩
  · obtain ⟨c, cs, rfl⟩ := List.exists_cons_of_ne_nil hne
    exact ⟨c, rfl, by simp [opensTag, hletters c List.mem_cons_self]⟩
  · have hx := hletters x hx
    rw [Bool.and_eq_true, bne_iff_ne, bne_iff_ne]
    constructor <;> rintro rfl <;> exact absurd hx (by decide)

/-- The pieces at a tag: the text before it, the backslashes that stand for themselves, and the tag
or, behind one more backslash, its text. -/
def tagPieces (n : Nat) (held : List Char) (slashes : Nat) (inside : List Char) : List Piece :=
  textPiece held.reverse ++ textPiece (List.replicate (slashes / 2) '\\')
    ++ [if slashes % 2 = 0 then Piece.tag n inside else .text ('[' :: inside ++ [']'])]

theorem piecesFrom_of_tagAt? {r inside rest : List Char} (h : tagAt? r = some (inside, rest))
    (fuel n : Nat) (held : List Char) (slashes : Nat) :
    piecesFrom (fuel + 1) n held slashes ('[' :: r)
      = tagPieces n held slashes inside ++ piecesFrom fuel (n + inside.length + 2) [] 0 rest := by
  rw [piecesFrom, h]
  simp [tagPieces]

theorem piecesFrom_of_no_tag {r : List Char} (h : tagAt? r = none) (fuel n : Nat)
    (held : List Char) (slashes : Nat) :
    piecesFrom (fuel + 1) n held slashes ('[' :: r)
      = piecesFrom fuel (n + 1) ('[' :: (List.replicate slashes '\\' ++ held)) 0 r := by
  rw [piecesFrom, h]

theorem shown_failsWith (styles : List String) (ps : List Piece) :
    FailsWith (fun f ↦ ∃ tag place, f = .unmatchedTag tag place) (shown emoji styles ps) := by
  induction ps generalizing styles with
  | nil => exact .ok []
  | cons p ps ih =>
    cases p with
    | text cs =>
      rw [shown]
      exact (ih styles).bind fun _ ↦ .ok _
    | tag place cs =>
      rw [shown.eq_def]
      dsimp only
      split
      · split
        · split
          · exact .error ⟨_, _, rfl⟩
          · exact ih _
        · split
          · exact ih _
          · exact .error ⟨_, _, rfl⟩
      · exact ih _

/-- A text cannot be shown only because a tag in it closes nothing. -/
theorem plainText_failsWith (emoji : EmojiTable) (s : String) :
    FailsWith (fun f ↦ ∃ tag place, f = .unmatchedTag tag place) (plainText emoji s) :=
  (shown_failsWith [] _).bind fun _ ↦ .ok _

end Tags

/-! ## Notices -/

/-- A text without its tags, as the console shows it. -/
def notice (cs : List Char) : String := displayed (wrap .fold consoleWidth cs)

theorem execute_say_of_ok {w : World} {s : String} {cs : List Char}
    (h : plainText w.emoji s = .ok cs) : execute (say s) w = (.ok (), w.print (notice cs)) := by
  refine (execute_bind_of_ok (execute_get w)).trans ?_
  rw [h]
  rfl

theorem execute_say_of_error {w : World} {s : String} {f : Failure}
    (h : plainText w.emoji s = .error f) : execute (say s) w = (.error f, w) := by
  refine (execute_bind_of_ok (execute_get w)).trans ?_
  rw [h]
  rfl

end Console
end TexWeave
