import TexWeave.Text.Blank
import TexWeave.Text.Case

/-!
# Emoji codes

On the console a name between colons stands for an emoji.  A name that is not known, or that has a
blank in it, stays as it is with both of its colons.  Which names are known is up to the console.
-/

set_option autoImplicit false

namespace TexWeave
namespace Console

/-- Emoji by their names. -/
abbrev EmojiTable := List (String × String)

/-- Some emoji that consoles know by name. -/
def commonEmoji : EmojiTable :=
  [("a", "🅰"), ("ab", "🆎"), ("b", "🅱"), ("bug", "🐛"),
    ("fire", "🔥"), ("heart", "\u2764"), ("key", "🔑"), ("m", "\u24C2"),
    ("o", "\u2B55"), ("o2", "🅾"), ("ok", "🆗"), ("smile", "😄"),
    ("star", "\u2B50"), ("v", "\u270C"), ("warning", "\u26A0"), ("x", "\u274C")]

/-- A name without a wish for one of two forms, and the mark of that form. -/
def splitForm (name : List Char) : List Char × List Char :=
  if "-emoji".toList.isSuffixOf name then (name.take (name.length - 6), ['\uFE0F'])
  else if "-text".toList.isSuffixOf name then (name.take (name.length - 5), ['\uFE0E'])
  else (name, [])

/-- What a name between colons stands for. -/
def emojiOf? (emoji : EmojiTable) (name : List Char) : Option (List Char) :=
  let (base, form) := splitForm name
  (emoji.find? fun e ↦ e.1.toList == Text.lower base).map fun e ↦ e.2.toList ++ form

/-- A text with emoji for their names, in as many steps as given. -/
def emojiWithin (emoji : EmojiTable) : Nat → List Char → List Char
  | 0, _ => []
  | _, [] => []
  | fuel + 1, ':' :: r =>
    let name := r.takeWhile fun c ↦ c != ':' && !Text.isBlank c
    match r.drop name.length with
    | ':' :: rest =>
      ((emojiOf? emoji name).getD (':' :: name ++ [':'])) ++ emojiWithin emoji fuel rest
    | _ => ':' :: emojiWithin emoji fuel r
  | fuel + 1, c :: r => c :: emojiWithin emoji fuel r

/-- A text with emoji for their names. -/
def replaceEmoji (emoji : EmojiTable) (cs : List Char) : List Char :=
  emojiWithin emoji cs.length cs

end Console
end TexWeave
