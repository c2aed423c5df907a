import TexWeave.Mode
import TexWeave.Text.Lines
import TexWeave.Text.Utf8
import TexWeave.Text.Word

/-!
# Logs of the engine

What the engine writes to its log is a text without a grammar; three kinds of message are picked out
of it.

* An error is a line that opens with an exclamation mark.  Its line number stands on a later line
  that opens with `l.`, if such a line follows closely enough.
* A warning is announced by the engine, a package or a class.
* References and citations the engine could not resolve are named in warnings of their own.

`findAll` walks through a text and collects what a pattern finds; the patterns say how many
characters they used, and the walk goes on behind them.
-/

set_option autoImplicit false

namespace TexWeave

open Text

/-- An error or a warning of the engine. -/
structure Message where
  /-- The line of the markup it belongs to, if that is known. -/
  line : Option Int := none
  message : String
  severity : Severity := .warning
  deriving DecidableEq, Repr, Inhabited

/-- What a log says. -/
structure LogReport where
  errors : List Message := []
  warnings : List Message := []
  /-- References and citations without a target, sorted. -/
  unresolved : List String := []
  deriving DecidableEq, Repr, Inhabited

/-! ## Walking through a text -/

/-- A pattern: given the character before and the text from here on, what it finds and how many
characters it uses. -/
abbrev Pattern (α : Type) := Option Char → List Char → Option (α × Nat)

/-- Everything a pattern finds after the first `skip` characters, from left to right and without
overlap. -/
def findAll {α : Type} (p : Pattern α) : Option Char → Nat → List Char → List α
  | _, _, [] => []
  | _, skip + 1, c :: r => findAll p (some c) skip r
  | before, 0, c :: r =>
    match p before (c :: r) with
    | some (a, used) => a :: findAll p (some c) (used - 1) r
    | none => findAll p (some c) 0 r

/-- Whether a place is the start of a line. -/
def atLineStart (before : Option Char) : Bool :=
  match before with
  | none => true
  | some c => c == '\n'

/-- What follows a text at the start of another. -/
def after? (start : String) (cs : List Char) : Option (List Char) :=
  if start.toList.isPrefixOf cs then some (cs.drop start.length) else none

/-- The text up to the next line feed. -/
def restOfLine (cs : List Char) : List Char := cs.takeWhile (· != '\n')

/-! ## Errors -/

/-- How far behind an error its line number is looked for. -/
def lineWindow : Nat := 500

/-- A line number at the start of a line: `l.` and digits. -/
def lineNumberPattern : Pattern Int := fun before cs ↦
  if atLineStart before then
    (after? "l." cs).bind fun r ↦
      let digits := r.takeWhile fun c ↦ (digitValue? c).isSome
      if digits.isEmpty then none else some (digitsValue digits, 2 + digits.length)
  else none

/-- The first line number in the window of a text. -/
def lineNumber? (cs : List Char) : Option Int :=
  (findAll lineNumberPattern none 0 (cs.take lineWindow)).head?

/-- An error: an exclamation mark at the start of a line, blanks, and the rest of the line that is
reached then. -/
def errorPattern : Pattern Message := fun before cs ↦
  match cs with
  | [] => none
  | c :: r =>
    if atLineStart before && c == '!' then
      let blanks := r.takeWhile isBlank
      let text := restOfLine (r.drop blanks.length)
      let used := 1 + blanks.length + text.length
      some (⟨lineNumber? (cs.drop used), String.ofList (trim text), .error⟩, used)
    else none

/-! ## Warnings -/

/-- Who may announce a warning. -/
def announcers : List String := ["LaTeX", "Package", "Class"]

/-- What follows the blanks at the start of a text; there has to be one. -/
def afterBlanks? (cs : List Char) : Option (List Char) :=
  match cs with
  | [] => none
  | c :: r => if isBlank c then some (r.dropWhile isBlank) else none

/-- What follows a word and blanks. -/
def afterWord? (cs : List Char) : Option (List Char) :=
  match cs with
  | [] => none
  | c :: r => if isWordChar c then afterBlanks? (r.dropWhile isWordChar) else none

/-- What follows the announcement of a warning: who warns, possibly a name, and the word itself. -/
def afterAnnouncement? (cs : List Char) : Option (List Char) :=
  (announcers.findSome? fun a ↦ after? a cs).bind fun r ↦
    (afterBlanks? r).bind fun r ↦
      ((afterWord? r).bind (after? "Warning")).or (after? "Warning" r)

/-- A warning: its announcement, colons and blanks, and the rest of the line. -/
def warningPattern : Pattern String := fun _ cs ↦
  (afterAnnouncement? cs).map fun r ↦
    let body := r.dropWhile fun c ↦ c == ':' || isBlank c
    let text := restOfLine body
    (String.ofList (trim text), cs.length - (body.length - text.length))

/-! ## Unresolved references -/

/-- A key named in a warning: what opens it, the key itself, and what closes it. -/
def keyPattern (start label : String) : Pattern String := fun _ cs ↦
  (after? start cs).bind fun r ↦
    let key := r.takeWhile (· != '\'')
    if key.isEmpty then none
    else (after? "' on page" (r.drop key.length)).map fun _ ↦
      (label ++ String.ofList key, start.length + key.length + 9)

/-- References without a target. -/
def referencePattern : Pattern String := keyPattern "LaTeX Warning: Reference \x60" "ref:"

/-- Citations without a target. -/
def citationPattern : Pattern String := keyPattern "LaTeX Warning: Citation \x60" "cite:"

/-- A text put at its place in a sorted list, unless it is there already. -/
def insertSorted (s : String) : List String → List String
  | [] => [s]
  | t :: r => if s < t then s :: t :: r else if s = t then t :: r else t :: insertSorted s r

/-- A list sorted by code points and without repetition. -/
def sortedDistinct (ss : List String) : List String := ss.foldr insertSorted []

/-! ## The whole log -/

/-- What a log says, given its characters. -/
def LogReport.ofChars (cs : List Char) : LogReport where
  errors := findAll errorPattern none 0 cs
  warnings := ((findAll warningPattern none 0 cs).filter fun m ↦ !m.isEmpty).map fun m ↦
    ⟨none, m, .warning⟩
  unresolved := sortedDistinct
    (findAll referencePattern none 0 cs ++ findAll citationPattern none 0 cs)

/-- What a log says; its line ends may be of any kind. -/
def LogReport.ofText (log : String) : LogReport := .ofChars (unifyNewlines log.toList)

/-- What a log says, given its bytes; those that are not UTF-8 count as replacement characters. -/
def LogReport.ofBytes (log : List UInt8) : LogReport := .ofText (decodeUtf8 log)

end TexWeave
