import TexWeave.Failure
import TexWeave.Text.Lines
import TexWeave.Text.Word

/-!
# Checking untyped data

A check turns a value into something typed or lists everything wrong with it.  Checks of the fields
of a record are put together with `<*>`, which keeps the faults of both sides in order, so that one
check of a record reports all of its faults at once.

* `Checked` — the outcome of a check.
* `Check` — a check; `Check.at` says where in the data it is made.
* `Check.string`, `Check.flag`, `Check.integer`, `Check.choice` — the scalars, and what they accept.
* `Check.list`, `required`, `withDefault` — lists and the fields of records.
-/

set_option autoImplicit false

namespace TexWeave

/-- The outcome of a check. -/
inductive Checked (α : Type)
  | valid (a : α)
  | faulty (issues : List Issue)
  deriving Inhabited

namespace Checked

/-- A fault at the place of the check itself. -/
def fault {α : Type} (sort message : String) : Checked α := .faulty [⟨sort, [], message⟩]

/-- The outcome with its result changed. -/
def map {α β : Type} (f : α → β) : Checked α → Checked β
  | .valid a => .valid (f a)
  | .faulty is => .faulty is

/-- Two outcomes together; the faults of the first come first. -/
def both {α β : Type} (f : Checked (α → β)) (x : Unit → Checked α) : Checked β :=
  match f, x () with
  | .valid f, .valid a => .valid (f a)
  | .valid _, .faulty is => .faulty is
  | .faulty is, .valid _ => .faulty is
  | .faulty is, .faulty js => .faulty (is ++ js)

instance : Applicative Checked where
  map := map
  pure := .valid
  seq := both

/-- The outcome of a check made one step further down. -/
def within {α : Type} (step : Step) : Checked α → Checked α
  | .valid a => .valid a
  | .faulty is => .faulty (is.map fun i ↦ { i with path := step :: i.path })

/-- The outcome as a result or a failure. -/
def toExcept {α : Type} : Checked α → Except Failure α
  | .valid a => .ok a
  | .faulty is => .error (.invalid is)

end Checked

/-- A check. -/
abbrev Check (α : Type) := Value → Checked α

namespace Check

/-! ## Scalars -/

/-- A text; nothing else counts as one. -/
def string : Check String
  | .str s => .valid s
  | _ => .fault "string_type" "Input should be a valid string"

/-- The words that mean no and yes. -/
def flagWords : List (String × Bool) :=
  [("0", false), ("off", false), ("f", false), ("false", false), ("n", false), ("no", false),
    ("1", true), ("on", true), ("t", true), ("true", true), ("y", true), ("yes", true)]

/-- A value that could have been a flag and is none. -/
def flagUnclear : Checked Bool :=
  .fault "bool_parsing" "Input should be a valid boolean, unable to interpret input"

/-- A value that cannot be a flag. -/
def flagOther : Checked Bool := .fault "bool_type" "Input should be a valid boolean"

/-- Numbers with a point that stand for integers are below this in size. -/
def wordLimit : Nat := 9223372036854775808

/-- A flag as a number. -/
def flagOfInt (n : Int) : Checked Bool :=
  if n = 0 then .valid false else if n = 1 then .valid true else flagUnclear

/-- A flag: yes or no, zero or one, or one of the words for them in any case. -/
def flag : Check Bool
  | .bool b => .valid b
  | .int n => flagOfInt n
  | .float x =>
    match x.toInt? with
    | some n => if n.natAbs < wordLimit then flagOfInt n else flagOther
    | none => flagOther
  | .str s =>
    match flagWords.find? fun w ↦ w.1.toList == Text.asciiLower s.toList with
    | some w => .valid w.2
    | none => flagUnclear
  | _ => flagOther

/-- Whether digits are well separated: no low line opens or ends them or follows another. -/
def wellSeparated : List Char → Bool
  | [] => false
  | [c] => Text.isAsciiDigit c
  | '_' :: _ => false
  | c :: '_' :: r => Text.isAsciiDigit c && wellSeparated r
  | c :: r => Text.isAsciiDigit c && wellSeparated r

/-- The digits of a number without the zeros of an empty fraction; none if the fraction counts. -/
def withoutFraction (cs : List Char) : Option (List Char) :=
  match cs.dropWhile (· != '.') with
  | [] => some cs
  | _ :: fraction => if fraction.all (· == '0') then some (cs.takeWhile (· != '.')) else none

/-- The integer a text spells: blanks around it, a sign, digits with single low lines between them,
and an empty fraction. -/
def integerOfText? (s : String) : Option Int :=
  let cs := Text.trim s.toList
  let (negative, digits) := match cs with
    | '-' :: r => (true, r)
    | '+' :: r => (false, r)
    | r => (false, r)
  (withoutFraction digits).bind fun ds ↦
    if wellSeparated ds then
      let n : Int := Text.digitsValue (ds.filter (· != '_'))
      some (if negative then -n else n)
    else none

/-- The most characters of a text that is read as an integer. -/
def integerLimit : Nat := 4300

/-- An integer of too many digits. -/
def integerTooLong : Checked Int :=
  .fault "int_parsing_size" "Unable to parse input string as an integer, exceeded maximum size"

/-- An integer, or something that stands for one without loss. -/
def integer : Check Int
  | .bool b => .valid (if b then 1 else 0)
  | .int n => .valid n
  | .float x =>
    match x.toInt? with
    | some n => if n.natAbs < wordLimit then .valid n else integerTooLong
    | none =>
      if x.isFinite then
        .fault "int_from_float"
          "Input should be a valid integer, got a number with a fractional part"
      else .fault "finite_number" "Input should be a finite number"
  | .str s =>
    if integerLimit < (Text.trim s.toList).length then
      integerTooLong
    else match integerOfText? s with
      | some n => .valid n
      | none =>
        .fault "int_parsing"
          "Input should be a valid integer, unable to parse string as an integer"
  | _ => .fault "int_type" "Input should be a valid integer"

/-- Names in single quotes, the last two with "or" between them. -/
def oneOf : List String → String
  | [] => ""
  | [a] => "'" ++ a ++ "'"
  | [a, b] => "'" ++ a ++ "' or '" ++ b ++ "'"
  | a :: b :: r => "'" ++ a ++ "', " ++ oneOf (b :: r)

/-- One of a closed list of names. -/
def choice {α : Type} (all : List α) (name : α → String) : Check α := fun v ↦
  let found := match v with
    | .str s => all.find? fun a ↦ name a == s
    | _ => none
  match found with
  | some a => .valid a
  | none => .fault "enum" ("Input should be " ++ oneOf (all.map name))

/-- A text that can only be the one given. -/
def literal (expected : String) : Check Unit
  | .str s =>
    if s == expected then .valid ()
    else .fault "literal_error" ("Input should be '" ++ expected ++ "'")
  | _ => .fault "literal_error" ("Input should be '" ++ expected ++ "'")

/-- What a check accepts, or nothing. -/
def orNull {α : Type} (c : Check α) : Check (Option α)
  | .null => .valid none
  | v => (c v).map some

/-! ## Lists and records -/

/-- Members checked one by one, the first of them at place `n`. -/
def members {α : Type} (c : Check α) (n : Nat) : List Value → Checked (List α)
  | [] => .valid []
  | v :: r => List.cons <$> (c v).within (.index n) <*> members c (n + 1) r

/-- A list of what a check accepts. -/
def list {α : Type} (c : Check α) : Check (List α)
  | .list vs => members c 0 vs
  | _ => .fault "list_type" "Input should be a valid list"

/-- A record of fields that a check accepts. -/
def record {α : Type} (model : String) (c : Check α) : Check α
  | .map fields => c (.map fields)
  | _ => .fault "model_type" ("Input should be a valid dictionary or instance of " ++ model)

/-- The field of a record that has to be there. -/
def required {α : Type} (name : String) (c : Check α) : Check α := fun v ↦
  match v.field? name with
  | some w => (c w).within (.field name)
  | none => .faulty [⟨"missing", [.field name], "Field required"⟩]

/-- The field of a record, or what it counts as when it is not there. -/
def withDefault {α : Type} (name : String) (default : α) (c : Check α) : Check α := fun v ↦
  match v.field? name with
  | some w => (c w).within (.field name)
  | none => .valid default

end Check

end TexWeave
