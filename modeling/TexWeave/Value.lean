import TexWeave.Number.Digits
import TexWeave.Text.Quoted

/-!
# Untyped data

What a settings file, a field of a request or a constant in a source file holds before it has been
checked: a tree of scalars, lists and records.

* `Value.written` — the text of a value as messages show it.
* `Value.plain` — the same, but a text is shown without quotes.
* `Value.holds` — whether a value counts as true.
-/

set_option autoImplicit false

namespace TexWeave

/-- Untyped data.  The fields of a record keep their order. -/
inductive Value
  | null
  | bool (b : Bool)
  | int (n : Int)
  | float (x : Binary64)
  | str (s : String)
  | date (text : String)
  | list (items : List Value)
  | map (fields : List (String × Value))
  deriving Inhabited

namespace Value

/-- The name of the sort of a value. -/
def sortName : Value → String
  | .null => "NoneType"
  | .bool _ => "bool"
  | .int _ => "int"
  | .float _ => "float"
  | .str _ => "str"
  | .date _ => "date"
  | .list _ => "list"
  | .map _ => "dict"

mutual

/-- The text of a value as messages show it. -/
def written : Value → String
  | .null => "None"
  | .bool true => "True"
  | .bool false => "False"
  | .int n => toString n
  | .float x => x.shortestText
  | .str s => Text.quoted s
  | .date t => t
  | .list items => "[" ++ writtenItems items ++ "]"
  | .map fields => "\x7b" ++ writtenFields fields ++ "\x7d"

/-- The members of a list, separated by commas. -/
def writtenItems : List Value → String
  | [] => ""
  | [v] => v.written
  | v :: w :: r => v.written ++ ", " ++ writtenItems (w :: r)

/-- The fields of a record, separated by commas. -/
def writtenFields : List (String × Value) → String
  | [] => ""
  | [(k, v)] => Text.quoted k ++ ": " ++ v.written
  | (k, v) :: f :: r => Text.quoted k ++ ": " ++ v.written ++ ", " ++ writtenFields (f :: r)

end

/-- The text of a value, a text itself without quotes. -/
def plain : Value → String
  | .str s => s
  | v => v.written

/-- Whether a value counts as true: it is neither null, nor zero, nor empty, nor false. -/
def holds : Value → Bool
  | .null => false
  | .bool b => b
  | .int n => n != 0
  | .float x => !x.isZero
  | .str s => !s.isEmpty
  | .date _ => true
  | .list items => !items.isEmpty
  | .map fields => !fields.isEmpty

/-- The fields of a record; none of any other value. -/
def fields : Value → List (String × Value)
  | .map fs => fs
  | _ => []

/-- Fields with one of them set: at its old place, or at the end if it is new. -/
def setField (name : String) (v : Value) : List (String × Value) → List (String × Value)
  | [] => [(name, v)]
  | f :: r => if f.1 == name then (name, v) :: r else f :: setField name v r

/-- The field of a record with the given name; nothing of any other value. -/
def field? (name : String) : Value → Option Value
  | .map fields => (fields.find? fun f ↦ f.1 == name).map (·.2)
  | _ => none

end Value

end TexWeave
