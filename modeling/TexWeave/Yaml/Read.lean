import TexWeave.Failure
import TexWeave.Yaml.Node
import TexWeave.Yaml.Plain
import TexWeave.Yaml.Scan

/-!
# Reading settings files

A tree becomes untyped data.  Its tags, or what its plain scalars look like, say what they are.  Of
pairs with the same key the last one counts, and the pairs a mapping takes over from others come
before its own.

* `Node.toValue?` — the data a tree stands for.
* `readSettings` — the data in the text of a file.
-/

set_option autoImplicit false

namespace TexWeave
namespace Yaml

/-- Every tag of the language starts so. -/
def tagStart : String := "tag:yaml.org,2002:"

/-- The short name of what a node is. -/
def Node.sort? : Node → Option String
  | .scalar (some tag) _ _ | .sequence (some tag) _ | .mapping (some tag) _ =>
    if tag.startsWith tagStart then some (String.ofList (tag.toList.drop tagStart.length)) else none
  | .scalar none false _ => some "str"
  | .scalar none true text => some (match plainSort text.toList with
    | .text => "str"
    | .null => "null"
    | .flag => "bool"
    | .integer => "int"
    | .real => "float"
    | .date => "timestamp"
    | .merge => "merge"
    | .default => "value")
  | .sequence none _ => some "seq"
  | .mapping none _ => some "map"

/-- What a scalar of a known sort stands for. -/
def scalarValue? (sort text : String) : Option Value :=
  match sort with
  | "null" => some .null
  | "bool" => (flagOf? text.toList).map .bool
  | "int" => (integerOf? text.toList).map .int
  | "float" => (realOf? text.toList).map .float
  | "timestamp" => if isDate text.toList then some (.date text) else none
  | "str" => some (.str text)
  | _ => none

/-- The text under which a key is kept; lists and records are no keys. -/
def keyText? : Value → Option String
  | .list _ => none
  | .map _ => none
  | v => some v.plain

mutual

/-- The pairs of a mapping with those it takes over, which come first. -/
def Node.allPairs : Nat → Node → Option (List (Node × Node))
  | fuel + 1, .mapping _ pairs => do
    let (merges, own) := pairs.partition fun p ↦ p.1.sort? == some "merge"
    let taken ← merges.mapM fun p ↦ Node.takenPairs fuel p.2
    return taken.flatten ++ own
  | _, _ => none

/-- The pairs that are taken over from a mapping or from several, the first of which counts most. -/
def Node.takenPairs : Nat → Node → Option (List (Node × Node))
  | fuel + 1, .sequence _ items => do
    return (← items.mapM (Node.allPairs fuel)).reverse.flatten
  | fuel + 1, n => Node.allPairs fuel n
  | 0, _ => none

end

mutual

/-- The data a tree stands for, when it is at most so deep. -/
def Node.value? : Nat → Node → Option Value
  | 0, _ => none
  | fuel + 1, n => do
    let sort ← n.sort?
    match n with
    | .scalar _ _ text => scalarValue? sort text
    | .sequence _ items =>
      if sort == "seq" then return .list (← items.mapM (Node.value? fuel))
      else if sort == "omap" || sort == "pairs" then
        return .list (← items.mapM fun
          | .mapping _ [(k, v)] => do return .list [← k.value? fuel, ← v.value? fuel]
          | _ => none)
      else none
    | .mapping .. =>
      let pairs ← n.allPairs fuel
      let fields ← pairs.mapM (Node.field? fuel)
      let merged := fields.foldl (fun fs f ↦ Value.setField f.1 f.2.2 fs) []
      if sort == "map" then return .map merged
      else if sort == "set" then return .list (fields.map fun f ↦ f.2.1)
      else none

/-- A pair: the text of its key, the key, and its value.  The sign for a value is a text when it is
a key. -/
def Node.field? : Nat → Node × Node → Option (String × Value × Value)
  | 0, _ => none
  | fuel + 1, p => do
    let key ← match p.1 with
      | .scalar none true "=" => some (.str "=")
      | k => k.value? fuel
    return (← keyText? key, key, ← p.2.value? fuel)

end

/-- How deep a tree is, with room for steps from pairs to nodes. -/
def depthLimit (text : List Char) : Nat := 4 * text.length + 16

/-- The data in the text of a file; a text without a document holds nothing. -/
def readSettings (text : List Char) : Except Failure Value :=
  let found := do
    let n ← Node.ofTokens? (← tokensOf text)
    match n with
    | some n => n.value? (depthLimit text)
    | none => some .null
  match found with
  | some v => .ok v
  | none => .error .brokenSettings

end Yaml
end TexWeave
