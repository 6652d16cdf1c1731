import Shapewright.Yaml.Node
import Shapewright.Yaml.Scalar

/-!
# Values of YAML documents

The value of a tree: references have been followed, the pairs of mappings that are merged into others
are among theirs, and of two values of one key the last counts.

* `Value` — a value.
* `Effort` — how many nodes have been visited, and how many of them through references.
* `Node.value?` — the value of a node.
* `Value.toJson?` — a value as a document, if its keys and numbers have forms there.
* `read?` — the document that a text denotes.
-/

set_option autoImplicit false

namespace Shapewright
namespace Yaml

/-- A value. -/
inductive Value where
  | scalar (s : Scalar)
  | list (items : List Value)
  | map (fields : List (Scalar × Value))
  deriving Repr

/-! ## Effort -/

/-- How much work a document has been. -/
structure Effort where
  /-- The nodes visited. -/
  nodes : Nat := 0
  /-- Those of them that were visited through a reference. -/
  referred : Nat := 0
  deriving Repr

namespace Effort

/-- Whether too many nodes have been visited through references: more than 99 in 100 of the first
400000, and from then on a share that falls evenly to one in 10 at 4000000. -/
def isExcessive (e : Effort) : Bool :=
  let slope := 3600000
  let share := if e.nodes ≤ 400000 then 99 * slope
    else if 4000000 ≤ e.nodes then 10 * slope
    else 99 * slope - 89 * (e.nodes - 400000)
  100 < e.referred && 1000 < e.nodes && e.nodes * share < e.referred * 100 * slope

/-- Visits one node more. -/
def visit? (e : Effort) (isReferred : Bool) : Option Effort :=
  let e := { nodes := e.nodes + 1, referred := if isReferred then e.referred + 1 else e.referred : Effort }
  if e.isExcessive then none else some e

end Effort

/-! ## Trees -/

/-- Sets a key, whose value may change but not its place. -/
def Value.put (fields : List (Scalar × Value)) (key : Scalar) (v : Value) : List (Scalar × Value) :=
  match fields with
  | [] => [(key, v)]
  | (k, w) :: rest => if k == key then (k, v) :: rest else (k, w) :: put rest key v

/-- Whether a key asks for the pairs of other mappings. -/
def Node.isMerge : Node → Bool
  | .scalar tag isPlain text => text == "<<" && (isPlain || tag == Scalar.standardStart ++ "merge")
  | _ => false

mutual

/-- The value of a node, `isReferred` saying whether it is visited through a reference. -/
def Node.value? (isReferred : Bool) (e : Effort) : Node → Option (Value × Effort)
  | .scalar tag isPlain text => do
    return (.scalar (← Scalar.ofText? tag isPlain text), ← e.visit? isReferred)
  | .sequence items => do
    let (items, e) ← itemValues? isReferred (← e.visit? isReferred) items
    return (.list items, e)
  | .mapping pairs => do
    let (fields, e) ← pairValues? isReferred (← e.visit? isReferred) [] pairs
    return (.map fields, e)
  | .reference target => do Node.value? true (← e.visit? isReferred) target

/-- The values of items. -/
def itemValues? (isReferred : Bool) (e : Effort) : List Node → Option (List Value × Effort)
  | [] => some ([], e)
  | n :: rest => do
    let (v, e) ← n.value? isReferred e
    let (values, e) ← itemValues? isReferred e rest
    return (v :: values, e)

/-- Adds pairs to those of a mapping. Only a scalar is a key. -/
def pairValues? (isReferred : Bool) (e : Effort) (fields : List (Scalar × Value)) :
    List (Node × Node) → Option (List (Scalar × Value) × Effort)
  | [] => some (fields, e)
  | (k, v) :: rest =>
    if k.isMerge then do
      let (fields, e) ← mergedValues? isReferred e fields v
      pairValues? isReferred e fields rest
    else do
      match ← k.value? isReferred e with
      | (.scalar key, e) => do
        let (v, e) ← v.value? isReferred e
        pairValues? isReferred e (Value.put fields key v) rest
      | _ => none

/-- Adds the pairs of a mapping, or of several, to those of another. -/
def mergedValues? (isReferred : Bool) (e : Effort) (fields : List (Scalar × Value)) :
    Node → Option (List (Scalar × Value) × Effort)
  | .scalar _ _ _ => none
  | .mapping pairs => do pairValues? isReferred (← e.visit? isReferred) fields pairs
  | .reference target => do mergedTarget? (← e.visit? isReferred) fields target
  | .sequence items => mergedItems? isReferred e fields items

/-- Adds the pairs of a mapping that is referred to. -/
def mergedTarget? (e : Effort) (fields : List (Scalar × Value)) :
    Node → Option (List (Scalar × Value) × Effort)
  | .mapping pairs => do pairValues? true (← e.visit? true) fields pairs
  | _ => none

/-- Adds the pairs of several mappings, the last ones first so that the first ones count. -/
def mergedItems? (isReferred : Bool) (e : Effort) (fields : List (Scalar × Value)) :
    List Node → Option (List (Scalar × Value) × Effort)
  | [] => some (fields, e)
  | n :: rest => do
    let (fields, e) ← mergedItems? isReferred e fields rest
    mergedItem? isReferred e fields n

/-- Adds the pairs of one mapping among several. -/
def mergedItem? (isReferred : Bool) (e : Effort) (fields : List (Scalar × Value)) :
    Node → Option (List (Scalar × Value) × Effort)
  | .mapping pairs => do pairValues? isReferred (← e.visit? isReferred) fields pairs
  | .reference target => do mergedTarget? (← e.visit? isReferred) fields target
  | _ => none

end

/-! ## Documents -/

mutual

/-- The value as a document, if all its keys and numbers have forms there. -/
def Value.toJson? : Value → Option Json
  | .scalar s => s.toJson?
  | .list items => do return .array (← itemsToJson? items)
  | .map fields => do return .object (← fieldsToJson? fields)

/-- Items one by one. -/
def itemsToJson? : List Value → Option (List Json)
  | [] => some []
  | v :: rest => do return (← v.toJson?) :: (← itemsToJson? rest)

/-- Fields one by one. -/
def fieldsToJson? : List (Scalar × Value) → Option (List (String × Json))
  | [] => some []
  | (k, v) :: rest => do return (← k.key?, ← v.toJson?) :: (← fieldsToJson? rest)

end

/-- The document that a text denotes: the first in it, or null if it has none. -/
def read? (text : String) : Option Json := do
  match ← Node.ofText? text with
  | none => return .null
  | some n =>
    let (v, _) ← n.value? false { nodes := 1 }
    v.toJson?

end Yaml
end Shapewright
