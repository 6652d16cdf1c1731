import Shapewright.Text.Split

/-!
# Data documents

A document is kept as it is written: the fields of an object stay in order, a repeated field stays
repeated, and a number keeps its spelling.  The value that a document denotes forgets the order and
the repetitions.

* `Json` — documents.
* `Json.field?` — the value of a field; the last one counts.
* `Json.canonical` — the denoted value: fields sorted, each once, with its last value.
* `Json.nesting` — how deep arrays and objects are nested.
-/

set_option autoImplicit false

namespace Shapewright

/-- A document. -/
inductive Json where
  | null
  | bool (b : Bool)
  /-- A number by its spelling. -/
  | number (text : String)
  | string (s : String)
  | array (items : List Json)
  | object (fields : List (String × Json))
  deriving Repr

instance : Inhabited Json := ⟨.null⟩

namespace Json

mutual

/-- Whether two documents are the same. -/
def beq : Json → Json → Bool
  | .null, .null => true
  | .bool a, .bool b => a == b
  | .number a, .number b => a == b
  | .string a, .string b => a == b
  | .array xs, .array ys => beqItems xs ys
  | .object xs, .object ys => beqFields xs ys
  | _, _ => false

/-- Whether two lists hold the same documents. -/
def beqItems : List Json → List Json → Bool
  | [], [] => true
  | x :: xs, y :: ys => beq x y && beqItems xs ys
  | _, _ => false

/-- Whether two lists hold the same fields. -/
def beqFields : List (String × Json) → List (String × Json) → Bool
  | [], [] => true
  | (k, x) :: xs, (l, y) :: ys => k == l && beq x y && beqFields xs ys
  | _, _ => false

end

instance : BEq Json := ⟨beq⟩

/-- The last value of a key in a list of fields. -/
def lastValue? {α : Type} (key : String) (fields : List (String × α)) : Option α :=
  (fields.reverse.find? fun (k, _) => k == key).map (·.2)

/-- The value of a field of an object. -/
def field? (key : String) : Json → Option Json
  | .object fields => lastValue? key fields
  | _ => none

/-- Fields sorted by key, each key once and with its last value. -/
def sortFields {α : Type} (fields : List (String × α)) : List (String × α) :=
  (Text.firstBy (·.1) fields.reverse).mergeSort fun a b => decide (a.1 ≤ b.1)

mutual

/-- The value that a document denotes. -/
def canonical : Json → Json
  | .array items => .array (canonicalItems items)
  | .object fields => .object (sortFields (canonicalFields fields))
  | v => v

/-- Items one by one. -/
def canonicalItems : List Json → List Json
  | [] => []
  | v :: rest => canonical v :: canonicalItems rest

/-- Field values one by one. -/
def canonicalFields : List (String × Json) → List (String × Json)
  | [] => []
  | (k, v) :: rest => (k, canonical v) :: canonicalFields rest

end

mutual

/-- How many arrays and objects are nested in each other. -/
def nesting : Json → Nat
  | .array items => nestingItems items + 1
  | .object fields => nestingFields fields + 1
  | _ => 0

/-- The deepest nesting of some items. -/
def nestingItems : List Json → Nat
  | [] => 0
  | v :: rest => max (nesting v) (nestingItems rest)

/-- The deepest nesting of some fields. -/
def nestingFields : List (String × Json) → Nat
  | [] => 0
  | (_, v) :: rest => max (nesting v) (nestingFields rest)

end

/-- How deep arrays and objects may be nested in a document that is read. -/
def maxNesting : Nat := 10000

mutual

/-- Whether every number of a document satisfies a test. -/
def allNumbers (test : String → Bool) : Json → Bool
  | .number text => test text
  | .array items => allNumbersItems test items
  | .object fields => allNumbersFields test fields
  | _ => true

/-- Whether every number of some items satisfies a test. -/
def allNumbersItems (test : String → Bool) : List Json → Bool
  | [] => true
  | v :: rest => allNumbers test v && allNumbersItems test rest

/-- Whether every number of some fields satisfies a test. -/
def allNumbersFields (test : String → Bool) : List (String × Json) → Bool
  | [] => true
  | (_, v) :: rest => allNumbers test v && allNumbersFields test rest

end

end Json
end Shapewright
