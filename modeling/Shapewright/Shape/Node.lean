import Shapewright.Json.Parser
import Shapewright.Json.Printer
import Shapewright.Number.Numeral

/-!
# Values in a model

Traits and defaults carry values.  A node is the value that a document denotes, so the fields of an
object have no order, and numbers keep their spelling.

* `Node`, `Node.kind` — a value and what it is.
* `Node.parse?` — the node of a document.
* `Node.text` — the document of a node.
-/

set_option autoImplicit false

namespace Shapewright

/-- What a value in a model is. -/
inductive NodeKind where
  | null | boolean | number | string | array | object
  deriving DecidableEq, Repr

/-- The word for what a value is. -/
def NodeKind.name : NodeKind → String
  | .null => "null"
  | .boolean => "boolean"
  | .number => "number"
  | .string => "string"
  | .array => "array"
  | .object => "object"

/-- A value in a model. -/
structure Node where
  value : Json
  deriving Repr

namespace Node

instance : Inhabited Node := ⟨⟨.null⟩⟩

/-- The node that a document denotes. -/
def ofJson (v : Json) : Node := ⟨v.canonical⟩

/-- The node of a text that is one document. -/
def parse? (text : String) : Option Node :=
  (Json.parse? text).map ofJson

/-- The node as a document without white space. -/
def text (n : Node) : String := n.value.compact

/-- Whether the node can be written as a document: infinities and the like are no numbers there. -/
def isWritable (n : Node) : Bool := n.value.allNumbers Json.isNumber

/-- What the value is. -/
def kind (n : Node) : NodeKind :=
  match n.value with
  | .null => .null
  | .bool _ => .boolean
  | .number _ => .number
  | .string _ => .string
  | .array _ => .array
  | .object _ => .object

/-- The text of a string; other values have none. -/
def asString (n : Node) : String :=
  match n.value with
  | .string s => s
  | _ => ""

/-- Whether the value counts as true: everything but `false` and `null`. -/
def asBool (n : Node) : Bool :=
  match n.value with
  | .bool b => b
  | .null => false
  | _ => true

/-- The spelling of a number. -/
def number? (n : Node) : Option String :=
  match n.value with
  | .number text => some text
  | _ => none

/-- A number as the nearest one of 64 bits, if it is within the range of those. -/
def double? (n : Node) : Option Number.Binary :=
  n.number?.bind fun text => (Number.double.read text).toOption

/-- A field of an object. -/
def field? (n : Node) (key : String) : Option Node :=
  (n.value.field? key).map Node.mk

/-- The text of a string field. -/
def fieldString (n : Node) (key : String) : String :=
  ((n.field? key).map asString).getD ""

/-- The keys of an object, sorted. -/
def keys (n : Node) : List String :=
  match n.value with
  | .object fields => fields.map (·.1)
  | _ => []

/-- The items of an array. -/
def items (n : Node) : List Node :=
  match n.value with
  | .array items => items.map Node.mk
  | _ => []

/-- Those items of an array that are strings. -/
def stringItems (n : Node) : List String :=
  n.items.filterMap fun item => match item.value with
    | .string s => some s
    | _ => none

/-- An object without fields: the value of a trait that is only present. -/
def empty : Node := ⟨.object []⟩

/-- A string as a node. -/
def ofString (s : String) : Node := ⟨.string s⟩

end Node

/-- What an absent or present value is; an absent one counts as null. -/
def nodeKind (n : Option Node) : NodeKind :=
  (n.map Node.kind).getD .null

end Shapewright
