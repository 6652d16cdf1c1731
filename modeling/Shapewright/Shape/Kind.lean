import Shapewright.Text.Split

/-!
# Kinds of shapes

* `Kind` — the closed list of kinds, and numbers that stand for none of them.
* `Kind.name`, `Kind.ofName?` — the words that models use.
* `Kind.index`, `Kind.ofIndex` — the numbering.
-/

set_option autoImplicit false

namespace Shapewright

/-- What a shape is. -/
inductive Kind where
  | boolean | byte | short | integer | long | float | double | bigInteger | bigDecimal | string
  | timestamp | blob | enum | intEnum | list | set | map | structure_ | union | document
  | operation | resource | service
  /-- A number that stands for no kind. -/
  | other (index : Int)
  deriving DecidableEq, Repr

namespace Kind

instance : Inhabited Kind := ⟨.other 0⟩

/-- The kinds in the order of their numbers, which start at one. -/
def all : List Kind :=
  [.boolean, .byte, .short, .integer, .long, .float, .double, .bigInteger, .bigDecimal, .string,
   .timestamp, .blob, .enum, .intEnum, .list, .set, .map, .structure_, .union, .document,
   .operation, .resource, .service]

/-- The word for a kind. -/
def name : Kind → String
  | .boolean => "boolean"
  | .byte => "byte"
  | .short => "short"
  | .integer => "integer"
  | .long => "long"
  | .float => "float"
  | .double => "double"
  | .bigInteger => "bigInteger"
  | .bigDecimal => "bigDecimal"
  | .string => "string"
  | .timestamp => "timestamp"
  | .blob => "blob"
  | .enum => "enum"
  | .intEnum => "intEnum"
  | .list => "list"
  | .set => "set"
  | .map => "map"
  | .structure_ => "structure"
  | .union => "union"
  | .document => "document"
  | .operation => "operation"
  | .resource => "resource"
  | .service => "service"
  | .other index => "ShapeKind(" ++ toString index ++ ")"

/-- The kind that a word stands for. -/
def ofName? (word : String) : Option Kind :=
  all.find? fun k => k.name == word

/-- The number of a kind. -/
def index : Kind → Int
  | .other index => index
  | k => all.idxOf k + 1

/-- The kind with a number. -/
def ofIndex (n : Int) : Kind :=
  if 1 ≤ n then (all[(n - 1).toNat]?).getD (.other n) else .other n

/-- Whether values of the kind are numbers. -/
def isNumeric : Kind → Bool
  | .byte | .short | .integer | .long | .float | .double | .bigInteger | .bigDecimal => true
  | _ => false

/-- Whether values of the kind are sequences. -/
def isCollection : Kind → Bool
  | .list | .set => true
  | _ => false

end Kind
end Shapewright
