import Shapewright.Shape.Basic

/-!
# Shapes that every model knows

* `Prelude.shapes` — the simple types, their variants with a default, and the empty structure.
* `Prelude.find?` — one of them by its id.
-/

set_option autoImplicit false

namespace Shapewright
namespace Prelude

/-- Names and kinds of the simple types. -/
def simple : List (String × Kind) :=
  [("Boolean", .boolean), ("Byte", .byte), ("Short", .short), ("Integer", .integer),
   ("Long", .long), ("Float", .float), ("Double", .double), ("BigInteger", .bigInteger),
   ("BigDecimal", .bigDecimal), ("String", .string), ("Timestamp", .timestamp), ("Blob", .blob),
   ("Document", .document)]

/-- Names, kinds and defaults of the variants that are never absent. -/
def withDefault : List (String × Kind × Json) :=
  [("PrimitiveBoolean", .boolean, .bool false), ("PrimitiveByte", .byte, .number "0"),
   ("PrimitiveShort", .short, .number "0"), ("PrimitiveInteger", .integer, .number "0"),
   ("PrimitiveLong", .long, .number "0"), ("PrimitiveFloat", .float, .number "0"),
   ("PrimitiveDouble", .double, .number "0")]

/-- The id of a name in the prelude. -/
def id (name : String) : ShapeId := ShapeId.make ShapeId.preludeNamespace name

/-- All shapes of the prelude. -/
def shapes : List Shape :=
  (simple.map fun (name, kind) => { id := id name, kind })
    ++ (withDefault.map fun (name, kind, v) =>
      { id := id name, kind, traits := OrderedMap.insert {} Trait.default_ (some ⟨v⟩) })
    ++ [{ id := ShapeId.unit, kind := .structure_ }]

/-- The shape of the prelude with an id. -/
def find? (id : ShapeId) : Option Shape :=
  shapes.find? fun s => s.id == id

end Prelude
end Shapewright
