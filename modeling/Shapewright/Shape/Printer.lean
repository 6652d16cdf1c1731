import Shapewright.Json.Outline
import Shapewright.Json.Token
import Shapewright.Shape.Basic

/-!
# Shapes and maps as documents

* `Shape.outline`, `Shape.pretty` — a shape for the eye; parts that are empty are left out.
* `parseTraits?`, `Traits.document` — a map of values from and to a document.

The keys of a map are quoted as names are, which spells unprintable characters by number.
-/

set_option autoImplicit false

namespace Shapewright

/-! ## Maps of values -/

/-- The fields of a document that is an object with all numbers in range. -/
def boundedFields? : Json → Option (List (String × Json))
  | .object fields => if (Json.object fields).allNumbers isInRange then some fields else none
  | _ => none

/-- A value in a map; a null is an absent one. -/
def Node.ofField : Json → Option Node
  | .null => none
  | v => some (.ofJson v)

/-- The map that a document denotes. -/
def Traits.ofJson? (v : Json) : Option Traits := do
  let fields ← boundedFields? v
  return OrderedMap.ofFields (fields.map fun (id, v) => (id, Node.ofField v))

/-- The map of a text that is one document. -/
def parseTraits? (text : String) : Option Traits := do
  Traits.ofJson? (← Json.parse? text)

/-- A value of a map as a document. -/
def nodeDocument (n : Option Node) : Json :=
  (n.map Node.value).getD .null

/-- A map of values as a document. -/
def Traits.document (t : Traits) : String :=
  "\x7b" ++ ",".intercalate (t.toList.map fun (id, v) =>
    Text.quote id ++ ":" ++ (nodeDocument v).compact) ++ "\x7d"

/-! ## Shapes -/

/-- A quoted name inside a document: the characters that matter to a page are written by number. -/
def quotedName (name : String) : String :=
  String.ofList ((Text.quote name).toList.flatMap fun c =>
    if Json.isSensitive c then Json.escape true c else [c])

/-- A text as a leaf. -/
def Outline.text (s : String) : Outline := .ofJson (.string s)

/-- Traits for the eye. -/
def Traits.outline (t : Traits) : Outline :=
  .object (t.toList.map fun (id, v) => (quotedName id, .ofJson (nodeDocument v)))

/-- A member for the eye. -/
def Member.outline (m : Member) : Outline :=
  .object [("\"name\"", .text m.name), ("\"target\"", .text m.target.text),
    ("\"traits\"", m.traits.outline)]

namespace Shape

/-- A field that may be left out. -/
def fieldIf (given : Bool) (key : String) (o : Outline) : List (String × Outline) :=
  if given then [("\"" ++ key ++ "\"", o)] else []

/-- A text field, left out if it is empty. -/
def textField (key s : String) : List (String × Outline) :=
  fieldIf (s != "") key (.text s)

/-- A field that lists ids, left out if there are none. -/
def idsField (key : String) (ids : List ShapeId) : List (String × Outline) :=
  fieldIf (!ids.isEmpty) key (.array (ids.map fun id => .text id.text))

/-- A field that holds a member, left out if there is none. -/
def memberField (key : String) : Option Member → List (String × Outline)
  | none => []
  | some m => fieldIf true key m.outline

/-- A shape for the eye. -/
def outline (s : Shape) : Outline :=
  .object (fieldIf true "id" (.text s.id.text) ++ fieldIf true "kind" (.text s.kind.name)
    ++ fieldIf true "traits" s.traits.outline
    ++ memberField "member" s.item ++ memberField "key" s.key ++ memberField "value" s.value
    ++ textField "input" s.input.text ++ textField "output" s.output.text
    ++ idsField "errors" s.errors ++ textField "version" s.version
    ++ idsField "operations" s.operations ++ idsField "resources" s.resources
    ++ fieldIf (!s.members.keys.isEmpty) "members"
      (.object (s.members.toList.map fun (name, m) => (quotedName name, m.outline))))

/-- The text of a shape for the eye. -/
def pretty (s : Shape) : String := s.outline.render

end Shape
end Shapewright
