import Shapewright.Shape.Id
import Shapewright.Shape.Kind
import Shapewright.Shape.Traits

/-!
# Shapes

* `Member` — a named reference from one shape to another.
* `Shape` — a shape with what its kind gives it: members, element types, operations.
-/

set_option autoImplicit false

namespace Shapewright

/-- A named reference from a shape to its target. -/
structure Member where
  name : String
  container : ShapeId
  target : ShapeId
  traits : Traits := {}
  deriving Repr

namespace Member

instance : Inhabited Member := ⟨{ name := "", container := ⟨""⟩, target := ⟨""⟩ }⟩

/-- The id of the member. -/
def id (m : Member) : ShapeId := m.container.withMember m.name

/-- Whether a value has to be given. -/
def isRequired (m : Member) : Bool := m.traits.has Trait.required

/-- What an enumeration constant stands for on the wire: the value it is given, or its name. -/
def enumValue (m : Member) : Node :=
  (Traits.get? m.traits Trait.enumValue).getD (.ofString m.name)

end Member

/-- A shape. Which parts are filled depends on its kind. -/
structure Shape where
  id : ShapeId
  kind : Kind
  traits : Traits := {}
  /-- Members of a structure, union or enumeration, as declared. -/
  members : OrderedMap Member := {}
  /-- The element of a list or set. -/
  item : Option Member := none
  /-- The key of a map. -/
  key : Option Member := none
  /-- The value of a map. -/
  value : Option Member := none
  /-- The input of an operation. -/
  input : ShapeId := ⟨""⟩
  /-- The output of an operation. -/
  output : ShapeId := ⟨""⟩
  /-- The errors of an operation. -/
  errors : List ShapeId := []
  /-- The version of a service. -/
  version : String := ""
  /-- The operations of a service or resource. -/
  operations : List ShapeId := []
  /-- The resources of a service or resource. -/
  resources : List ShapeId := []
  deriving Repr

namespace Shape

instance : Inhabited Shape := ⟨{ id := ⟨""⟩, kind := .other 0 }⟩

/-- The members as declared. -/
def memberList (s : Shape) : List Member := s.members.values

/-- Adds a member after the others. -/
def addMember (s : Shape) (name : String) (target : ShapeId) (traits : Traits) : Shape :=
  { s with members := s.members.insert name { name, container := s.id, target, traits } }

/-- The documentation of a shape. -/
def documentation (s : Shape) : String := s.traits.string Trait.documentation

/-- Every id that a shape refers to, the empty ones included. -/
def references (s : Shape) : List ShapeId :=
  s.memberList.map (·.target) ++ [s.item, s.key, s.value].filterMap (·.map (·.target))
    ++ [s.input, s.output] ++ s.errors ++ s.operations ++ s.resources

end Shape
end Shapewright
