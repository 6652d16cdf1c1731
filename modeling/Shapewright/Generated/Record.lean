import Shapewright.Representation.Registry

/-!
# Records

A record is a shape with members after the types of its members are settled.

* `Field` — a member with its field name and type.
* `Record` — a structure or union with its fields, or an enumeration with its constants.
* `Registry.record` — settling a shape.
-/

set_option autoImplicit false

namespace Shapewright

/-- What is known of a field of a structure or union. -/
structure FieldType where
  target : Shape
  /-- The type that the field is declared with. -/
  type : String
  representation : Representation

/-- A member of a generated type: a field, or a constant, which has no type of its own. -/
structure Field where
  member : Member
  /-- The identifier of the field or constant. -/
  name : String
  typed : Option FieldType := none

/-- The type that a field is declared with; a constant has none. -/
def Field.type (f : Field) : String := (f.typed.map (·.type)).getD ""

/-- A shape whose members are settled. -/
structure Record where
  shape : Shape
  fields : List Field

/-- The name of the generated type. -/
def Record.typeName (r : Record) : String := Shapewright.typeName r.shape

/-- Whether a kind has constants. -/
def Kind.isEnumeration (kind : Kind) : Bool :=
  kind == .enum || kind == .intEnum

namespace Registry

/-- Settles a member of a structure or union. -/
def field (g : Registry) (m : Member) : Outcome Field := do
  let target ← g.catalog.target m
  let representation ← (g.ofMember m).at_ (.member m.id)
  return { member := m, name := Naming.exported m.name
           typed := some {
             target, representation
             type := representation.declared (isNonNullable m target) } }

/-- Settles the members of a shape. -/
def record (g : Registry) (s : Shape) : Outcome Record := do
  if s.kind.isEnumeration then
    return { shape := s
             fields := s.memberList.map fun m =>
               { member := m, name := constantName s m.name } }
  return { shape := s, fields := ← s.memberList.mapM g.field }

end Registry
end Shapewright
