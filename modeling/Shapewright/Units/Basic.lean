import Shapewright.Representation.Basic
import Shapewright.Units.Quantity

/-!
# Units of measure in a model

An enumeration whose constants all carry a trait for units is one of units.  The trait gives a
multiplier, or an object with a multiplier, an offset and abbreviations.

* `Unit` — one constant of such an enumeration.
* `unitsOf?` — the units of an enumeration.
* `lookupTable` — the texts that units are recognised by.
-/

set_option autoImplicit false

namespace Shapewright
namespace Units

/-- One unit of an enumeration. -/
structure Unit where
  /-- The constant that is declared for it. -/
  constant : String
  name : String
  /-- The value on the wire. -/
  value : String
  spec : UnitSpec
  abbreviations : List String := []

/-- Zero as a number of 64 bits. -/
def zero : Number.Binary := Number.double.ofRat 0

/-- One as a number of 64 bits. -/
def one : Number.Binary := Number.double.ofRat 1

/-- The number of a field of a trait, if there is one. -/
def fieldNumber? (n : Node) (key : String) : Option Number.Binary :=
  (n.field? key).bind Node.double?

/-- What a trait says of a unit: how it relates to its base, and its abbreviations. -/
def readTrait? (n : Node) : Option (UnitSpec × List String) :=
  match n.kind with
  | .number =>
    some (⟨(n.number?.bind Number.double.readUnbounded?).getD zero, zero⟩, [])
  | .object =>
    some (⟨(fieldNumber? n "multiplier").getD one, (fieldNumber? n "offset").getD zero⟩,
      ((n.field? "abbreviations").map Node.stringItems).getD [])
  | _ => none

/-- The unit of a constant, unless its multiplier is zero. -/
def unitOf? (enum : Shape) (m : Member) : Option Unit := do
  let trait ← m.traits.units?
  let (spec, abbreviations) ← readTrait? trait
  if spec.multiplier.isZero then none
  return { constant := constantName enum m.name, name := m.name, value := m.enumValue.asString
           spec, abbreviations }

/-- The units of an enumeration all of whose constants are units. -/
def unitsOf? (s : Shape) : Option (List Unit) :=
  if s.kind != .enum || s.members.keys.isEmpty then none
  else s.memberList.mapM (unitOf? s)

/-- The texts that a unit is recognised by. -/
def Unit.tokens (u : Unit) : List String :=
  (u.name :: u.value :: u.abbreviations).filter (· != "")

/-- The texts that units are recognised by, with their constants. Of texts that mean the same the
first counts. -/
def lookupTable (units : List Unit) : List (String × String) :=
  Text.firstBy (fun (token, _) => fuzzyKey token)
    (units.flatMap fun u => u.tokens.map fun token => (token, u.constant))

end Units
end Shapewright
