import Shapewright.OrderedMap
import Shapewright.Shape.Node

/-!
# Traits

Shapes and members carry traits: named values, in the order in which they are written.  A trait
may be written without a value; then it is present with an empty object, except that a default
without a value is a default of null.

* `Traits` — the traits of a shape or member.
* `Traits.get?`, `has`, `string` — looking.
* `Traits.units?` — the trait that describes a unit of measure.
* `Trait` — the ids of the traits that mean something here.
-/

set_option autoImplicit false

namespace Shapewright

namespace Trait

/-- Marks a member that has to be given. -/
def required : String := "smithy.api#required"

/-- The value of a member that is not given. -/
def default_ : String := "smithy.api#default"

/-- The method and the target of an operation. -/
def http : String := "smithy.api#http"

/-- Binds a member to a label of the target's path. -/
def httpLabel : String := "smithy.api#httpLabel"

/-- Binds a member to a query parameter. -/
def httpQuery : String := "smithy.api#httpQuery"

/-- Binds a member to a header. -/
def httpHeader : String := "smithy.api#httpHeader"

/-- Binds a member to the whole body. -/
def httpPayload : String := "smithy.api#httpPayload"

/-- Makes a list a set. -/
def uniqueItems : String := "smithy.api#uniqueItems"

/-- Makes a string an enumeration. -/
def enum : String := "smithy.api#enum"

/-- What an enumeration constant stands for on the wire. -/
def enumValue : String := "smithy.api#enumValue"

/-- The documentation of a shape. -/
def documentation : String := "smithy.api#documentation"

/-- How a time is written. -/
def timestampFormat : String := "smithy.api#timestampFormat"

/-- Marks a shape that only lends its members and traits. -/
def mixin : String := "smithy.api#mixin"

/-- Marks a shape that defines a trait. -/
def trait : String := "smithy.api#trait"

/-- Describes a constant as a unit of measure. -/
def units : String := "smithy.ext#units"

end Trait

/-- Traits in the order they are written. One may lack a value. -/
abbrev Traits := OrderedMap (Option Node)

namespace Traits

/-- The value of a trait that is present. -/
def get? (t : Traits) (id : String) : Option Node :=
  (OrderedMap.get? t id).map fun v => match v with
    | some n => n
    | none => if id == Trait.default_ then ⟨.null⟩ else .empty

/-- Whether a trait is present. -/
def has (t : Traits) (id : String) : Bool :=
  OrderedMap.contains t id

/-- The text of a trait whose value is a string. -/
def string (t : Traits) (id : String) : String :=
  ((get? t id).map Node.asString).getD ""

/-- The trait that describes a unit: the known one, or the first whose name is `units`. -/
def units? (t : Traits) : Option Node :=
  match get? t Trait.units with
  | some n => some n
  | none => (t.keys.find? (Text.endsWith "#units")).bind (get? t)

/-- The traits with their values, in order. -/
def entries (t : Traits) : List (String × Node) :=
  t.keys.filterMap fun id => (get? t id).map fun v => (id, v)

/-- Adds traits one after the other; a later value of a trait replaces an earlier one. -/
def addAll (t : Traits) (entries : List (String × Node)) : Traits :=
  entries.foldl (fun acc (id, v) => acc.insert id (some v)) t

end Traits
end Shapewright
