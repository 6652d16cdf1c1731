import Shapewright.Number.Shortest
import Shapewright.Text.Blank
import Shapewright.Text.Case
import Shapewright.Text.Mark

/-!
# Quantities

A quantity is a number with a unit.

* `UnitSpec`, `convertUnit` — units of one dimension and conversion between them.
* `fuzzyKey`, `fuzzyMatch?` — units are recognised whatever their case and accents.
* `splitQuantity?` — number and unit of a text.
-/

set_option autoImplicit false

namespace Shapewright
namespace Units

/-- How a unit relates to the base unit of its dimension: a value is multiplied, then shifted. -/
structure UnitSpec where
  multiplier : Number.Binary
  offset : Number.Binary

/-- Whether two units relate to their base in the same way. -/
def UnitSpec.same (a b : UnitSpec) : Bool :=
  a.multiplier.eq b.multiplier && a.offset.eq b.offset

/-- A value in one unit as a value in another of the same dimension, by way of the base unit. -/
def convertUnit (value : Number.Binary) (source target : UnitSpec) : Number.Binary :=
  let f := Number.double
  if source.same target then value
  else
    let base := (value.mul f source.multiplier).add f source.offset
    (base.sub f target.offset).div f target.multiplier

/-- What is compared when a unit is looked up: no blanks around it, no accents, no case, and an
underscore for every hyphen. -/
def fuzzyKey (s : String) : String :=
  Text.replaceChar '-' "_" (String.ofList (Text.foldCase (Text.bare (Text.trim s).toList)))

/-- The value of the option that a text means. -/
def fuzzyMatch? {α : Type} (token : String) (options : List (String × α)) : Option α :=
  let wanted := fuzzyKey token
  (options.find? fun (k, _) => fuzzyKey k == wanted).map (·.2)

/-- The number and the unit of a text of exactly two words. -/
def splitQuantity? (input : String) (numberFirst : Bool) : Option (String × String) :=
  match Text.fields input with
  | [a, b] => some (if numberFirst then (a, b) else (b, a))
  | _ => none

/-- How the number of a quantity is written. -/
structure NumberFormatter where
  format : Number.Binary → String

end Units
end Shapewright
