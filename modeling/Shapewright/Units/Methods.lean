import Shapewright.Generated.Record
import Shapewright.Units.Basic

/-!
# Methods for units and quantities

Some records get methods beyond those of every record.

* `Contributor` — what adds methods: to enumerations of units, and to structures that hold a number
  and its unit.
* `Contributor.applies` — to which records.
* `Contributor.methods` — the methods.
-/

set_option autoImplicit false

namespace Shapewright
namespace Units

open Code

/-! ## Enumerations of units -/

/-- A number as a literal. -/
def numberLit (x : Number.Binary) : Expr := .lit (x.general Number.double)

/-- The literal that says how a unit relates to its base. -/
def specLit (s : UnitSpec) : Expr :=
  .composite "runtime.UnitSpec" (("Multiplier", numberLit s.multiplier)
    :: if s.offset.isZero then [] else [("Offset", numberLit s.offset)])

/-- The call that asks a unit how it relates to its base. -/
def specCall (unit : String) : Expr := .call (.sel (.ident unit) "Spec") [] []

/-- A method of a unit that returns one expression. -/
def unitMethod (type doc name : String) (params : List Param) (result : String) (value : Expr) :
    Function :=
  { doc, receiver := some ⟨"x", type⟩, name, params, results := [result], body := [.ret [value]] }

/-- The method that says how a unit relates to its base. -/
def specMethod (type : String) (units : List Unit) : Function :=
  { doc := "Spec returns the multiplier and offset of the unit."
    receiver := some ⟨"x", type⟩, name := "Spec", results := ["runtime.UnitSpec"]
    body := [.switch (some (.ident "x"))
      (units.map fun u => ([.ident u.constant], [.ret [specLit u.spec]]))
      [.ret [.composite "runtime.UnitSpec" [("Multiplier", .lit "1")]]]] }

/-- The function that looks a unit up. -/
def findFunction (type : String) (units : List Unit) : Function :=
  { doc := "Find" ++ type ++ " looks up a unit by name, value or abbreviation, ignoring case and\n"
      ++ "treating '-' and '_' alike."
    name := "Find" ++ type, params := [⟨"token", "string"⟩], results := [type, "bool"]
    body := [.ret [supportCall "FuzzyMatch" [.ident "token",
      .composite ("map[string]" ++ type)
        ((lookupTable units).map fun (token, constant) => (Text.quote token, .ident constant))]]] }

/-- The methods of an enumeration of units. -/
def enumMethods (type : String) (units : List Unit) : List Function :=
  [specMethod type units,
   unitMethod type "" "Multiplier" [] "float64" (.sel (specCall "x") "Multiplier"),
   unitMethod type "" "Offset" [] "float64" (.sel (specCall "x") "Offset"),
   unitMethod type "Convert converts a value in this unit to the given unit." "Convert"
     [⟨"value", "float64"⟩, ⟨"to", type⟩] "float64"
     (supportCall "ConvertUnit" [.ident "value", specCall "x", specCall "to"]),
   findFunction type units]

/-! ## Quantities -/

/-- A structure that holds a number and its unit. -/
structure Quantity where
  value : Field
  valueType : FieldType
  unit : Field
  unitType : FieldType
  units : List Unit
  /-- Whether the number is declared before the unit. -/
  numberFirst : Bool

/-- Whether values of a kind can be the number of a quantity. -/
def isQuantityNumber : Kind → Bool
  | .byte | .short | .integer | .long | .float | .double => true
  | _ => false

/-- Whether a field is a unit. -/
def fieldUnits? (f : Field) : Option (FieldType × List Unit) := do
  let t ← f.typed
  return (t, ← unitsOf? t.target)

/-- Whether a field is the number of a quantity. -/
def fieldNumberType? (f : Field) : Option FieldType := do
  let t ← f.typed
  if isQuantityNumber t.target.kind then some t else none

/-- Whether a field always has a value. -/
def isAlwaysSet (f : Field) : Bool :=
  match f.typed with
  | some t => isNonNullable f.member t.target
  | none => false

/-- The quantity that two fields make up, if both always have a value. -/
def quantityOf? (r : Record) : Option Quantity :=
  match r.shape.kind, r.fields with
  | .structure_, [a, b] =>
    if !(isAlwaysSet a && isAlwaysSet b) then none
    else match fieldNumberType? a, fieldUnits? b, fieldUnits? a, fieldNumberType? b with
      | some valueType, some (unitType, units), _, _ =>
        some { value := a, valueType, unit := b, unitType, units, numberFirst := true }
      | _, _, some (unitType, units), some valueType =>
        some { value := b, valueType, unit := a, unitType, units, numberFirst := false }
      | _, _, _, _ => none
  | _, _ => none

namespace Quantity

/-- Whether the number has a fraction. -/
def isFloat (q : Quantity) : Bool :=
  q.valueType.target.kind == .float || q.valueType.target.kind == .double

/-- Number and unit in the order in which they are declared. -/
def ordered {α : Type} (q : Quantity) (value unit : α) : List α :=
  if q.numberFirst then [value, unit] else [unit, value]

/-- A field of the quantity. -/
def sel (f : Field) : Expr := .sel (.ident "x") f.name

/-- The number in another unit; one without a fraction is rounded. -/
def converted (q : Quantity) : Expr :=
  let inUnit : Expr := .call (.sel (sel q.unit) "Convert") []
    [.conv "float64" (sel q.value), .ident "to"]
  .conv q.valueType.type (if q.isFloat then inUnit else .callOf "math.Round" [inUnit])

/-- The method that converts a quantity to another unit. -/
def toMethod (q : Quantity) (type : String) : Function :=
  { doc := "To returns x in the given unit. Converting to the current unit returns x itself."
    receiver := some ⟨"x", "*" ++ type⟩, name := "To", params := [⟨"to", q.unitType.type⟩]
    results := ["*" ++ type]
    body := [
      .branch none (.binary (sel q.unit) "==" (.ident "to")) [.ret [.ident "x"]] [],
      .ret [.callOf ("New" ++ type) (q.ordered q.converted (.ident "to"))]]
    imports := if q.isFloat then [] else ["math"] }

/-- A text that the quantity is parsed from. -/
def sample (q : Quantity) : String :=
  " ".intercalate (q.ordered "42" ((q.units.head?.map (·.value)).getD ""))

/-- The function that reads a quantity from text. -/
def parseFunction (q : Quantity) (type : String) : Function :=
  let refuse : Stmt := .ret [.nil, .lit "false"]
  let refuseUnless := fun (name : String) => Stmt.branch none (.not (.ident name)) [refuse] []
  { doc := "Parse" ++ type ++ " parses text such as \"" ++ q.sample
      ++ "\". It reports false if the text is malformed."
    name := "Parse" ++ type, params := [⟨"input", "string"⟩], results := ["*" ++ type, "bool"]
    body := [
      .define ["num", "token", "ok"]
        [supportCall "SplitQuantity" [.ident "input", .lit (boolLiteral q.numberFirst)]],
      refuseUnless "ok",
      .define ["unit", "ok"] [.callOf ("Find" ++ q.unitType.type) [.ident "token"]],
      refuseUnless "ok",
      .define ["value", "err"] [.call (support (if q.isFloat then "ParseFloat" else "ParseInt"))
        [q.valueType.type] [.str q.value.member.name, .ident "num"]],
      .branch none (.binary (.ident "err") "!=" .nil) [refuse] [],
      .ret [.callOf ("New" ++ type) (q.ordered (.ident "value") (.ident "unit")), .lit "true"]] }

/-- The method that writes the number of a quantity. -/
def formatMethod (q : Quantity) (type : String) : Function :=
  { doc := "FormatValue formats the numeric value with f."
    receiver := some ⟨"x", "*" ++ type⟩, name := "FormatValue"
    params := [⟨"f", "runtime.NumberFormatter"⟩], results := ["string"]
    body := [.ret [.call (.sel (.ident "f") "Format") [] [.conv "float64" (sel q.value)]]] }

/-- The methods of a quantity. -/
def methods (q : Quantity) (type : String) : List Function :=
  [q.toMethod type, q.parseFunction type, q.formatMethod type]

end Quantity

end Units

/-- What adds methods to records. -/
inductive Contributor where
  /-- To enumerations of units. -/
  | unitEnum
  /-- To structures that hold a number and its unit. -/
  | unitConversion
  deriving DecidableEq, Repr

namespace Contributor

/-- The word for a contributor. -/
def name : Contributor → String
  | .unitEnum => "unit-enum"
  | .unitConversion => "unit-conversion"

/-- All contributors in the order in which they are asked. -/
def all : List Contributor := [.unitEnum, .unitConversion]

/-- The contributor that a word stands for. -/
def ofName? (word : String) : Option Contributor := all.find? fun c => c.name == word

/-- The methods for a record, if the contributor has any. -/
def methods? (c : Contributor) (r : Record) : Option (List Code.Function) :=
  match c with
  | .unitEnum => (Units.unitsOf? r.shape).map (Units.enumMethods r.typeName)
  | .unitConversion => (Units.quantityOf? r).map (·.methods r.typeName)

/-- Whether a contributor has methods for a record. -/
def applies (c : Contributor) (r : Record) : Bool := (c.methods? r).isSome

/-- The methods of several contributors for a record. -/
def contribute (cs : List Contributor) (r : Record) : List Code.Function :=
  cs.flatMap fun c => (c.methods? r).getD []

end Contributor
end Shapewright
