import Shapewright.Naming
import Shapewright.Representation.Conversion
import Shapewright.Representation.Literal
import Shapewright.Time.Layout

/-!
# How values of a shape are represented

Generated code declares a type for the values of each shape, and converts between that type and
the type a decoded document has them in.

* `Representation` — the representation of a shape, with those of its elements.
* `type`, `declared`, `rawType` — the types.
* `fromRaw`, `toRaw` — the conversions.
* `zero`, `defaultValue` — the values that stand in for an absent one.
* `imports` — the packages that its types need.
-/

set_option autoImplicit false

namespace Shapewright

/-- The name of the type declared for a shape. -/
def typeName (s : Shape) : String := Naming.exported s.id.name

/-- The name of the constant declared for a member of an enumeration. -/
def constantName (enum : Shape) (member : String) : String :=
  typeName enum ++ Naming.exported (Naming.lowered member)

/-- How values of a shape are represented in generated code. -/
inductive Representation where
  /-- A built-in type, or a type declared with it if it is named. -/
  | simple (shape : Shape) (builtin : String) (named : Bool)
  /-- A time; the format is empty where none is chosen. -/
  | timestamp (shape : Shape) (format : String)
  | blob (shape : Shape)
  | bigInteger (shape : Shape)
  | bigDecimal (shape : Shape)
  | document (shape : Shape)
  | enum (shape : Shape)
  | intEnum (shape : Shape)
  /-- A list or set: a slice. -/
  | list (shape : Shape) (element : Representation)
  | map (shape : Shape) (value : Representation)
  /-- A structure or union, with functions of its own. -/
  | structure_ (shape : Shape)

namespace Representation

instance : Inhabited Representation := ⟨.blob default⟩

/-- The shape that is represented. -/
def shape : Representation → Shape
  | .simple s _ _ | .timestamp s _ | .blob s | .bigInteger s | .bigDecimal s | .document s
  | .enum s | .intEnum s | .list s _ | .map s _ | .structure_ s => s

/-- The type of a value that is present. -/
def type : Representation → String
  | .simple s builtin named => if named then typeName s else builtin
  | .timestamp .. => "time.Time"
  | .blob _ => "[]byte"
  | .bigInteger _ => "*big.Int"
  | .bigDecimal _ => "decimal.Decimal"
  | .document _ => "interface\x7b\x7d"
  | .enum s | .intEnum s | .structure_ s => typeName s
  | .list _ element => "[]" ++ element.type
  | .map _ value => "map[string]" ++ value.type

/-- Whether the type itself has a value that stands for absence. -/
def isNillable : Representation → Bool
  | .blob _ | .bigInteger _ | .document _ | .list .. | .map .. => true
  | _ => false

/-- The type that a variable is declared with: one that can be absent if it is not required. -/
def declared (r : Representation) (required : Bool) : String :=
  if required || r.isNillable then r.type else "*" ++ r.type

/-- The type of the value in a decoded document. -/
def rawType : Representation → String
  | .simple s _ _ => match s.kind with
    | .boolean => "bool"
    | .string => "string"
    | _ => "float64"
  | .timestamp _ format => if format == "epoch-seconds" then "float64" else "string"
  | .blob _ | .enum _ => "string"
  | .bigInteger _ | .bigDecimal _ => "json.Number"
  | .document _ => "interface\x7b\x7d"
  | .intEnum _ => "float64"
  | .list .. => "[]interface\x7b\x7d"
  | .map .. | .structure_ _ => "map[string]interface\x7b\x7d"

/-- The value that is returned beside an error. -/
def zero (r : Representation) (required : Bool) : Code.Expr :=
  if !required then .nil
  else match r with
    | .simple s _ _ => match s.kind with
      | .boolean => .lit "false"
      | .string => .lit "\"\""
      | _ => .lit "0"
    | .timestamp .. => .composite "time.Time" []
    | .bigDecimal _ => .ident "decimal.Zero"
    | .enum _ => .lit "\"\""
    | .intEnum _ => .lit "0"
    | .structure_ s => .composite (typeName s) []
    | _ => .nil

/-- The packages that the types of a representation need. -/
def imports : Representation → List String
  | .timestamp .. => ["time"]
  | .bigInteger _ => ["math/big"]
  | .bigDecimal _ => ["github.com/shopspring/decimal"]
  | .list _ element => element.imports
  | .map _ value => value.imports
  | _ => []

/-- The built-in type of a simple representation. -/
def builtin? : Representation → Option String
  | .simple _ builtin _ => some builtin
  | _ => none

/-- The representation of the elements of a list or the values of a map. -/
def element? : Representation → Option Representation
  | .list _ element => some element
  | .map _ value => some value
  | _ => none

/-- The format of a time, empty where none is chosen. -/
def format? : Representation → Option String
  | .timestamp _ format => some format
  | _ => none

/-- The generated function that reads a constant of an enumeration. -/
def parser? : Representation → Option String
  | .enum s => some ("Parse" ++ typeName s)
  | _ => none

/-- The type a simple value is converted to after reading, if it is declared with a name. -/
def wrapType (s : Shape) (named : Bool) : String :=
  if named then typeName s else ""

/-- The constant of the support package for a time format. -/
def formatConstant (format : String) : Code.Expr :=
  match format with
  | "http-date" => support "HttpDate"
  | "epoch-seconds" => support "EpochSeconds"
  | _ => support "DateTime"

/-- A conversion that can fail, by a function of the support package. -/
def fallible (name : String) (types : List String) (args : List Code.Expr) (wrap : String) :
    Conversion :=
  { expr := .call (support name) types args, fallible := true, wrap }

/-- The function that converts the elements of a container from a document. -/
def elementReader (type : String) (zero : Code.Expr) (c : Conversion) : Code.Expr :=
  .func [⟨"field", "string"⟩, ⟨"raw", "interface\x7b\x7d"⟩] [type, "error"] (c.ret zero)

/-- Conversion of the value `raw` of a decoded document; `field` names it in errors. -/
def fromRaw : Representation → Code.Expr → Code.Expr → Conversion
  | .simple s builtin named, field, raw => match s.kind with
    | .boolean => fallible "BoolFromJSON" [] [field, raw] (wrapType s named)
    | .string => fallible "StringFromJSON" [] [field, raw] (wrapType s named)
    | _ => fallible "NumberFromJSON" [(simple s builtin named).type] [field, raw] ""
  | .timestamp _ format, field, raw =>
    fallible "TimestampFromJSON" [] [field, raw, formatConstant format] ""
  | .blob _, field, raw => fallible "BlobFromJSON" [] [field, raw] ""
  | .bigInteger _, field, raw => fallible "BigIntFromJSON" [] [field, raw] ""
  | .bigDecimal _, field, raw => fallible "DecimalFromJSON" [] [field, raw] ""
  | .document _, _, raw => { expr := raw }
  | .enum s, field, raw =>
    fallible "EnumFromJSON" [] [field, raw, .ident ("Parse" ++ typeName s)] ""
  | .intEnum s, field, raw => fallible "NumberFromJSON" [typeName s] [field, raw] ""
  | .list _ element, field, raw =>
    fallible "ListFromJSON" [] [field, raw,
      elementReader element.type (element.zero true)
        (element.fromRaw (.ident "field") (.ident "raw"))] ""
  | .map _ value, field, raw =>
    fallible "MapFromJSON" [] [field, raw,
      elementReader value.type (value.zero true) (value.fromRaw (.ident "field") (.ident "raw"))] ""
  | .structure_ s, field, raw =>
    { expr := .callOf (typeName s ++ "FromJSON") [field, raw], fallible := true }

/-- The function that converts the elements of a container to a document. -/
def elementWriter (type : String) (value : Code.Expr) : Code.Expr :=
  .func [⟨"e", type⟩] ["interface\x7b\x7d"] [.ret [value]]

/-- Conversion of a value to what a document holds; it cannot fail. -/
def toRaw : Representation → Code.Expr → Code.Expr
  | .simple _ builtin named, value => if named then .conv builtin value else value
  | .timestamp _ format, value => supportCall "TimestampToJSON" [value, formatConstant format]
  | .blob _, value => supportCall "BlobToJSON" [value]
  | .bigInteger _, value => supportCall "BigIntToJSON" [value]
  | .bigDecimal _, value => supportCall "DecimalToJSON" [value]
  | .document _, value => value
  | .enum _, value => .conv "string" value
  | .intEnum _, value => .conv "int32" value
  | .list _ element, value =>
    supportCall "ListToJSON" [value, elementWriter element.type (element.toRaw (.ident "e"))]
  | .map _ inner, value =>
    supportCall "MapToJSON" [value, elementWriter inner.type (inner.toRaw (.ident "e"))]
  | .structure_ _, value => .call (.sel value "ToJSON") [] []

/-! ## Defaults -/

/-- The kinds of values that are defaults of a simple shape. -/
def accepts (kind : Kind) (n : NodeKind) : Bool :=
  match kind with
  | .string => n == .string
  | .boolean => n == .boolean || n == .number
  | _ => n == .number

/-- The default of a shape as an expression, if the value suits it. -/
def defaultValue (r : Representation) (n : Option Node) : Outcome Code.Expr :=
  let s := r.shape
  let kind := nodeKind n
  let invalid : Outcome Code.Expr := .error (.invalidDefault s.id s.kind (.wrongKind kind))
  let unsupported : Outcome Code.Expr := .error (.unsupportedDefault s.id s.kind kind)
  match r with
  | .blob _ | .document _ | .list .. | .map .. | .structure_ _ => unsupported
  | _ => do
    let text ← literal s n
    if kind == .null then return .nil
    match r with
    | .simple _ _ named =>
      if !accepts s.kind kind then invalid
      else return if named then .conv r.type (.lit text) else .lit text
    | .timestamp .. =>
      if kind != .string then invalid
      else if (Time.dateTime.read? ((n.map Node.asString).getD "")).isNone then
        throw (.invalidDefault s.id s.kind .notATime)
      else return supportCall "MustParseTimestamp" [.lit text]
    | .enum _ => if kind == .string then return .conv r.type (.lit text) else invalid
    | .intEnum _ => if kind == .number then return .conv r.type (.lit text) else invalid
    | _ => invalid

end Representation
end Shapewright
