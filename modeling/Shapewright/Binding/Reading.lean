import Shapewright.Representation.Registry

/-!
# Reading values from a request

The parts of a request deliver different raw values: path, query and headers deliver text, a
payload delivers bytes or a decoded document.

* `fromText` — converting text to a member's type; lists are split first.
* `fromPayload` — converting the whole body.
* `timeFormat` — the format of a time that arrives as text.

A field of the body is converted as any other part of a document, by `Representation.fromRaw`.
-/

set_option autoImplicit false

namespace Shapewright
namespace Binding

/-- The format of a time that arrives as text: the one that is chosen for it, and otherwise the
one of dates in headers or the usual one. -/
def timeFormat (r : Representation) (origin : Origin) : String :=
  match r.format?.getD "" with
  | "date-time" => "DateTime"
  | "http-date" => "HttpDate"
  | "epoch-seconds" => "EpochSeconds"
  | _ => if origin == .header then "HttpDate" else "DateTime"

/-- The type that a built-in value is converted to, if it is declared with another name. -/
def declaredName (r : Representation) : String :=
  match r.builtin? with
  | some builtin => if r.type == builtin then "" else r.type
  | none => ""

/-- The function that splits the text of a list. -/
def splitter (element : Representation) (origin : Origin) : String :=
  if element.shape.kind == .timestamp && timeFormat element origin == "HttpDate" then
    "SplitHttpDates"
  else "SplitList"

/-- The function that converts one part of a list. -/
def partReader (element : Representation) (c : Conversion) : Code.Expr :=
  .func [⟨"field", "string"⟩, ⟨"s", "string"⟩] [element.type, "error"] (c.ret (element.zero true))

/-- Conversion of the parts of a list or set. Parts that need no conversion are only split. -/
def fromParts (s : Shape) (element : Representation) (origin : Origin) (c : Conversion)
    (field raw : Code.Expr) : Conversion :=
  let split := splitter element origin
  if !c.fallible && c.wrap == "" then
    { expr := supportCall (if s.kind == .set then "SplitSet" else split) [raw] }
  else
    Representation.fallible (if s.kind == .set then "ConvertSet" else "ConvertEach") []
      [field, supportCall split [raw], partReader element c] ""

/-- Conversion of text from the path, the query or a header. Lists of lists and what has no form as
text are refused. -/
def fromText (m : Member) (origin : Origin) :
    Representation → Code.Expr → Code.Expr → Outcome Conversion
  | .list s element, field, raw =>
    if element.shape.kind.isCollection then .error (.unsupportedBinding m.id s.kind origin)
    else do
      let c ← fromText m origin element (.ident "field") (.ident "s")
      return fromParts s element origin c field raw
  | r, field, raw =>
    match r.shape.kind with
    | .string => .ok { expr := raw, wrap := declaredName r }
    | .boolean => .ok (Representation.fallible "ParseBool" [] [field, raw] (declaredName r))
    | .byte | .short | .integer | .long | .intEnum =>
      .ok (Representation.fallible "ParseInt" [r.type] [field, raw] "")
    | .float | .double => .ok (Representation.fallible "ParseFloat" [r.type] [field, raw] "")
    | .bigInteger => .ok (Representation.fallible "ParseBigInt" [] [field, raw] "")
    | .bigDecimal => .ok (Representation.fallible "ParseDecimal" [] [field, raw] "")
    | .blob => .ok (Representation.fallible "ParseBlob" [] [field, raw] "")
    | .timestamp =>
      .ok (Representation.fallible "ParseTimestamp" []
        [field, raw, support (timeFormat r origin)] "")
    | .enum => match r.parser? with
      | some parser => .ok { expr := .callOf parser [field, raw], fallible := true }
      | none => .error (.unsupportedBinding m.id r.shape.kind origin)
    | kind => .error (.unsupportedBinding m.id kind origin)

/-- Whether a payload of a kind is the bytes of the body rather than a document. -/
def isRawPayload (kind : Kind) : Bool :=
  kind == .blob || kind == .string

/-- Conversion of the whole body. -/
def fromPayload (m : Member) (r : Representation) (field raw : Code.Expr) : Outcome Conversion :=
  match r.shape.kind with
  | .blob => .ok { expr := raw }
  | .string =>
    .ok { expr := .conv "string" raw, wrap := if r.type == "string" then "" else r.type }
  | .structure_ | .union | .document | .list | .set | .map | .enum => .ok (r.fromRaw field raw)
  | kind => .error (.unsupportedBinding m.id kind .payload)

end Binding
end Shapewright
