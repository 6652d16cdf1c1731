import Shapewright.Binding.Reading
import Shapewright.Http.UriPattern

/-!
# Declarations

A declaration is the plan for binding one member of an operation's input: where its raw value comes
from, what happens if it is absent, and how it is converted.

* `Declaration` — the plan.
* `Declaration.statements` — the generated code that carries it out.
* `Registry.declare` — making the plan.
-/

set_option autoImplicit false

namespace Shapewright

/-- How the raw value of a member is taken from a request. -/
structure Extraction where
  /-- The name that the value has in the request; labels have none. -/
  key : String := ""
  /-- The position of a label in the path. -/
  position : Option Nat := none
  /-- Whether a label takes the rest of the path. -/
  greedy : Bool := false
  /-- Yields the raw value, whether there is one, and if it is fallible an error. -/
  expr : Code.Expr
  fallible : Bool := false

/-- The plan for binding one member. -/
structure Declaration where
  member : Member
  /-- The variable that holds the value. -/
  var : String
  /-- The type of the variable. -/
  type : String
  origin : Origin
  mode : Mode
  /-- The value of a member that is absent. -/
  default? : Option Code.Expr
  extraction : Extraction
  convert : Conversion
  /-- Whether the variable holds the address of the value. -/
  pointer : Bool
  imports : List String

namespace Declaration

/-- The name that errors know the member by. -/
def name (d : Declaration) : String := d.member.name

/-- Whether binding the member can fail when a request arrives. -/
def throws (d : Declaration) : Bool :=
  d.mode == .orThrow || d.convert.fallible || d.extraction.fallible

/-- What is done if there is no value. -/
def absent (d : Declaration) (zeros : List Code.Expr) : List Code.Stmt :=
  if d.mode == .orThrow then
    [.ret (zeros ++ [supportCall "MissingField" [.str d.name, support d.origin.constant]])]
  else []

/-- The generated code. A failure leaves the function with `zeros` and the error. -/
def statements (d : Declaration) (zeros : List Code.Expr) : List Code.Stmt :=
  let present := d.convert.assign d.var d.pointer zeros
  let absent := d.absent zeros
  let variable_ : Code.Stmt := .var d.var d.type d.default?
  if d.extraction.fallible then
    [variable_, .define ["raw", "ok", "err"] [d.extraction.expr], .returnOnError zeros,
      .branch none (.ident "ok") present absent]
  else
    [variable_, .branch (some (.define ["raw", "ok"] [d.extraction.expr])) (.ident "ok")
      present absent]

/-- Names that generated functions use themselves. -/
def reserved : List String := ["r", "raw", "ok", "v", "err", "doc", "tmp", "s", "field"]

/-- The variable for a member. -/
def localName (member : String) : String :=
  let name := Naming.local_ member
  if reserved.contains name then name ++ "Param" else name

end Declaration

namespace Binding

/-- The request in generated code. -/
def request : Code.Expr := .ident "r"

/-- Taking a label from the path. -/
def pathExtraction (m : Member) (uri : Option UriPattern) : Outcome Extraction :=
  match uri.bind (·.labelIndex? m.name) with
  | none => .error (.unresolvedLabel m.id ((uri.map (·.raw)).getD ""))
  | some i =>
    let greedy := ((uri.bind (·.segments[i]?)).map (·.isGreedy)).getD false
    .ok { position := some i, greedy
          expr := supportCall (if greedy then "GreedyPathParam" else "PathParam")
            [request, .int i] }

/-- Taking a query parameter or a header, by the name its trait gives or else the member's own. -/
def namedExtraction (fn trait : String) (m : Member) : Extraction :=
  let given := m.traits.string trait
  let key := if given == "" then m.name else given
  { key, expr := supportCall fn [request, .str key] }

/-- Taking the whole body. -/
def payloadExtraction (m : Member) (kind : Kind) : Extraction :=
  { fallible := true
    expr := if isRawPayload kind then supportCall "BodyBytes" [request]
      else supportCall "BodyValue" [request, .str m.name] }

/-- Taking a field of the body. -/
def fieldExtraction (m : Member) : Extraction :=
  { key := m.name, expr := supportCall "BodyField" [.ident "doc", .str m.name] }

/-- Where a member is taken from, how that is done, and how the raw value is converted. What is
bound to no part of the request is a field of the body. -/
def bind (m : Member) (target : Shape) (r : Representation) (origin : Origin)
    (uri : Option UriPattern) : Outcome (Origin × Extraction × Conversion) := do
  let field : Code.Expr := .str m.name
  let raw : Code.Expr := .ident "raw"
  match origin with
  | .path =>
    let e ← pathExtraction m uri
    return (.path, e, ← fromText m .path r field raw)
  | .query =>
    return (.query, namedExtraction "QueryParam" Trait.httpQuery m,
      ← fromText m .query r field raw)
  | .header =>
    return (.header, namedExtraction "HeaderParam" Trait.httpHeader m,
      ← fromText m .header r field raw)
  | .payload => return (.payload, payloadExtraction m target.kind, ← fromPayload m r field raw)
  | _ => return (.body, fieldExtraction m, r.fromRaw field raw)

end Binding

/-- The plan for binding a member to a part of the request. -/
def Registry.declare (g : Registry) (m : Member) (target : Shape) (origin : Origin)
    (uri : Option UriPattern) : Outcome Declaration := do
  let r ← (g.ofMember m).at_ (.member m.id)
  let (mode, node?) := modeOf m target
  let default? ← if mode == .withDefault then
      ((r.defaultValue node?).at_ (.member m.id)).map some
    else pure none
  let type := r.declared (mode != .nullable)
  let (origin, extraction, convert) ← Binding.bind m target r origin uri
  return { member := m, var := Declaration.localName m.name, type, origin, mode, default?,
           extraction, convert
           pointer := mode == .nullable && type != r.declared true
           imports := importSet (g.options.package :: r.imports) }

end Shapewright
