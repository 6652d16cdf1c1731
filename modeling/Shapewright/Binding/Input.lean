import Shapewright.Binding.Declaration
import Shapewright.Http.Endpoint

/-!
# Inputs of operations

* `Input` — how the input of an operation is bound, member by member.
* `Registry.bindOperation` — binding one operation.
* `Registry.bindService` — binding all operations of a service; those that fail are reported
  together and do not stop the others.
-/

set_option autoImplicit false

namespace Shapewright

/-- How the input of an operation is made up. -/
inductive InputKind where
  /-- Members are bound one by one. -/
  | members
  /-- The only member is the whole body. -/
  | singlePayload
  /-- There are no members. -/
  | empty
  /-- The operation has no target, and the body is the input. -/
  | wholeBody
  deriving DecidableEq, Repr

namespace InputKind

/-- The word for a kind of input. -/
def name : InputKind → String
  | .members => "members"
  | .singlePayload => "single-payload"
  | .empty => "empty"
  | .wholeBody => "whole-body"

/-- The kind with a number; those beyond the list count as the first. -/
def ofIndex (index : Nat) : InputKind :=
  ([.members, .singlePayload, .empty, .wholeBody][index]?).getD .members

end InputKind

/-- How the input of an operation is bound. -/
structure Input where
  operation : Shape
  /-- The structure that is bound, if there is one. -/
  shape : Option Shape
  kind : InputKind
  endpoint : Option Endpoint
  /-- The plans for the members, in declaration order. -/
  declarations : List Declaration := []
  imports : List String := []

namespace Input

/-- The name of the input's type; empty where there is no input. -/
def typeName (i : Input) : String := (i.shape.map Shapewright.typeName).getD ""

/-- The plan for the only member of an input that is a payload. -/
def payload? (i : Input) : Option Declaration :=
  if i.kind == .singlePayload then i.declarations.head? else none

/-- The arguments of the input's constructor. -/
def arguments (i : Input) : List Code.Expr := i.declarations.map fun d => .ident d.var

/-- Whether some member is a field of the body. -/
def readsBody (i : Input) : Bool := i.declarations.any fun d => d.origin == .body

/-- The generated code: the body is decoded first if members are taken from it. -/
def statements (i : Input) (zeros : List Code.Expr) : List Code.Stmt :=
  (if i.readsBody then
    [.define ["doc", "err"] [supportCall "BodyDocument" [Binding.request]], .returnOnError zeros]
  else []) ++ i.declarations.flatMap (·.statements zeros)

end Input

namespace Registry

/-- The plans for the members of a structure. -/
def declareAll (g : Registry) (members : List Member) (uri : Option UriPattern) :
    Outcome (List Declaration) :=
  members.mapM fun m => do
    let target ← g.catalog.target m
    g.declare m target (Origin.of m) uri

/-- The packages that plans need. -/
def importsOf (g : Registry) (ds : List Declaration) : List String :=
  if ds.isEmpty then [] else importSet (g.options.package :: ds.flatMap (·.imports))

/-- Binds the members of an input, which may be missing. -/
def bindInput (g : Registry) (op : Shape) (input : Option Shape) : Outcome Input := do
  let endpoint ← Endpoint.of op
  let members := (input.map (·.memberList)).getD []
  let start : Input := { operation := op, shape := input, kind := .empty, endpoint }
  if members.isEmpty then return start
  match endpoint with
  | none => return { start with kind := .wholeBody }
  | some e =>
    let kind : InputKind := match members with
      | [m] => if Origin.of m == .payload then .singlePayload else .members
      | _ => .members
    let declarations ← g.declareAll members (some e.uri)
    return { start with kind, declarations, imports := g.importsOf declarations }

/-- The structure that an operation takes, unless it takes none. -/
def inputShape (g : Registry) (op : Shape) : Outcome (Option Shape) :=
  if op.input.isEmpty || op.input == ShapeId.unit then .ok none
  else ((g.catalog.expect op.input).at_ (.inputOf op.id)).map some

/-- Binds the input of an operation. -/
def bindOperation (g : Registry) (op : Shape) : Outcome Input := do
  g.bindInput op (← g.inputShape op)

/-- Binds the inputs of operations; the failures are collected. -/
def bindEach (g : Registry) : List Shape → List Input × List Failure
  | [] => ([], [])
  | op :: rest =>
    let (inputs, failures) := bindEach g rest
    match g.bindOperation op with
    | .ok i => (i :: inputs, failures)
    | .error f => (inputs, .within (.operation op.id.name) f :: failures)

/-- Binds the inputs of all operations of a service. -/
def bindService (g : Registry) (service : ShapeId) : Outcome (List Input × Option Failure) := do
  let ops ← g.catalog.operations service
  let (inputs, failures) := g.bindEach ops
  return (inputs, Failure.ofCollected failures)

end Registry
end Shapewright
