import Shapewright.Catalog
import Shapewright.Comment
import Shapewright.Generated.Types
import Shapewright.Http.Endpoint

/-!
# Summaries

A summary of a service has one line for each of its operations: the names of what goes in and comes
out, and how the operation is reached.

* `Summary.header` — the service itself.
* `Summary.operationLine` — one operation.
* `Summary.text` — the whole summary.
-/

set_option autoImplicit false

namespace Shapewright
namespace Summary

/-- The service, after its documentation. -/
def header (service : Shape) : String :=
  let doc := service.documentation
  (if doc == "" then "" else "//\n" ++ Comment.comment "" "// " doc 80 false ++ "//\n")
    ++ "namespace " ++ service.id.namespace_ ++ "\nservice " ++ service.id.name
    ++ (if service.version == "" then "" else " v" ++ service.version) ++ "\n\n"

/-- The names of the members of an input or output. -/
def memberNames (c : Catalog) (id : ShapeId) : String :=
  if id.isEmpty || id == ShapeId.unit then ""
  else match c.find? id with
    | none => "?"
    | some s => ", ".intercalate (s.memberList.map (·.name))

/-- How an operation is reached, if that is known. -/
def reached (op : Shape) : String :=
  match Endpoint.of op with
  | .ok (some e) => " [" ++ e.method ++ " " ++ e.uri.raw ++ "]"
  | _ => ""

/-- The line of an operation. -/
def operationLine (c : Catalog) (op : Shape) : String :=
  "operation " ++ op.id.name ++ "(" ++ memberNames c op.input ++ ") → (" ++ memberNames c op.output
    ++ ")" ++ reached op ++ "\n"

/-- The summary of a service. -/
def text (c : Catalog) (service : Shape) : Outcome String := do
  let ops ← c.operations service.id
  return header service ++ String.join (ops.map (operationLine c)) ++ "\n"

end Summary
end Shapewright
