import Shapewright.Http.UriPattern
import Shapewright.Naming

/-!
# Where an operation is reached

* `Endpoint` — method, target and status code.
* `Endpoint.of` — the endpoint that an operation's traits describe.
-/

set_option autoImplicit false

namespace Shapewright

/-- Method, target and status code of an operation. -/
structure Endpoint where
  method : String
  uri : UriPattern
  /-- The status of a successful answer; zero where none is given. -/
  code : Int := 0
  deriving DecidableEq, Repr

/-- The endpoint of an operation, if it has one. -/
def Endpoint.of (operation : Shape) : Outcome (Option Endpoint) :=
  match Traits.get? operation.traits Trait.http with
  | none => .ok none
  | some v => do
    let uri ← (UriPattern.parse (v.fieldString "uri")).at_ (.endpoint operation.id)
    let code := (((v.field? "code").bind Node.double?).map Number.Binary.toWord).getD 0
    return some { method := Naming.raised (v.fieldString "method"), uri, code }

end Shapewright
