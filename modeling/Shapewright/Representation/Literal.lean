import Shapewright.Failure
import Shapewright.Number.Shortest
import Shapewright.Shape.Basic

/-!
# Default values as literals

* `literal` — the literal text of a value for a shape.
* `toWholeNumber` — a number cut to an integer of 64 bits.

Numbers are narrowed to the width of the shape's kind; a fraction is dropped toward zero.  Values
that have no literal are refused.
-/

set_option autoImplicit false

namespace Shapewright

/-- A number as an integer of 64 bits: its fraction is dropped, and what is beyond the range is
moved to its end. -/
def toWholeNumber (text : String) : Int :=
  match Number.readWord 64 text with
  | .ok n => n
  | .error _ => ((Number.double.readUnbounded? text).map Number.Binary.saturate).getD 0

/-- The width of the integers of a kind. -/
def Kind.width? : Kind → Option Nat
  | .byte => some 8
  | .short => some 16
  | .integer | .intEnum => some 32
  | .long => some 64
  | _ => none

/-- The floating point format of a kind. -/
def Kind.format? : Kind → Option Number.Format
  | .float => some Number.single
  | .double => some Number.double
  | _ => none

/-- The literal of a truth value. -/
def boolLiteral (b : Bool) : String := if b then "true" else "false"

/-- The literal of a number for a shape. What is infinite has none, whether it is too large or
spelled so. -/
def numberLiteral (s : Shape) (text : String) : Outcome String :=
  match s.kind.width?, s.kind.format? with
  | some bits, _ => .ok (toString (Number.wrap bits (toWholeNumber text)))
  | none, some f => match f.readUnbounded? text with
    | none => .error (.invalidDefault s.id s.kind (.malformed text))
    | some x =>
      if x.isInfinite then .error (.invalidDefault s.id s.kind (.outOfRange text))
      else .ok (x.general f)
  | none, none =>
    if s.kind == .boolean then
      .ok (boolLiteral !((Number.double.readUnbounded? text).map Number.Binary.isZero |>.getD true))
    else .error (.invalidDefault s.id s.kind (.number text))

/-- The literal of a value, which may be absent, for a shape. -/
def literal (s : Shape) (n : Option Node) : Outcome String :=
  match (n.getD ⟨.null⟩).value with
  | .null => .ok "nil"
  | .bool b => .ok (boolLiteral b)
  | .string text => .ok (Text.quote text)
  | .number text => numberLiteral s text
  | _ => .error (.unsupportedDefault s.id s.kind (nodeKind n))

end Shapewright
