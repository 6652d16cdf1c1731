import Shapewright.Number.Digits

/-!
# Decimals of any precision

A decimal is an integer and a power of ten, with the power limited to a signed word of 32 bits.

* `Decimal.read` — the spellings, with the reason for refusing a text.
* `Decimal.text` — the plain notation.
-/

set_option autoImplicit false

namespace Shapewright
namespace Number

/-- The number `coefficient * 10 ^ exponent`. -/
structure Decimal where
  coefficient : Int
  exponent : Int
  deriving DecidableEq, Repr

instance : Inhabited Decimal := ⟨⟨0, 0⟩⟩

namespace Decimal

/-- Why a text is no decimal. Each case names the text it complains about. -/
inductive Refusal where
  | exponentNotNumeric (text : String)
  | fractionTooLong (text : String)
  | tooManyPoints (text : String)
  | notNumeric (text : String)
  deriving DecidableEq, Repr

/-- The wording of a refusal. -/
def Refusal.message : Refusal → String
  | .exponentNotNumeric t => "can't convert " ++ t ++ " to decimal: exponent is not numeric"
  | .fractionTooLong t => "can't convert " ++ t ++ " to decimal: fractional part too long"
  | .tooManyPoints t => "can't convert " ++ t ++ " to decimal: too many .s"
  | .notNumeric t => "can't convert " ++ t ++ " to decimal"

/-- Whether a letter introduces the exponent. -/
def isExponentMark (c : Char) : Bool := c == 'e' || c == 'E'

/-- The decimal that a text spells. -/
def read (s : String) : Except Refusal Decimal := do
  let body := String.ofList (s.toList.takeWhile fun c => !isExponentMark c)
  let exponent ← match s.toList.dropWhile fun c => !isExponentMark c with
    | [] => pure (0 : Int)
    | _ :: rest => match readWord 32 (String.ofList rest) with
      | .ok e => pure e
      | .error .outOfRange => throw (.fractionTooLong s)
      | .error .invalidSyntax => throw (.exponentNotNumeric s)
  let (digits, exponent) ← match Text.split '.' body with
    | [whole] => pure (whole, exponent)
    | [whole, fraction] => pure (whole ++ fraction, exponent - fraction.utf8ByteSize)
    | _ => throw (.tooManyPoints body)
  match readInt? digits with
  | none => throw (.notNumeric body)
  | some n =>
    if exponent < -Nat.pow 2 31 ∨ Nat.pow 2 31 ≤ exponent then throw (.fractionTooLong s)
    return ⟨n, exponent⟩

/-- Plain notation: no exponent, no zeros at the end of a fraction, and a minus only before what is
not zero. -/
def text (d : Decimal) : String :=
  let sign := if d.coefficient < 0 then "-" else ""
  if 0 ≤ d.exponent then
    if d.coefficient == 0 then "0"
    else sign ++ toString (d.coefficient.natAbs * Nat.pow 10 d.exponent.toNat)
  else
    let places := (-d.exponent).toNat
    let digits := Nat.toDigits 10 d.coefficient.natAbs
    let padded := List.replicate (places + 1 - digits.length) '0' ++ digits
    let whole := padded.take (padded.length - places)
    let fraction := Text.dropWhileEnd (· == '0') (padded.drop (padded.length - places))
    sign ++ String.ofList (whole ++ if fraction.isEmpty then [] else '.' :: fraction)

end Decimal
end Number
end Shapewright
