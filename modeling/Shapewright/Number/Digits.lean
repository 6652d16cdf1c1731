import Shapewright.Text.Split

/-!
# Decimal digits

* `value` — the number that digits spell.
* `readNat?`, `readInt?` — plain decimal integers of any size.
* `readWord` — an integer that has to fit a number of bits.
-/

set_option autoImplicit false

namespace Shapewright
namespace Number

/-- ASCII decimal digits. -/
def isDigit (c : Char) : Bool := '0' ≤ c && c ≤ '9'

/-- The value of a digit. -/
def digitValue (c : Char) : Nat := c.toNat - 0x30

/-- The number that decimal digits spell. -/
def value (digits : List Char) : Nat :=
  digits.foldl (fun n c => n * 10 + digitValue c) 0

/-- The number that a non-empty text of digits spells. -/
def readNat? (cs : List Char) : Option Nat :=
  if cs.isEmpty || !cs.all isDigit then none else some (value cs)

/-- Splits an optional sign off; the flag is set for a minus. -/
def splitSign : List Char → Bool × List Char
  | '-' :: rest => (true, rest)
  | '+' :: rest => (false, rest)
  | cs => (false, cs)

/-- The integer with the given sign and magnitude. -/
def signed (negative : Bool) (n : Nat) : Int :=
  if negative then -(n : Int) else n

/-- An integer with an optional sign, of any size. -/
def readInt? (s : String) : Option Int :=
  let (negative, digits) := splitSign s.toList
  (readNat? digits).map (signed negative)

/-- Why a text is not a number of the wanted type. -/
inductive Cause where
  | invalidSyntax
  | outOfRange
  deriving DecidableEq, Repr

/-- The wording of a cause. -/
def Cause.message : Cause → String
  | .invalidSyntax => "invalid syntax"
  | .outOfRange => "value out of range"

/-- Reads digits from left to right, giving up as soon as the number passes `limit`: whether a text
is out of range can be known before the rest of it turns out to be malformed. -/
def readUpTo (limit : Nat) (n : Nat) : List Char → Except Cause Nat
  | [] => .ok n
  | c :: rest =>
    if !isDigit c then .error .invalidSyntax
    else if limit < n * 10 + digitValue c then .error .outOfRange
    else readUpTo limit (n * 10 + digitValue c) rest

/-- An integer with an optional sign that fits a signed word of `bits` bits. -/
def readWord (bits : Nat) (s : String) : Except Cause Int := do
  let (negative, digits) := splitSign s.toList
  if digits.isEmpty then throw .invalidSyntax
  let n ← readUpTo (Nat.pow 2 bits - 1) 0 digits
  let limit := Nat.pow 2 (bits - 1)
  if (if negative then limit < n else limit ≤ n) then throw .outOfRange
  return signed negative n

/-- The integer that remains of `n` in a signed word of `bits` bits. -/
def wrap (bits : Nat) (n : Int) : Int :=
  n.bmod (Nat.pow 2 bits)

end Number
end Shapewright
