import Shapewright.Number.Digits
import Shapewright.Number.Binary
import Shapewright.Text.Bytes

/-!
# Written numbers with a fraction

The spellings of floating point numbers: decimal with an optional exponent, hexadecimal with an
exponent of two, infinities and `nan`.  Single underscores may stand between digits.

* `Numeral` — a spelled number, exact but for an exponent of more than five digits, which is cut.
* `Numeral.read?` — the grammar.
* `Format.read` — the nearest number of a format, refusing what is beyond its range.
-/

set_option autoImplicit false

namespace Shapewright
namespace Number

/-- A spelled number: `mantissa * base ^ exponent`, or one of the words. -/
inductive Numeral where
  | finite (negative : Bool) (mantissa : Nat) (base : Nat) (exponent : Int)
  | infinite (negative : Bool)
  | nan
  deriving DecidableEq, Repr

namespace Numeral

/-- Whether the underscores of a number stand one by one after a digit and before one. `digit` says
what counts as a digit, `afterDigit` whether one was just read. -/
def underscoresOk (digit : Char → Bool) (afterDigit : Bool) : List Char → Bool
  | [] => true
  | '_' :: next :: rest => afterDigit && digit next && underscoresOk digit true rest
  | ['_'] => false
  | c :: rest => underscoresOk digit (digit c) rest

/-- Digits of base ten or sixteen. -/
def isDigitOf (hex : Bool) (c : Char) : Bool :=
  if hex then (Bytes.hexValue? c).isSome else isDigit c

/-- The number that digits of base ten or sixteen spell. -/
def mantissa (hex : Bool) (digits : List Char) : Nat :=
  digits.foldl (fun n c => n * (if hex then 16 else 10) + (Bytes.hexValue? c).getD 0) 0

/-- From here on the digits of an exponent no longer count. -/
def exponentBound : Nat := 10000

/-- The number that the digits of an exponent spell. Those behind a number that has reached the bound are
passed over: whatever they are, the exponent is large. -/
def boundedExponent (digits : List Char) : Nat :=
  digits.foldl (fun n c => if n < exponentBound then n * 10 + (Bytes.hexValue? c).getD 0 else n) 0

/-- An exponent: an optional sign and at least one digit. -/
def exponent? (cs : List Char) : Option Int :=
  let (negative, digits) := splitSign cs
  if digits.isEmpty || !digits.all isDigit then none
  else some (signed negative (boundedExponent digits))

/-- Digits with at most one point among them, and an exponent behind the letter `mark`. Underscores
are gone by now. -/
def unsigned? (hex : Bool) (cs : List Char) : Option (Nat × Int) := do
  let mark := if hex then 'p' else 'e'
  let isMark := fun (c : Char) => c.toLower == mark
  let body := cs.takeWhile fun c => !isMark c
  let whole := body.takeWhile fun c => c != '.'
  let fraction := (body.dropWhile fun c => c != '.').drop 1
  let digits := whole ++ fraction
  if digits.isEmpty || !digits.all (isDigitOf hex) then none
  let shift : Int := -((fraction.length * if hex then 4 else 1 : Nat) : Int)
  match cs.dropWhile fun c => !isMark c with
  | [] => if hex then none else return (mantissa hex digits, shift)
  | _ :: rest =>
    let e ← exponent? rest
    return (mantissa hex digits, shift + e)

/-- The word a text spells, case aside. -/
def word? (negative signedText : Bool) (cs : List Char) : Option Numeral :=
  let w := String.ofList (cs.map Char.toLower)
  if w == "inf" || w == "infinity" then some (.infinite negative)
  else if w == "nan" && !signedText then some .nan
  else none

/-- The number that a text spells. -/
def read? (s : String) : Option Numeral :=
  let (negative, cs) := splitSign s.toList
  let signedText := cs.length != s.toList.length
  match word? negative signedText cs with
  | some n => some n
  | none =>
    let hex := match cs with
      | '0' :: x :: _ :: _ => x == 'x' || x == 'X'
      | _ => false
    let digits := if hex then cs.drop 2 else cs
    if !underscoresOk (isDigitOf hex) hex digits then none
    else (unsigned? hex (digits.filter (· != '_'))).map fun (m, e) =>
      .finite negative m (if hex then 2 else 10) e

/-- The exact magnitude of `mantissa * base ^ exponent`. -/
def magnitude (mantissa base : Nat) (exponent : Int) : Rat :=
  if 0 ≤ exponent then ((mantissa * Nat.pow base exponent.toNat : Nat) : Rat)
  else mkRat mantissa (Nat.pow base (-exponent).toNat)

/-- The nearest number of a format. Numbers far beyond the range of every format are settled by
their number of digits, without being written out. -/
def toBinary (f : Format) : Numeral → Binary
  | .nan => .nan
  | .infinite negative => .infinite negative
  | .finite negative m base e =>
    let bits : Int := if base == 2 then e else 3 * e
    let size : Int := Nat.log2 m
    if m == 0 then .finite negative 0 f.minExponent
    else if 0 ≤ e ∧ f.limit < bits + size then .infinite negative
    else if e < 0 ∧ bits + size + 2 < f.minExponent then .finite negative 0 f.minExponent
    else f.round negative (magnitude m base e)

end Numeral

/-- The number of a format nearest to the one a text spells. A spelled number beyond the range is
out of range; the infinities themselves can be spelled. -/
def Format.read (f : Format) (s : String) : Except Cause Binary :=
  match Numeral.read? s with
  | none => .error .invalidSyntax
  | some n =>
    match n, n.toBinary f with
    | .finite .., .infinite _ => .error .outOfRange
    | _, x => .ok x

/-- As `Format.read`, but a spelled number beyond the range is infinite; only text that is no
number fails. -/
def Format.readUnbounded? (f : Format) (s : String) : Option Binary :=
  (Numeral.read? s).map (Numeral.toBinary f)

end Number
end Shapewright
