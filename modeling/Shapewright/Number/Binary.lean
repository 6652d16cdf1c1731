/-!
# Binary floating point

A number of a binary format is a sign, a mantissa and a power of two; or an infinity, or no number.
Each operation is carried out exactly on rational numbers and rounded once, to the nearest
number of the format and to the even one of two.

* `Format`, `double`, `single` — precision and range of a format.
* `Binary` — its numbers.
* `Format.round` — the number nearest to a rational one.
* `Binary.add`, `sub`, `mul`, `div` — arithmetic.
* `Binary.toRat?` — the exact value.
-/

set_option autoImplicit false

namespace Shapewright
namespace Number

/-- A binary format: mantissas have `precision` bits, and finite numbers are multiples of
`2 ^ minExponent` below `2 ^ limit`. -/
structure Format where
  precision : Nat
  minExponent : Int
  limit : Int
  deriving DecidableEq, Repr

/-- The format of 64 bits. -/
def double : Format := ⟨53, -1074, 1024⟩

/-- The format of 32 bits. -/
def single : Format := ⟨24, -149, 128⟩

/-- A number of a binary format. -/
inductive Binary where
  /-- The number `mantissa * 2 ^ exponent`, negated where `negative`; zero has a sign too. -/
  | finite (negative : Bool) (mantissa : Nat) (exponent : Int)
  | infinite (negative : Bool)
  | nan
  deriving DecidableEq, Repr, Inhabited

/-- The power of two with an exponent of either sign. -/
def pow2 (e : Int) : Rat := (2 : Rat) ^ e

/-- The nearest integer to `num / den`, and the even one of two. -/
def divNearest (num den : Nat) : Nat :=
  let q := num / den
  let r := num % den
  if 2 * r < den then q
  else if den < 2 * r then q + 1
  else if q % 2 == 0 then q else q + 1

/-- The greatest `e` with `2 ^ e ≤ num / den`, for positive numbers. -/
def floorLog2 (num den : Nat) : Int :=
  let guess : Int := (Nat.log2 num : Int) - (Nat.log2 den : Int)
  let fits :=
    if 0 ≤ guess then decide (den * Nat.pow 2 guess.toNat ≤ num)
    else decide (den ≤ num * Nat.pow 2 (-guess).toNat)
  if fits then guess else guess - 1

/-- The number of a format nearest to a rational one; beyond the range it is infinite. The sign is
given apart, for the sake of zero. -/
def Format.round (f : Format) (negative : Bool) (magnitude : Rat) : Binary :=
  let num := magnitude.num.natAbs
  let den := magnitude.den
  if num == 0 then .finite negative 0 f.minExponent
  else
    let e := max (floorLog2 num den - ((f.precision : Int) - 1)) f.minExponent
    let m :=
      if 0 ≤ e then divNearest num (den * Nat.pow 2 e.toNat)
      else divNearest (num * Nat.pow 2 (-e).toNat) den
    let (m, e) :=
      if m == Nat.pow 2 f.precision then (Nat.pow 2 (f.precision - 1), e + 1) else (m, e)
    if f.limit < e + f.precision then .infinite negative
    else .finite negative m e

/-- The number of a format nearest to a rational one. -/
def Format.ofRat (f : Format) (x : Rat) : Binary :=
  f.round (decide (x < 0)) x.abs

namespace Binary

/-- The exact value of a finite number. -/
def toRat? : Binary → Option Rat
  | .finite negative m e => some ((if negative then -(m : Rat) else m) * pow2 e)
  | _ => none

/-- The sign; what is not a number has none. -/
def isNegative : Binary → Bool
  | .finite negative _ _ => negative
  | .infinite negative => negative
  | .nan => false

/-- Whether a number is zero, with either sign. -/
def isZero : Binary → Bool
  | .finite _ m _ => m == 0
  | _ => false

/-- Whether a number is finite. -/
def isFinite : Binary → Bool
  | .finite .. => true
  | _ => false

/-- Whether a number is infinite, with either sign. -/
def isInfinite : Binary → Bool
  | .infinite _ => true
  | _ => false

/-- Numerical equality: zeros are equal whatever their sign, and `nan` equals nothing. -/
def eq : Binary → Binary → Bool
  | .nan, _ => false
  | _, .nan => false
  | .infinite a, .infinite b => a == b
  | x, y =>
    match x.toRat?, y.toRat? with
    | some a, some b => a == b
    | _, _ => false

/-- The number with its sign changed. -/
def neg : Binary → Binary
  | .finite negative m e => .finite (!negative) m e
  | .infinite negative => .infinite (!negative)
  | .nan => .nan

/-- A sum, rounded once. -/
def add (f : Format) : Binary → Binary → Binary
  | .nan, _ => .nan
  | _, .nan => .nan
  | .infinite a, .infinite b => if a == b then .infinite a else .nan
  | .infinite a, _ => .infinite a
  | _, .infinite b => .infinite b
  | .finite a m e, .finite b n g =>
    let x := (if a then -(m : Rat) else m) * pow2 e
    let y := (if b then -(n : Rat) else n) * pow2 g
    if x + y == 0 then .finite (a && b) 0 f.minExponent else f.ofRat (x + y)

/-- A difference, rounded once. -/
def sub (f : Format) (x y : Binary) : Binary :=
  add f x y.neg

/-- A product, rounded once. -/
def mul (f : Format) : Binary → Binary → Binary
  | .nan, _ => .nan
  | _, .nan => .nan
  | .finite a m e, .finite b n g => f.round (a != b) ((m * n : Nat) * pow2 (e + g))
  | x, y => if x.isZero || y.isZero then .nan else .infinite (x.isNegative != y.isNegative)

/-- A quotient, rounded once. -/
def div (f : Format) : Binary → Binary → Binary
  | .nan, _ => .nan
  | _, .nan => .nan
  | .infinite _, .infinite _ => .nan
  | .infinite a, y => .infinite (a != y.isNegative)
  | x, .infinite b => .finite (x.isNegative != b) 0 f.minExponent
  | .finite a m e, .finite b n g =>
    if n == 0 then (if m == 0 then .nan else .infinite (a != b))
    else f.round (a != b) ((m : Rat) / n * pow2 (e - g))

/-- The integer part of a finite number, towards zero. -/
def truncate? : Binary → Option Int
  | .finite negative m e =>
    let magnitude := if 0 ≤ e then m * Nat.pow 2 e.toNat else m / Nat.pow 2 (-e).toNat
    some (if negative then -(magnitude : Int) else magnitude)
  | _ => none

/-- Whether a finite number is an integer. -/
def isIntegral (x : Binary) : Bool :=
  match x.toRat?, x.truncate? with
  | some r, some n => r == (n : Rat)
  | _, _ => false

/-- The least number of a signed word of 64 bits. -/
def minWord : Int := -Nat.pow 2 63

/-- The greatest number of a signed word of 64 bits. -/
def maxWord : Int := Nat.pow 2 63 - 1

/-- The integer part in a signed word of 64 bits. What does not fit, is infinite or is no number
becomes the least word. -/
def toWord (x : Binary) : Int :=
  match x.truncate? with
  | some n => if minWord ≤ n ∧ n ≤ maxWord then n else minWord
  | none => minWord

/-- The integer part, cut off at the ends of a signed word of 64 bits; `nan` becomes zero. -/
def saturate (x : Binary) : Int :=
  match x with
  | .nan => 0
  | .infinite negative => if negative then minWord else maxWord
  | .finite .. =>
    match x.truncate? with
    | some n => max minWord (min maxWord n)
    | none => 0

end Binary
end Number
end Shapewright
