import Shapewright.Number.Binary
import Shapewright.Number.Digits

/-!
# Shortest decimal digits

A binary number is written with the fewest decimal digits that read back as the same number.  The
numbers that read back are an interval around it, which reaches half way to both neighbours; of two
decimals of the same length inside it the nearer one is taken.

* `Decimals` — digits and the position of the point.
* `shortest` — the fewest digits.
* `general`, `positional` — the two layouts: with an exponent where the number is large or small,
  and without one.
-/

set_option autoImplicit false

namespace Shapewright
namespace Number

/-- The number `0.d₁d₂… * 10 ^ point`; the digits neither start nor end with a zero, and zero has
none. -/
structure Decimals where
  digits : List Char
  point : Int
  deriving DecidableEq, Repr

/-- The interval of numbers that read back as `m * 2 ^ e`, scaled by a common factor so that its
ends are integers: the number itself, the lower end, the upper end and the factor as a quotient. -/
structure Neighbourhood where
  exact : Nat
  lower : Nat
  upper : Nat
  /-- The unit the other three are counted in, as a denominator. -/
  unit : Nat
  /-- Whether the ends themselves read back. -/
  closed : Bool

/-- The neighbourhood of a positive number of a format. Below a power of two the next number is half
as far away as above it. -/
def neighbourhood (f : Format) (m : Nat) (e : Int) : Neighbourhood :=
  let narrow := m == Nat.pow 2 (f.precision - 1) && e != f.minExponent
  -- quarters of the last place
  let (scale, unit) :=
    if 2 ≤ e then (Nat.pow 2 (e - 2).toNat, 1) else (1, Nat.pow 2 (2 - e).toNat)
  { exact := 4 * m * scale
    lower := (4 * m - if narrow then 1 else 2) * scale
    upper := (4 * m + 2) * scale
    unit
    closed := m % 2 == 0 }

/-- Whether `a / b`, in the unit of the neighbourhood, reads back. -/
def Neighbourhood.contains (n : Neighbourhood) (a b : Nat) : Bool :=
  let above := if n.closed then decide (n.lower * b ≤ a) else decide (n.lower * b < a)
  let below := if n.closed then decide (a ≤ n.upper * b) else decide (a < n.upper * b)
  above && below

/-- The greatest `k` with `10 ^ k ≤ num / den`, for positive numbers, starting from an estimate that
may be too high by a few. -/
def floorLog10 (num den : Nat) : Int :=
  let guess : Int := ((Nat.log2 num : Int) - Nat.log2 den + 1) * 30103 / 100000 + 1
  let fits := fun (k : Int) =>
    if 0 ≤ k then decide (den * Nat.pow 10 k.toNat ≤ num)
    else decide (den ≤ num * Nat.pow 10 (-k).toNat)
  if fits guess then guess
  else if fits (guess - 1) then guess - 1
  else if fits (guess - 2) then guess - 2
  else guess - 3

/-- Tries `count` digits, then more, and takes the first decimal that reads back. Of two with as many
digits the nearer one is taken, and of two equally near ones the even one. -/
def shortestFrom (n : Neighbourhood) (top : Int) : Nat → Nat → Nat × Int
  | 0, _ => (0, 0)
  | tries + 1, count =>
    -- decimals of this length are the multiples of `10 ^ place`
    let place := top - count + 1
    let (a, b) :=
      if 0 ≤ place then (n.unit * Nat.pow 10 place.toNat, 1)
      else (n.unit, Nat.pow 10 (-place).toNat)
    let q := n.exact * b / a
    let low := n.contains (q * a) b
    let high := n.contains ((q + 1) * a) b
    let twice := 2 * (n.exact * b - q * a)
    let preferLow := twice < a || (twice == a && q % 2 == 0)
    if low && (preferLow || !high) then (q, place)
    else if high then (q + 1, place)
    else shortestFrom n top tries (count + 1)

/-- The fewest digits that read back as `m * 2 ^ e`. -/
def shortest (f : Format) (m : Nat) (e : Int) : Decimals :=
  if m == 0 then ⟨[], 0⟩
  else
    let n := neighbourhood f m e
    let top := floorLog10 n.exact n.unit
    let (q, place) := shortestFrom n top 20 1
    let written := Nat.toDigits 10 q
    ⟨Text.dropWhileEnd (· == '0') written, place + written.length⟩

/-- Digits with a point at its place. -/
def Decimals.plain (d : Decimals) : List Char :=
  if d.digits.isEmpty then ['0']
  else if d.point ≤ 0 then
    '0' :: '.' :: List.replicate (-d.point).toNat '0' ++ d.digits
  else
    let p := d.point.toNat
    let whole := d.digits.take p
    let rest := d.digits.drop p
    whole ++ List.replicate (p - d.digits.length) '0' ++ (if rest.isEmpty then [] else '.' :: rest)

/-- Digits with an exponent: one digit before the point, and a sign and at least `width` digits in
the exponent. -/
def Decimals.scientific (width : Nat) (d : Decimals) : List Char :=
  let e := d.point - 1
  let rest := d.digits.drop 1
  d.digits.take 1 ++ (if rest.isEmpty then [] else '.' :: rest)
    ++ 'e' :: (if e < 0 then '-' else '+') :: (Text.padNat width e.natAbs).toList

/-- Layout with an exponent where the first digit stands at `10 ^ 6` or above, or below
`10 ^ (-4)`. -/
def Decimals.general (d : Decimals) : List Char :=
  if d.digits.isEmpty then ['0']
  else if d.point - 1 < -4 ∨ 6 ≤ d.point - 1 then d.scientific 2
  else d.plain

/-- A number as text, given how its digits are laid out. -/
def Binary.textBy (f : Format) (layout : Decimals → List Char) : Binary → String
  | .nan => "NaN"
  | .infinite negative => if negative then "-Inf" else "+Inf"
  | .finite negative m e =>
    String.ofList ((if negative then ['-'] else []) ++ layout (shortest f m e))

/-- A number as text, with an exponent where it is large or small. -/
def Binary.general (f : Format) (x : Binary) : String :=
  x.textBy f Decimals.general

/-- A number as text, without an exponent. -/
def Binary.positional (f : Format) (x : Binary) : String :=
  x.textBy f Decimals.plain

end Number
end Shapewright
