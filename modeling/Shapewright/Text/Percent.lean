import Shapewright.Text.Bytes

/-!
# Percent coding

A byte of a request target is written as itself or as `%` and two digits.  Which bytes may stand for
themselves depends on the part of the target.

* `escape` — writes bytes, given the class that may stand for itself.
* `unescape?` — reads them back; a `%` without two digits is refused.
* `inPath`, `inSegment` — the two classes of a path.
-/

set_option autoImplicit false

namespace Shapewright
namespace Percent

/-- Letters, digits and `-_.~` stand for themselves everywhere. -/
def isUnreserved (b : UInt8) : Bool :=
  let n := b.toNat
  (0x61 ≤ n && n ≤ 0x7A) || (0x41 ≤ n && n ≤ 0x5A) || (0x30 ≤ n && n ≤ 0x39)
    || "-_.~".toList.any (·.toNat == n)

/-- The bytes that stand for themselves in a path, its separators included. -/
def inPath (b : UInt8) : Bool :=
  isUnreserved b || "$&+,/:;=@".toList.any (·.toNat == b.toNat)

/-- The bytes that stand for themselves in one segment of a path. -/
def inSegment (b : UInt8) : Bool :=
  isUnreserved b || "$&+=:@".toList.any (·.toNat == b.toNat)

/-- The bytes that a path may show unescaped, though writing one would escape some of them; `%` is
among them. -/
def isPathText (b : UInt8) : Bool :=
  inPath b || "!'()*[]%".toList.any (·.toNat == b.toNat)

/-- The byte of an ASCII character. -/
def byte (c : Char) : UInt8 :=
  UInt8.ofNat c.toNat

/-- Writes the bytes outside the class as `%` and two upper case digits. -/
def escape (keep : UInt8 → Bool) (bs : Bytes) : Bytes :=
  bs.flatMap fun b =>
    if keep b then [b]
    else [byte '%', byte (Bytes.hexDigit true (b.toNat / 16)),
      byte (Bytes.hexDigit true (b.toNat % 16))]

/-- The value of a digit of base sixteen given as a byte. -/
def digit? (b : UInt8) : Option Nat :=
  Bytes.hexValue? (Char.ofNat b.toNat)

/-- Reads escaped bytes back. With `plusIsBlank` a `+` stands for a blank. -/
def unescape? (plusIsBlank : Bool) : Bytes → Option Bytes
  | [] => some []
  | b :: rest =>
    if b == byte '%' then
      match rest with
      | hi :: lo :: tail => do
        let h ← digit? hi
        let l ← digit? lo
        let bytes ← unescape? plusIsBlank tail
        return UInt8.ofNat (h * 16 + l) :: bytes
      | _ => none
    else
      let c := if plusIsBlank && b == byte '+' then byte ' ' else b
      (unescape? plusIsBlank rest).map (c :: ·)

end Percent
end Shapewright
