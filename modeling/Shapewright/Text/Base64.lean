import Shapewright.Text.Bytes

/-!
# Base 64

Three bytes are written as four characters of a fixed alphabet, the last group padded with `=`.
Line ends inside the text are skipped.

* `encode` — bytes to text.
* `decode` — text to bytes, or the index of the offending byte.
-/

set_option autoImplicit false

namespace Shapewright
namespace Base64

/-- The alphabet, by value. -/
def alphabet : List Char :=
  "ABCDEFGHIJKLMNOPQRSTUVWXYZabcdefghijklmnopqrstuvwxyz0123456789+/".toList

/-- The character of a value below 64. -/
def digit (n : Nat) : Char :=
  alphabet.getD n '='

/-- The value of a character of the alphabet. -/
def digitValue? (b : UInt8) : Option Nat :=
  alphabet.findIdx? fun c => c.toNat == b.toNat

/-- Bytes as text. -/
def encode : Bytes → List Char
  | [] => []
  | [a] => [digit (a.toNat / 4), digit (a.toNat % 4 * 16), '=', '=']
  | [a, b] =>
    [digit (a.toNat / 4), digit (a.toNat % 4 * 16 + b.toNat / 16), digit (b.toNat % 16 * 4), '=']
  | a :: b :: c :: rest =>
    digit (a.toNat / 4) :: digit (a.toNat % 4 * 16 + b.toNat / 16)
      :: digit (b.toNat % 16 * 4 + c.toNat / 64) :: digit (c.toNat % 64) :: encode rest

/-- Whether a byte ends a line. -/
def isLineEnd (b : UInt8) : Bool :=
  b.toNat == 0x0A || b.toNat == 0x0D

/-- Whether a byte is the padding character. -/
def isPad (b : UInt8) : Bool :=
  b.toNat == 0x3D

/-- The bytes of a group of values; a short group has been padded, and its surplus bits are
dropped. -/
def group : List Nat → Bytes
  | [a, b] => [UInt8.ofNat (a * 4 + b / 16)]
  | [a, b, c] => [UInt8.ofNat (a * 4 + b / 16), UInt8.ofNat (b % 16 * 16 + c / 4)]
  | [a, b, c, d] =>
    [UInt8.ofNat (a * 4 + b / 16), UInt8.ofNat (b % 16 * 16 + c / 4), UInt8.ofNat (c % 4 * 64 + d)]
  | _ => []

/-- What may follow the padding: line ends only. The index is that of the first byte. -/
def finish (values : List Nat) (i : Nat) (bs : Bytes) : Except Nat Bytes :=
  let skipped := (bs.takeWhile isLineEnd).length
  if (bs.drop skipped).isEmpty then .ok (group values) else .error (i + skipped)

/-- What follows the first `=` of a group, which stands at `i - 1`. -/
def padding (total : Nat) (values : List Nat) (i : Nat) (bs : Bytes) : Except Nat Bytes :=
  match values.length with
  | 2 =>
    let skipped := (bs.takeWhile isLineEnd).length
    match bs.drop skipped with
    | [] => .error total
    | b :: rest =>
      if isPad b then finish values (i + skipped + 1) rest else .error (i + skipped - 1)
  | 3 => finish values i bs
  | _ => .error (i - 1)

/-- Reads the bytes from index `i` on, `values` being those of the group that is under way. -/
def decodeFrom (total : Nat) (values : List Nat) (i : Nat) : Bytes → Except Nat Bytes
  | [] => if values.isEmpty then .ok [] else .error (total - values.length)
  | b :: rest =>
    match digitValue? b with
    | some v =>
      if values.length == 3 then
        (decodeFrom total [] (i + 1) rest).map (group (values ++ [v]) ++ ·)
      else decodeFrom total (values ++ [v]) (i + 1) rest
    | none =>
      if isLineEnd b then decodeFrom total values (i + 1) rest
      else if isPad b then padding total values (i + 1) rest
      else .error i

/-- The bytes that a text stands for, or the index of the byte at which it goes wrong. -/
def decode (text : Bytes) : Except Nat Bytes :=
  decodeFrom text.length [] 0 text

end Base64
end Shapewright
