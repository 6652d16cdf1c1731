/-!
# Texts as bytes

A request carries bytes, which need not be a text.  Reading them as UTF-8 gives pieces: the
characters that are properly encoded, and the stray bytes between them.

* `Bytes` — a list of bytes.
* `encode` — the UTF-8 bytes of a text.
* `pieces` — characters and stray bytes, in order.
* `decode?` — the text, if there are no stray bytes.
* `readable` — the text with stray bytes replaced.
* `isCut` — whether the bytes are the beginning of a character.
* `hex` — two lower case digits per byte.
-/

set_option autoImplicit false

namespace Shapewright

/-- A byte string. -/
abbrev Bytes := List UInt8

namespace Bytes

/-- The UTF-8 encoding of a text. -/
def encode (s : String) : Bytes :=
  s.toList.flatMap String.utf8EncodeChar

/-- What UTF-8 makes of some bytes: a character, or a byte that belongs to none. -/
inductive Piece where
  | char (c : Char)
  | stray (b : UInt8)
  deriving DecidableEq, Repr

/-- The character, unless the piece is a stray byte. -/
def Piece.char? : Piece → Option Char
  | .char c => some c
  | .stray _ => none

/-- A byte that continues a character carries six bits. -/
def isTail (b : UInt8) : Bool :=
  0x80 ≤ b.toNat && b.toNat ≤ 0xBF

/-- The character that two bytes encode, if they do. -/
def char2? (a b : UInt8) : Option Char :=
  if 0xC2 ≤ a.toNat && a.toNat ≤ 0xDF && isTail b then
    some (Char.ofNat ((a.toNat - 0xC0) * 0x40 + (b.toNat - 0x80)))
  else none

/-- The character that three bytes encode, if they do: no overlong form and no surrogate. -/
def char3? (a b c : UInt8) : Option Char :=
  if 0xE0 ≤ a.toNat && a.toNat ≤ 0xEF && isTail b && isTail c
      && (a.toNat != 0xE0 || 0xA0 ≤ b.toNat) && (a.toNat != 0xED || b.toNat ≤ 0x9F) then
    some (Char.ofNat ((a.toNat - 0xE0) * 0x1000 + (b.toNat - 0x80) * 0x40 + (c.toNat - 0x80)))
  else none

/-- The character that four bytes encode, if they do: no overlong form and no more than
`U+10FFFF`. -/
def char4? (a b c d : UInt8) : Option Char :=
  if 0xF0 ≤ a.toNat && a.toNat ≤ 0xF4 && isTail b && isTail c && isTail d
      && (a.toNat != 0xF0 || 0x90 ≤ b.toNat) && (a.toNat != 0xF4 || b.toNat ≤ 0x8F) then
    some (Char.ofNat ((a.toNat - 0xF0) * 0x40000 + (b.toNat - 0x80) * 0x1000
      + (c.toNat - 0x80) * 0x40 + (d.toNat - 0x80)))
  else none

/-- A byte on its own: an ASCII character, or stray. -/
def piece1 (a : UInt8) : Piece :=
  if a.toNat < 0x80 then .char (Char.ofNat a.toNat) else .stray a

/-- Characters and stray bytes of a byte string, in order. A byte that does not start a complete
character is stray, and reading goes on right after it. -/
def pieces : Bytes → List Piece
  | [] => []
  | [a] => [piece1 a]
  | [a, b] =>
    match char2? a b with
    | some ch => [.char ch]
    | none => piece1 a :: pieces [b]
  | [a, b, c] =>
    match char2? a b, char3? a b c with
    | some ch, _ => .char ch :: pieces [c]
    | _, some ch => [.char ch]
    | _, _ => piece1 a :: pieces [b, c]
  | a :: b :: c :: d :: rest =>
    match char2? a b, char3? a b c, char4? a b c d with
    | some ch, _, _ => .char ch :: pieces (c :: d :: rest)
    | _, some ch, _ => .char ch :: pieces (d :: rest)
    | _, _, some ch => .char ch :: pieces rest
    | _, _, _ => piece1 a :: pieces (b :: c :: d :: rest)

/-- The text that the bytes encode, unless some are stray. -/
def decode? (bs : Bytes) : Option String :=
  ((pieces bs).mapM Piece.char?).map String.ofList

/-- The text that the bytes encode, with `U+FFFD` in the place of stray bytes. -/
def readable (bs : Bytes) : String :=
  String.ofList ((pieces bs).map fun p => p.char?.getD '\uFFFD')

/-- Whether the bytes are the beginning of a character, but not all of it. -/
def isCut : Bytes → Bool
  | [a] => 0xC2 ≤ a.toNat && a.toNat ≤ 0xF4
  | [a, b] => (char3? a b 0x80).isSome || (char4? a b 0x80 0x80).isSome
  | [a, b, c] => (char4? a b c 0x80).isSome
  | _ => false

/-- A digit of base sixteen. -/
def hexDigit (upper : Bool) (n : Nat) : Char :=
  if n < 10 then Char.ofNat (0x30 + n)
  else if upper then Char.ofNat (0x41 + (n - 10)) else Char.ofNat (0x61 + (n - 10))

/-- The value of a digit of base sixteen, in either case. -/
def hexValue? (c : Char) : Option Nat :=
  if '0' ≤ c && c ≤ '9' then some (c.toNat - 0x30)
  else if 'a' ≤ c && c ≤ 'f' then some (c.toNat - 0x61 + 10)
  else if 'A' ≤ c && c ≤ 'F' then some (c.toNat - 0x41 + 10)
  else none

/-- Two lower case digits for each byte. -/
def hex (bs : Bytes) : String :=
  String.ofList (bs.flatMap fun b => [hexDigit false (b.toNat / 16), hexDigit false (b.toNat % 16)])

/-- The bytes that pairs of digits spell. -/
def ofHex? : List Char → Option Bytes
  | [] => some []
  | [_] => none
  | a :: b :: rest => do
    let hi ← hexValue? a
    let lo ← hexValue? b
    let tail ← ofHex? rest
    return UInt8.ofNat (hi * 16 + lo) :: tail

end Bytes
end Shapewright
