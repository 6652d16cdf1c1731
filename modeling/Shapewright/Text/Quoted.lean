import Shapewright.Text.Bytes
import Shapewright.Text.Printable

/-!
# Quoted text

A text between double quotes on one line, from which the text can be read back: the literal form
of generated code and of error messages.  Printable characters stand for themselves, the usual
control characters have a letter, everything else is written by its number.

* `escape`, `quote` — writing.
* `quotePieces` — writing bytes that need not be a text; a stray byte is written by its number.
* `unquote?` — reading back.
-/

set_option autoImplicit false

namespace Shapewright
namespace Text

/-- The last `width` lower case base sixteen digits of a number. -/
def hexDigits : Nat → Nat → List Char
  | 0, _ => []
  | width + 1, n => hexDigits width (n / 16) ++ [Bytes.hexDigit false (n % 16)]

/-- The control characters that are written as a backslash and a letter. -/
def controlLetters : List (Char × Char) :=
  [('\x07', 'a'), ('\x08', 'b'), ('\x0c', 'f'), ('\n', 'n'), ('\r', 'r'), ('\t', 't'), ('\x0b', 'v')]

/-- How a character is written between quotes. -/
def escape (c : Char) : List Char :=
  if c == '"' || c == '\\' then ['\\', c]
  else if isPrintable c then [c]
  else match controlLetters.lookup c with
    | some letter => ['\\', letter]
    | none =>
      if c.toNat < 0x80 then '\\' :: 'x' :: hexDigits 2 c.toNat
      else if c.toNat < 0x10000 then '\\' :: 'u' :: hexDigits 4 c.toNat
      else '\\' :: 'U' :: hexDigits 8 c.toNat

/-- The text between double quotes. -/
def quote (s : String) : String :=
  String.ofList ('"' :: s.toList.flatMap escape ++ ['"'])

/-- Bytes between double quotes, read as UTF-8 as far as they can be. -/
def quoteBytes (bs : Bytes) : String :=
  String.ofList ('"' :: (Bytes.pieces bs).flatMap (fun
    | .char c => escape c
    | .stray b => '\\' :: 'x' :: hexDigits 2 b.toNat) ++ ['"'])

/-- The number that base sixteen digits spell. -/
def hexNumber? (digits : List Char) : Option Nat :=
  digits.foldlM (fun n c => (Bytes.hexValue? c).map (n * 16 + ·)) 0

/-- The character with a code, if there is one. -/
def charOf? (n : Nat) : Option Char :=
  if n.isValidChar then some (Char.ofNat n) else none

/-- The ASCII character with a code; a larger byte is only a part of a character. -/
def asciiOf? (n : Nat) : Option Char :=
  if n < 0x80 then some (Char.ofNat n) else none

/-- Reads the inside of a quoted text up to and including the closing quote, which must be the last
character. -/
def unescape? : List Char → Option (List Char)
  | ['"'] => some []
  | '\\' :: 'x' :: a :: b :: rest => do
    let c ← asciiOf? (← hexNumber? [a, b])
    return c :: (← unescape? rest)
  | '\\' :: 'u' :: a :: b :: c :: d :: rest => do
    let c ← charOf? (← hexNumber? [a, b, c, d])
    return c :: (← unescape? rest)
  | '\\' :: 'U' :: a :: b :: c :: d :: e :: f :: g :: h :: rest => do
    let c ← charOf? (← hexNumber? [a, b, c, d, e, f, g, h])
    return c :: (← unescape? rest)
  | '\\' :: letter :: rest =>
    match (controlLetters.map fun (c, l) => (l, c)).lookup letter with
    | some c => (unescape? rest).map (c :: ·)
    | none =>
      if letter == '"' || letter == '\\' then (unescape? rest).map (letter :: ·) else none
  | c :: rest =>
    if c == '"' || c == '\\' || c == '\n' then none else (unescape? rest).map (c :: ·)
  | [] => none

/-- A character that stands for itself. -/
theorem unescape?_cons {c : Char} {rest : List Char} (hquote : c ≠ '"') (hslash : c ≠ '\\')
    (hline : c ≠ '\n') : unescape? (c :: rest) = (unescape? rest).map (c :: ·) := by
  rw [unescape?] <;> simp [hquote, hslash, hline]

/-- The text that a quoted text stands for. -/
def unquote? (s : String) : Option String :=
  match s.toList with
  | '"' :: rest => (unescape? rest).map String.ofList
  | _ => none

end Text
end Shapewright
