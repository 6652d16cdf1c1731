import Shapewright.Text.Bytes
import Shapewright.Text.Split

/-!
# White space

* `isBlank` — the characters of Unicode's white space class.
* `trim` — a text without white space at its ends; `Bytes.trim` — the same for bytes that need not be a
  text.
* `fields` — the words of a text.
* `isAsciiBlank` — the six ASCII members of the class.
-/

set_option autoImplicit false

namespace Shapewright
namespace Text

/-- Tab to carriage return, and the space. -/
def isAsciiBlank (c : Char) : Bool :=
  (0x09 ≤ c.toNat && c.toNat ≤ 0x0D) || c == ' '

/-- White space in the sense of Unicode. -/
def isBlank (c : Char) : Bool :=
  isAsciiBlank c ||
    [0x85, 0xA0, 0x1680, 0x2028, 0x2029, 0x202F, 0x205F, 0x3000].contains c.toNat ||
    (0x2000 ≤ c.toNat && c.toNat ≤ 0x200A)

/-- The text without white space at its ends. -/
def trim (s : String) : String :=
  trimBy isBlank s

/-- The maximal runs of characters that are not white space. -/
def words (cs : List Char) : List (List Char) :=
  (cs.splitOnP isBlank).filter fun w => !w.isEmpty

/-- The words of a text. -/
def fields (s : String) : List String :=
  (words s.toList).map String.ofList

end Text

namespace Bytes

/-- Whether a piece is white space. -/
def Piece.isBlank : Piece → Bool
  | .char c => Text.isBlank c
  | .stray _ => false

/-- The bytes of a piece. -/
def Piece.bytes : Piece → Bytes
  | .char c => String.utf8EncodeChar c
  | .stray b => [b]

/-- The bytes without white space at their ends. -/
def trim (bs : Bytes) : Bytes :=
  (Text.dropWhileEnd Piece.isBlank ((pieces bs).dropWhile Piece.isBlank)).flatMap Piece.bytes

end Bytes
end Shapewright
