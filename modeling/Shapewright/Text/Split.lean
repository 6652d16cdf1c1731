/-!
# Splitting, joining and trimming text

Texts are `String`s; everything that looks at their inside does so on the list of characters, where
the library's list lemmas apply.

* `split`, `lines` — the pieces between separators; always at least one.
* `cut` — the two sides of the first separator.
* `trimBy`, `trimLeftBy`, `trimRightBy` — without the characters of a class at the ends.
* `startsWith`, `endsWith`, `dropStart?` — comparing an end with a given text.
-/

set_option autoImplicit false

namespace Shapewright
namespace Text

/-- The pieces of a text between the occurrences of `sep`. A text without it is one piece. -/
def split (sep : Char) (s : String) : List String :=
  (s.toList.splitOn sep).map String.ofList

/-- The lines of a text, without their newlines. -/
def lines (s : String) : List String :=
  split '\n' s

/-- The sides of the first `sep`, if there is one. -/
def cut (sep : Char) (s : String) : Option (String × String) :=
  match s.toList.dropWhile (· != sep) with
  | [] => none
  | _ :: rest => some (String.ofList (s.toList.takeWhile (· != sep)), String.ofList rest)

/-- The list without the longest end whose members satisfy `p`. -/
def dropWhileEnd {α : Type} (p : α → Bool) (xs : List α) : List α :=
  (xs.reverse.dropWhile p).reverse

/-- The text without leading characters that satisfy `p`. -/
def trimLeftBy (p : Char → Bool) (s : String) : String :=
  String.ofList (s.toList.dropWhile p)

/-- The text without trailing characters that satisfy `p`. -/
def trimRightBy (p : Char → Bool) (s : String) : String :=
  String.ofList (dropWhileEnd p s.toList)

/-- The text without the characters that satisfy `p` at either end. -/
def trimBy (p : Char → Bool) (s : String) : String :=
  String.ofList (dropWhileEnd p (s.toList.dropWhile p))

/-- Whether `s` begins with `start`. -/
def startsWith (start s : String) : Bool :=
  start.toList.isPrefixOf s.toList

/-- Whether `s` finishes with `finish`. -/
def endsWith (finish s : String) : Bool :=
  finish.toList.isSuffixOf s.toList

/-- What follows `start` in a text that begins with it. -/
def dropStart? (start s : String) : Option String :=
  if startsWith start s then some (String.ofList (s.toList.drop start.toList.length)) else none

/-- The text with every `c` replaced. -/
def replaceChar (c : Char) (by_ : String) (s : String) : String :=
  String.ofList (s.toList.flatMap fun d => if d == c then by_.toList else [d])

/-- Whether a character occurs in a text. -/
def hasChar (c : Char) (s : String) : Bool :=
  s.toList.contains c

/-- The text followed by as many blanks as it takes to reach `width` characters. -/
def padRight (width : Nat) (s : String) : String :=
  s ++ String.ofList (List.replicate (width - s.toList.length) ' ')

/-- The decimal digits of a natural number, with leading zeros up to `width`. -/
def padNat (width n : Nat) : String :=
  let digits := Nat.toDigits 10 n
  String.ofList (List.replicate (width - digits.length) '0' ++ digits)

/-- The items in order, each kept only where its key occurs for the first time. -/
def firstBy {α κ : Type} [BEq κ] (key : α → κ) : List α → List α
  | [] => []
  | x :: xs => x :: (firstBy key xs).filter fun y => !(key y == key x)

/-- Texts sorted by their characters' code points, which is also the order of their UTF-8 bytes. -/
def sorted (texts : List String) : List String :=
  texts.mergeSort fun a b => decide (a ≤ b)

end Text
end Shapewright
