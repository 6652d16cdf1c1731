/-!
# Places in a YAML text

A cursor stands between two characters of a text and knows its line and column, which is what
indentation and the extent of keys are judged by.

* `isBreak`, `isGap`, `endsWord` — the characters that part words and lines.
* `Cursor` — a place, with the text after it.
* `skip`, `skipLine`, `skipWhile`, `takeLine` — moving on.
* `atMark` — whether a line starts with `---` or `...`.
-/

set_option autoImplicit false

namespace Shapewright
namespace Yaml

/-- Whether a character ends a line. -/
def isBreak (c : Char) : Bool :=
  c == '\n' || c == '\r' || c == '\u0085' || c == '\u2028' || c == '\u2029'

/-- Whether a character parts words within a line. -/
def isGap (c : Char) : Bool := c == ' ' || c == '\t'

/-- Whether a word ends before a character, or at the end of the text. -/
def endsWord (c : Option Char) : Bool := c.all fun c => isGap c || isBreak c

/-- Whether a line ends before a character, or at the end of the text. -/
def endsLine (c : Option Char) : Bool := c.all isBreak

/-- Whether a character may stand in a text: control characters may not, nor may surrogates and the
two last characters of the first plane. -/
def isAllowed (c : Char) : Bool :=
  let n := c.toNat
  c == '\t' || c == '\n' || c == '\r' || (0x20 ≤ n && n ≤ 0x7E) || n == 0x85
    || (0xA0 ≤ n && n ≤ 0xFFFD) || 0x10000 ≤ n

/-- A place in a text. -/
structure Cursor where
  /-- The text after the place. -/
  rest : List Char
  /-- How long that text is. -/
  left : Nat := rest.length
  line : Nat := 0
  column : Nat := 0
  deriving Repr

namespace Cursor

/-- The next character. -/
def next? (c : Cursor) : Option Char := c.rest.head?

/-- The character after some others. -/
def after? (c : Cursor) (n : Nat) : Option Char := (c.rest.drop n).head?

/-- Whether a certain character comes next. -/
def isAt (c : Cursor) (x : Char) : Bool := c.next? == some x

/-- Moves over characters of a line. -/
def skip (c : Cursor) (n : Nat) : Cursor :=
  { c with rest := c.rest.drop n, left := c.left - n, column := c.column + n }

/-- The characters up to the first that does not fit. -/
def takeWhile (c : Cursor) (p : Char → Bool) : List Char := c.rest.takeWhile p

/-- Moves over the characters of a line that fit. -/
def skipWhile (c : Cursor) (p : Char → Bool) : Cursor := c.skip (c.takeWhile p).length

/-- The start of the line after the break that comes next, which has the given number of
characters. -/
def newLine (c : Cursor) (n : Nat) : Cursor :=
  { rest := c.rest.drop n, left := c.left - n, line := c.line + 1, column := 0 }

/-- The break that comes next as a text keeps it, and the place after it. A break is kept as a line
feed, unless it parts lines or paragraphs by its nature; two characters can be one break. -/
def takeLine (c : Cursor) : List Char × Cursor :=
  match c.rest with
  | '\r' :: '\n' :: _ => (['\n'], c.newLine 2)
  | x :: _ =>
    if !isBreak x then ([], c)
    else ([if x == '\u2028' || x == '\u2029' then x else '\n'], c.newLine 1)
  | [] => ([], c)

/-- Moves over the break that comes next, if one does. -/
def skipLine (c : Cursor) : Cursor := c.takeLine.2

/-- Moves to the end of the line over a comment, if one comes next. -/
def skipComment (c : Cursor) : Cursor :=
  if c.isAt '#' then c.skipWhile fun x => !isBreak x else c

/-- Moves over the rest of a line that may hold blanks and a comment only. -/
def finishLine? (c : Cursor) : Option Cursor :=
  let c := (c.skipWhile isGap).skipComment
  if endsLine c.next? then some c.skipLine else none

/-- Whether a line starts here with a mark of three equal characters. -/
def atMarkOf (c : Cursor) (x : Char) : Bool :=
  c.column == 0 && c.rest.take 3 == [x, x, x] && endsWord (c.after? 3)

/-- Whether a line starts here with a mark that parts documents. -/
def atMark (c : Cursor) : Bool := c.atMarkOf '-' || c.atMarkOf '.'

end Cursor
end Yaml
end Shapewright
