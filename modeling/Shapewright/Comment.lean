import Shapewright.Text.Split

/-!
# Comment blocks

Documentation is written into comments, each line behind a marker.  A text with newlines keeps
them, and a line that is too wide is broken at its blanks; a text without newlines is filled word by
word.  Widths are counted in bytes.

* `broken` — the pieces of one line that is too wide.
* `filled` — a text laid out word by word.
* `block`, `comment` — the two entry points.
-/

set_option autoImplicit false

namespace Shapewright
namespace Comment

/-- The number of bytes of some characters. -/
def width : List Char → Nat
  | [] => 0
  | c :: rest => c.utf8Size + width rest

/-- The position, counted in characters, of the last blank that starts at a byte from 1 to
`limit`. -/
def lastBlank (limit : Nat) (cs : List Char) : Option Nat :=
  let starts := cs.zipIdx.map fun (c, i) => (c, i, width (cs.take i))
  (starts.filter fun (c, _, byte) => c == ' ' && 1 ≤ byte && byte ≤ limit).getLast?.map (·.2.1)

/-- The pieces of a line wider than `limit`, each ending before the last blank within the limit. A
rest that has no such blank is one piece; a rest within the limit is no piece of its own. The first
argument bounds the number of pieces. -/
def broken (limit : Nat) : Nat → List Char → List (List Char)
  | 0, _ => []
  | fuel + 1, cs =>
    if width cs ≤ limit then []
    else match lastBlank limit cs with
      | none => [cs]
      | some i => cs.take i :: broken limit fuel (cs.drop (i + 1))

/-- What is shown of one line of a text with newlines. -/
def shownLines (limit : Nat) (line : List Char) : List (List Char) :=
  match broken limit (line.length + 1) line with
  | [] => [line]
  | pieces => pieces

/-- How a block is laid out. -/
structure Layout where
  /-- Stands before the marker; only its width matters where the text is broken or filled. -/
  indent : String
  /-- Opens every line. -/
  marker : String
  /-- Columns skipped after each break; a negative number skips none and widens the line. -/
  lead : Int := 0
  /-- Columns of a line. -/
  columns : Int

/-- As many blanks as the indentation has bytes. -/
def Layout.margin (l : Layout) : List Char :=
  List.replicate (width l.indent.toList) ' '

/-- Sets the remaining words, `column` being where the last one ended. -/
def fill (l : Layout) (column : Int) (newline : Bool) : List (List Char) → List Char
  | [] => ['\n']
  | word :: rest =>
    let breaks := decide (column + width word ≥ l.columns - l.lead)
    let gap := if breaks then '\n' :: List.replicate l.lead.toNat ' ' else []
    if newline || breaks then
      let end_ := width l.indent.toList + width l.marker.toList + width word
      gap ++ l.margin ++ l.marker.toList ++ word ++ fill l end_ false rest
    else
      gap ++ ' ' :: word ++ fill l (column + width word + 1) false rest

/-- A text without newlines, filled word by word. -/
def filled (l : Layout) (text : List Char) : List Char :=
  fill l 0 true (text.splitOn ' ')

/-- A block of text behind its marker. Where there are newlines, a negative number of columns counts
as none; breaking a line to fewer columns than none would not end. -/
def block (l : Layout) (text : String) : String :=
  if Text.hasChar '\n' text then
    String.ofList ((text.toList.splitOn '\n').flatMap fun line =>
      (shownLines l.columns.toNat line).flatMap fun piece =>
        l.margin ++ l.marker.toList ++ piece ++ ['\n'])
  else if l.columns - l.lead ≤ width l.indent.toList then
    l.indent ++ l.marker ++ text ++ "\n"
  else String.ofList (filled l text.toList)

/-- A comment; with `padded` an empty line of it comes before and after. -/
def comment (indent marker text : String) (columns : Int) (padded : Bool) : String :=
  let body := block { indent, marker, columns } text
  if padded then indent ++ marker ++ "\n" ++ body ++ indent ++ marker ++ "\n" else body

end Comment
end Shapewright
